import MulticaOS.WorkQueue

/-!
The order of one queue: what the item requests of `handler/work_queue.go` and the dispatch
of an item do to the `seq` column.  A request runs to its end before the next one starts.
-/

namespace MulticaOS.WorkQueue.Ordering

/-- The columns of `work_queue_item` that its order depends on. -/
structure Entry where
  id : Id
  seq : Int
  status : ItemStatus
  deriving DecidableEq

structure State where
  entries : List Entry
  nextItem : Nat
  deriving DecidableEq

def emptyQueue : State := ⟨[], 0⟩

def int32 (value : Int) : Int := value.bmod (2 ^ 32)

inductive DispatchOutcome where
  | started
  | failed

/-- A request, a dispatch or the end of a task.  A dispatch names the item that
`NextPendingWorkQueueItem` returned. -/
inductive Action where
  | createItems (count : Nat)
  | reorderItems (order : List Id)
  | deleteItem (item : Id)
  | clearFinishedItems
  | retryItem (item : Id)
  | dispatch (item : Id) (outcome : DispatchOutcome)
  | syncItem (item : Id) (status : TerminalStatus)

def maxWorkQueueItemSeq (entries : List Entry) : Int := (entries.map Entry.seq).max?.getD 0

def updateWorkQueueItemSeq (item : Id) (seq : Int) (entries : List Entry) : List Entry :=
  TableLib.updateWhere (fun entry => entry.id = item) (fun entry => { entry with seq := seq }) entries

def setStatus (item : Id) (guard : ItemStatus → Bool) (status : ItemStatus) (entries : List Entry) :
    List Entry :=
  TableLib.updateWhere (fun entry => entry.id = item && guard entry.status)
    (fun entry => { entry with status := status }) entries

def markWorkQueueItemRunning (item : Id) : List Entry → List Entry :=
  setStatus item (fun _ => true) .running

def markWorkQueueItemTerminal (item : Id) (status : TerminalStatus) : List Entry → List Entry :=
  setStatus item (fun old => old = .running) status

def retryWorkQueueItem (item : Id) : List Entry → List Entry :=
  setStatus item (fun old => old = .failed) .pending

def deleteWorkQueueItem (item : Id) (entries : List Entry) : List Entry :=
  entries.filter fun entry => !(entry.id = item && entry.status ≠ .running)

def deleteFinishedWorkQueueItems (entries : List Entry) : List Entry :=
  entries.filter fun entry => !(entry.status = .completed || entry.status = .failed)

def pendingEntries (entries : List Entry) : List Entry :=
  entries.filter fun entry => entry.status = .pending

/-- `ORDER BY seq ASC LIMIT 1` may return any pending row with the least `seq`. -/
def MayBeNext (entries : List Entry) (entry : Entry) : Prop :=
  entry ∈ pendingEntries entries ∧ ∀ other ∈ pendingEntries entries, entry.seq ≤ other.seq

instance (entries : List Entry) (entry : Entry) : Decidable (MayBeNext entries entry) :=
  inferInstanceAs (Decidable (_ ∧ _))

def createdItem (state : State) (index : Nat) : Entry :=
  ⟨state.nextItem + index, int32 (maxWorkQueueItemSeq state.entries + index + 1), .pending⟩

def createdItems (state : State) (count : Nat) : List Entry :=
  (List.range count).map (createdItem state)

def reorderFrom (index : Nat) : List Id → List Entry → List Entry
  | [], entries => entries
  | item :: rest, entries =>
      reorderFrom (index + 1) rest (updateWorkQueueItemSeq item (int32 (index + 1)) entries)

def dispatched (item : Id) : DispatchOutcome → List Entry → List Entry
  | .started, entries => markWorkQueueItemRunning item entries
  | .failed, entries => markWorkQueueItemTerminal item failedStatus (markWorkQueueItemRunning item entries)

def dispatchNext (item : Id) (outcome : DispatchOutcome) (entries : List Entry) : List Entry :=
  if entries.any fun entry => entry.status = .running then entries
  else if entries.any fun entry => entry.id = item && MayBeNext entries entry then
    dispatched item outcome entries
  else entries

def step (state : State) : Action → State
  | .createItems count => ⟨state.entries ++ createdItems state count, state.nextItem + count⟩
  | .reorderItems order => { state with entries := reorderFrom 0 order state.entries }
  | .deleteItem item => { state with entries := deleteWorkQueueItem item state.entries }
  | .clearFinishedItems => { state with entries := deleteFinishedWorkQueueItems state.entries }
  | .retryItem item => { state with entries := retryWorkQueueItem item state.entries }
  | .dispatch item outcome => { state with entries := dispatchNext item outcome state.entries }
  | .syncItem item status => { state with entries := markWorkQueueItemTerminal item status state.entries }

theorem int32_bounds (value : Int) : -2 ^ 31 ≤ int32 value ∧ int32 value < 2 ^ 31 := by
  simp only [int32, Int.bmod]
  split <;> omega

theorem int32_of_fits {value : Int} (low : -2 ^ 31 ≤ value) (high : value < 2 ^ 31) :
    int32 value = value := by
  simp only [int32, Int.bmod]
  split <;> omega

theorem int32_eq_iff {left right : Int} : int32 left = int32 right ↔ 2 ^ 32 ∣ left - right := by
  simp only [int32, Int.bmod]
  split <;> split <;> omega

theorem maxSeq_mem {entries : List Entry} (nonempty : entries ≠ []) :
    ∃ entry ∈ entries, entry.seq = maxWorkQueueItemSeq entries := by
  have some : (entries.map Entry.seq).max? ≠ none := by simpa using nonempty
  obtain ⟨most, found⟩ := Option.ne_none_iff_exists'.mp some
  obtain ⟨entry, member, same⟩ := List.mem_map.mp (List.max?_mem found)
  exact ⟨entry, member, by rw [same, maxWorkQueueItemSeq, found, Option.getD_some]⟩

theorem le_maxSeq {entries : List Entry} {entry : Entry} (member : entry ∈ entries) :
    entry.seq ≤ maxWorkQueueItemSeq entries := by
  have listed : entry.seq ∈ entries.map Entry.seq := List.mem_map_of_mem member
  cases found : (entries.map Entry.seq).max? with
  | none => simp [List.max?_eq_none_iff.mp found] at listed
  | some most =>
      rw [maxWorkQueueItemSeq, found, Option.getD_some]
      exact (List.max?_eq_some_iff.mp found).2 _ listed

def lastPosition (item : Id) : List Id → Option Nat
  | [] => none
  | head :: rest =>
      match lastPosition item rest with
      | some later => some (later + 1)
      | none => if head = item then some 0 else none

def renumbered (order : List Id) (index : Nat) (entry : Entry) : Entry :=
  match lastPosition entry.id order with
  | none => entry
  | some position => { entry with seq := int32 (index + position + 1) }

@[simp] theorem renumbered_id (order : List Id) (index : Nat) (entry : Entry) :
    (renumbered order index entry).id = entry.id := by
  unfold renumbered
  split <;> rfl

@[simp] theorem renumbered_status (order : List Id) (index : Nat) (entry : Entry) :
    (renumbered order index entry).status = entry.status := by
  unfold renumbered
  split <;> rfl

theorem lastPosition_get {item : Id} {order : List Id} {position : Nat}
    (listed : lastPosition item order = some position) : order[position]? = some item := by
  induction order generalizing position with
  | nil => contradiction
  | cons head rest ih =>
      unfold lastPosition at listed
      cases later : lastPosition item rest with
      | some other =>
          obtain rfl : other + 1 = position := by simpa [later] using listed
          exact ih later
      | none =>
          rw [later] at listed
          obtain ⟨same, rfl⟩ : head = item ∧ 0 = position := by simpa using listed
          rw [List.getElem?_cons_zero, same]

theorem renumbered_cons (index : Nat) (item : Id) (rest : List Id) (entry : Entry) :
    renumbered (item :: rest) index entry = renumbered rest (index + 1)
      (if entry.id = item then { entry with seq := int32 (index + 1) } else entry) := by
  have next (position : Nat) : ((index + 1 : Nat) : Int) + position + 1 = index + (position + 1 : Nat) + 1 := by
    omega
  by_cases here : entry.id = item
  · subst here
    cases later : lastPosition entry.id rest with
    | none => simp [renumbered, lastPosition, later]
    | some position => simp only [renumbered, lastPosition, later, if_true, next]
  · cases later : lastPosition entry.id rest with
    | none => simp [renumbered, lastPosition, later, here, Ne.symm here]
    | some position => simp only [renumbered, lastPosition, later, if_neg here, next]

theorem reorderFrom_eq (index : Nat) (order : List Id) (entries : List Entry) :
    reorderFrom index order entries = entries.map (renumbered order index) := by
  induction order generalizing index entries with
  | nil => exact (List.map_id entries).symm
  | cons item rest ih =>
      rw [reorderFrom, ih, updateWorkQueueItemSeq, TableLib.updateWhere, List.map_map]
      refine List.map_congr_left fun entry _ => ?_
      rw [renumbered_cons]
      simp only [Function.comp, decide_eq_true_eq]

structure Numbered (state : State) : Prop where
  distinct : (state.entries.map Entry.id).Nodup
  fresh : ∀ entry ∈ state.entries, entry.id < state.nextItem
  fits : ∀ entry ∈ state.entries, -2 ^ 31 ≤ entry.seq ∧ entry.seq < 2 ^ 31

def Retains (before after : List Entry) : Prop :=
  List.Sublist (after.map fun entry => (entry.id, entry.seq)) (before.map fun entry => (entry.id, entry.seq))

theorem dispatchNext_cases (item : Id) (outcome : DispatchOutcome) (entries : List Entry) :
    dispatchNext item outcome entries = entries ∨
      dispatchNext item outcome entries = markWorkQueueItemRunning item entries ∨
      dispatchNext item outcome entries =
        markWorkQueueItemTerminal item failedStatus (markWorkQueueItemRunning item entries) := by
  unfold dispatchNext
  split
  · exact Or.inl rfl
  · split
    · cases outcome with
      | started => exact Or.inr (Or.inl rfl)
      | failed => exact Or.inr (Or.inr rfl)
    · exact Or.inl rfl

theorem retains_filter (keep : Entry → Bool) (entries : List Entry) :
    Retains entries (entries.filter keep) :=
  List.filter_sublist.map _

theorem retains_setStatus (item : Id) (guard : ItemStatus → Bool) (status : ItemStatus)
    (entries : List Entry) : Retains entries (setStatus item guard status entries) := by
  have keeps (entry : Entry) : (fun row : Entry => (row.id, row.seq)) { entry with status := status } =
      (entry.id, entry.seq) := rfl
  rw [Retains, setStatus, TableLib.map_updateWhere keeps]

theorem retains_dispatchNext (item : Id) (outcome : DispatchOutcome) (entries : List Entry) :
    Retains entries (dispatchNext item outcome entries) := by
  have running : Retains entries (markWorkQueueItemRunning item entries) := retains_setStatus _ _ _ _
  rcases dispatchNext_cases item outcome entries with same | same | same
  · rw [same]
    exact List.Sublist.refl _
  · rw [same]
    exact running
  · rw [same]
    exact List.Sublist.trans (retains_setStatus item _ _ _) running

theorem Numbered.retained {entries : List Entry} {state : State} (numbered : Numbered state)
    (retains : Retains state.entries entries) : Numbered { state with entries := entries } := by
  have rows : ∀ entry ∈ entries, ∃ old ∈ state.entries, old.id = entry.id ∧ old.seq = entry.seq := by
    intro entry member
    have listed := retains.subset (List.mem_map_of_mem member)
    obtain ⟨old, isOld, same⟩ := List.mem_map.mp listed
    exact ⟨old, isOld, congrArg Prod.fst same, congrArg Prod.snd same⟩
  refine ⟨?_, fun entry member => ?_, fun entry member => ?_⟩
  · have ids := List.Sublist.map Prod.fst retains
    simp only [List.map_map] at ids
    exact numbered.distinct.sublist ids
  · obtain ⟨old, isOld, sameId, -⟩ := rows entry member
    exact sameId ▸ numbered.fresh old isOld
  · obtain ⟨old, isOld, -, sameSeq⟩ := rows entry member
    exact sameSeq ▸ numbered.fits old isOld

theorem Numbered.reordered {state : State} (numbered : Numbered state) (order : List Id) :
    Numbered { state with entries := reorderFrom 0 order state.entries } := by
  rw [reorderFrom_eq]
  refine ⟨?_, fun entry member => ?_, fun entry member => ?_⟩
  · have ids : (state.entries.map (renumbered order 0)).map Entry.id = state.entries.map Entry.id := by
      simp
    rw [ids]
    exact numbered.distinct
  · obtain ⟨old, isOld, rfl⟩ := List.mem_map.mp member
    rw [renumbered_id]
    exact numbered.fresh old isOld
  · obtain ⟨old, isOld, rfl⟩ := List.mem_map.mp member
    unfold renumbered
    split
    · exact numbered.fits old isOld
    · dsimp only
      exact int32_bounds _

theorem createdItems_mem {state : State} {count : Nat} {entry : Entry}
    (member : entry ∈ createdItems state count) :
    ∃ index < count, entry = createdItem state index := by
  obtain ⟨index, below, rfl⟩ := List.mem_map.mp member
  exact ⟨index, List.mem_range.mp below, rfl⟩

theorem Numbered.created {state : State} (numbered : Numbered state) (count : Nat) :
    Numbered ⟨state.entries ++ createdItems state count, state.nextItem + count⟩ := by
  refine ⟨?_, fun entry member => ?_, fun entry member => ?_⟩
  · rw [List.map_append, List.nodup_append]
    refine ⟨numbered.distinct, ?_, ?_⟩
    · rw [createdItems, List.map_map]
      refine List.nodup_range.map fun left right same => ?_
      exact Nat.add_left_cancel same
    · intro old isOld new isNew same
      obtain ⟨entry, member, rfl⟩ := List.mem_map.mp isOld
      obtain ⟨created, isCreated, rfl⟩ := List.mem_map.mp isNew
      obtain ⟨index, -, rfl⟩ := createdItems_mem isCreated
      have below := numbered.fresh entry member
      rw [same, createdItem] at below
      exact absurd below (by simp)
  · rcases List.mem_append.mp member with old | new
    · have below := numbered.fresh entry old
      exact Nat.lt_add_right count below
    · obtain ⟨index, below, rfl⟩ := createdItems_mem new
      exact Nat.add_lt_add_left below _
  · rcases List.mem_append.mp member with old | new
    · exact numbered.fits entry old
    · obtain ⟨index, -, rfl⟩ := createdItems_mem new
      exact int32_bounds _

theorem step_numbered (state : State) (action : Action) (numbered : Numbered state) :
    Numbered (step state action) := by
  cases action with
  | createItems count => exact numbered.created count
  | reorderItems order => exact numbered.reordered order
  | deleteItem item => exact numbered.retained (retains_filter _ _)
  | clearFinishedItems => exact numbered.retained (retains_filter _ _)
  | retryItem item => exact numbered.retained (retains_setStatus _ _ _ _)
  | dispatch item outcome => exact numbered.retained (retains_dispatchNext _ _ _)
  | syncItem item status => exact numbered.retained (retains_setStatus _ _ _ _)

theorem emptyQueue_numbered : Numbered emptyQueue :=
  ⟨List.nodup_nil, nofun, nofun⟩

def SeqsDistinct (entries : List Entry) : Prop := ((pendingEntries entries).map Entry.seq).Nodup

instance (entries : List Entry) : Decidable (SeqsDistinct entries) :=
  inferInstanceAs (Decidable (List.Nodup _))

theorem mem_pending {entries : List Entry} {entry : Entry} :
    entry ∈ pendingEntries entries ↔ entry ∈ entries ∧ entry.status = .pending := by
  simp [pendingEntries]

theorem pendingEntries_nodup {entries : List Entry} (distinct : (entries.map Entry.id).Nodup) :
    (pendingEntries entries).Nodup :=
  distinct.of_map.filter _

theorem seqsDistinct_iff {entries : List Entry} (distinct : (entries.map Entry.id).Nodup) :
    SeqsDistinct entries ↔ ∀ left ∈ pendingEntries entries, ∀ right ∈ pendingEntries entries,
      left.seq = right.seq → left = right :=
  List.nodup_map_iff_inj_on (pendingEntries_nodup distinct)

theorem SeqsDistinct.next_unique {entries : List Entry} (distinct : (entries.map Entry.id).Nodup)
    (apart : SeqsDistinct entries) {left right : Entry} (leftNext : MayBeNext entries left)
    (rightNext : MayBeNext entries right) : left = right := by
  refine (seqsDistinct_iff distinct).mp apart left leftNext.1 right rightNext.1 ?_
  exact Int.le_antisymm (leftNext.2 right rightNext.1) (rightNext.2 left leftNext.1)

theorem SeqsDistinct.of_subset {before after : List Entry} (distinctBefore : (before.map Entry.id).Nodup)
    (distinctAfter : (after.map Entry.id).Nodup) (apart : SeqsDistinct before)
    (subset : ∀ entry ∈ pendingEntries after, entry ∈ pendingEntries before) : SeqsDistinct after :=
  (seqsDistinct_iff distinctAfter).mpr fun left leftPending right rightPending =>
    (seqsDistinct_iff distinctBefore).mp apart left (subset left leftPending) right
      (subset right rightPending)

theorem pending_setStatus {item : Id} {guard : ItemStatus → Bool} {status : ItemStatus}
    {entries : List Entry} {entry : Entry} (changes : status ≠ .pending)
    (pending : entry ∈ pendingEntries (setStatus item guard status entries)) :
    entry ∈ pendingEntries entries := by
  obtain ⟨member, isPending⟩ := mem_pending.mp pending
  rcases TableLib.mem_updateWhere member with ⟨listed, -⟩ | ⟨old, -, -, rfl⟩
  · exact mem_pending.mpr ⟨listed, isPending⟩
  · exact absurd isPending changes

theorem pending_filter {keep : Entry → Bool} {entries : List Entry} {entry : Entry}
    (pending : entry ∈ pendingEntries (entries.filter keep)) : entry ∈ pendingEntries entries := by
  obtain ⟨member, isPending⟩ := mem_pending.mp pending
  exact mem_pending.mpr ⟨(List.mem_filter.mp member).1, isPending⟩

theorem pending_dispatchNext {item : Id} {outcome : DispatchOutcome} {entries : List Entry} {entry : Entry}
    (pending : entry ∈ pendingEntries (dispatchNext item outcome entries)) :
    entry ∈ pendingEntries entries := by
  rcases dispatchNext_cases item outcome entries with same | same | same
  · exact same ▸ pending
  · rw [same] at pending
    exact pending_setStatus (by decide) pending
  · rw [same] at pending
    have running : entry ∈ pendingEntries (markWorkQueueItemRunning item entries) :=
      pending_setStatus (by decide) pending
    exact pending_setStatus (by decide) running

theorem mem_pending_retry {item : Id} {entries : List Entry} {entry : Entry} :
    entry ∈ pendingEntries (retryWorkQueueItem item entries) ↔
      entry ∈ pendingEntries entries ∨ ∃ failed ∈ entries, failed.id = item ∧ failed.status = .failed ∧
        entry = { failed with status := .pending } := by
  rw [mem_pending]
  constructor
  · rintro ⟨member, isPending⟩
    rcases TableLib.mem_updateWhere member with ⟨listed, -⟩ | ⟨failed, listed, matched, rfl⟩
    · exact Or.inl (mem_pending.mpr ⟨listed, isPending⟩)
    · obtain ⟨isItem, hasFailed⟩ : failed.id = item ∧ failed.status = .failed := by simpa using matched
      exact Or.inr ⟨failed, listed, isItem, hasFailed, rfl⟩
  · rintro (pending | ⟨failed, listed, isItem, hasFailed, rfl⟩)
    · obtain ⟨listed, isPending⟩ := mem_pending.mp pending
      exact ⟨List.mem_map.mpr ⟨entry, listed, by simp [isPending]⟩, isPending⟩
    · exact ⟨List.mem_map.mpr ⟨failed, listed, by simp [isItem, hasFailed]⟩, rfl⟩

theorem pending_renumbered (order : List Id) (index : Nat) (entries : List Entry) :
    pendingEntries (entries.map (renumbered order index)) =
      (pendingEntries entries).map (renumbered order index) := by
  rw [pendingEntries, pendingEntries, List.filter_map]
  refine congrArg (List.map _) (List.filter_congr fun entry _ => ?_)
  simp [Function.comp]

/-- The numbers that the loop gives to the listed items, in an `int32`, against each other and
against the numbers of the items that the order leaves out. -/
def Apart (order : List Id) (left right : Entry) : Prop :=
  match lastPosition left.id order, lastPosition right.id order with
  | some here, some there => here ≠ there → ¬ (2 ^ 32 : Int) ∣ here - there
  | some here, none => right.seq ≠ int32 (here + 1)
  | none, _ => True

instance (order : List Id) (left right : Entry) : Decidable (Apart order left right) := by
  unfold Apart
  split <;> infer_instance

def CreateFits (state : State) (count : Nat) : Prop :=
  count ≤ 2 ^ 32 ∧ (state.entries = [] ∨ maxWorkQueueItemSeq state.entries + count < 2 ^ 31)

def ReorderApart (entries : List Entry) (order : List Id) : Prop :=
  ∀ left ∈ pendingEntries entries, ∀ right ∈ pendingEntries entries, Apart order left right

def RetryApart (entries : List Entry) (item : Id) : Prop :=
  ∀ failed ∈ entries, failed.id = item → failed.status = .failed →
    ∀ pending ∈ pendingEntries entries, pending.seq ≠ failed.seq

def KeepsApart (state : State) : Action → Prop
  | .createItems count => CreateFits state count
  | .reorderItems order => ReorderApart state.entries order
  | .retryItem item => RetryApart state.entries item
  | .deleteItem _ | .clearFinishedItems | .dispatch _ _ | .syncItem _ _ => True

def SortsAfter (state : State) : Action → Prop
  | .createItems count => ∀ old ∈ state.entries, ∀ new ∈ createdItems state count, old.seq < new.seq
  | _ => True

theorem created_distinct (state : State) (count : Nat) :
    ((createdItems state count).map Entry.seq).Nodup ↔ count ≤ 2 ^ 32 := by
  rw [createdItems, List.map_map, List.nodup_map_iff_inj_on List.nodup_range]
  constructor
  · intro apart
    by_contra more
    have same := apart 0 (List.mem_range.mpr (by omega)) (2 ^ 32) (List.mem_range.mpr (by omega))
      (int32_eq_iff.mpr (by omega))
    omega
  · intro few left leftBelow right rightBelow same
    have divides := int32_eq_iff.mp same
    rw [List.mem_range] at leftBelow rightBelow
    omega

theorem created_after {state : State} (numbered : Numbered state) (count : Nat) :
    (∀ old ∈ state.entries, ∀ new ∈ createdItems state count, old.seq < new.seq) ↔
      state.entries = [] ∨ maxWorkQueueItemSeq state.entries + count < 2 ^ 31 := by
  constructor
  · intro after
    by_cases empty : state.entries = []
    · exact Or.inl empty
    · refine Or.inr (Int.not_le.mp fun wraps => ?_)
      obtain ⟨last, listed, isLast⟩ := maxSeq_mem empty
      have fits := numbered.fits last listed
      -- the item that would be numbered `2 ^ 31` gets the least number instead
      have new : createdItem state (2 ^ 31 - 1 - last.seq).toNat ∈ createdItems state count :=
        List.mem_map_of_mem (List.mem_range.mpr (by omega))
      have above := after last listed _ new
      have number : maxWorkQueueItemSeq state.entries + (2 ^ 31 - 1 - last.seq).toNat + 1 = 2 ^ 31 := by
        omega
      have least : int32 (2 ^ 31) = -2 ^ 31 := by decide
      simp only [createdItem, number, least] at above
      omega
  · rintro (empty | fits) old listed new isNew
    · simp [empty] at listed
    · obtain ⟨index, below, rfl⟩ := createdItems_mem isNew
      have atMost := le_maxSeq listed
      have bounds := numbered.fits old listed
      have number : int32 (maxWorkQueueItemSeq state.entries + index + 1) = _ :=
        int32_of_fits (by omega) (by omega)
      simp only [createdItem, number]
      omega

theorem create_keeps_apart {state : State} {count : Nat} (numbered : Numbered state)
    (apart : SeqsDistinct state.entries) :
    (SeqsDistinct (step state (.createItems count)).entries ∧ SortsAfter state (.createItems count)) ↔
      CreateFits state count := by
  have pendings : pendingEntries (state.entries ++ createdItems state count) =
      pendingEntries state.entries ++ createdItems state count := by
    rw [pendingEntries, List.filter_append]
    refine congrArg (_ ++ ·) (List.filter_eq_self.mpr fun entry member => ?_)
    obtain ⟨index, -, rfl⟩ := createdItems_mem member
    rfl
  unfold CreateFits
  rw [← created_after numbered, ← created_distinct state]
  simp only [SeqsDistinct, SortsAfter, step, pendings, List.map_append, List.nodup_append]
  constructor
  · rintro ⟨⟨-, distinct, -⟩, after⟩
    exact ⟨distinct, after⟩
  · rintro ⟨distinct, after⟩
    refine ⟨⟨apart, distinct, ?_⟩, after⟩
    intro old isOld new isNew same
    obtain ⟨entry, pending, rfl⟩ := List.mem_map.mp isOld
    obtain ⟨created, isCreated, rfl⟩ := List.mem_map.mp isNew
    have below := after entry (mem_pending.mp pending).1 created isCreated
    omega

theorem reorder_keeps_apart {state : State} {order : List Id} (numbered : Numbered state)
    (apart : SeqsDistinct state.entries) :
    SeqsDistinct (step state (.reorderItems order)).entries ↔ ReorderApart state.entries order := by
  have before := (seqsDistinct_iff numbered.distinct).mp apart
  rw [step, SeqsDistinct, reorderFrom_eq, pending_renumbered, List.map_map,
    List.nodup_map_iff_inj_on (pendingEntries_nodup numbered.distinct)]
  constructor
  · intro injective left leftPending right rightPending
    have same := injective left leftPending right rightPending
    simp only [Function.comp, renumbered] at same
    unfold Apart
    split
    · rename_i here there leftListed rightListed
      simp only [leftListed, rightListed, int32_eq_iff] at same
      intro different divides
      have equal := same (by omega)
      rw [equal, rightListed] at leftListed
      exact different (Option.some.inj leftListed).symm
    · rename_i here leftListed rightUnlisted
      have number : ((0 : Nat) : Int) + here + 1 = here + 1 := by omega
      simp only [leftListed, rightUnlisted, number] at same
      intro collides
      have equal := same collides.symm
      rw [equal, rightUnlisted] at leftListed
      contradiction
    · trivial
  · intro kept left leftPending right rightPending same
    have forth := kept left leftPending right rightPending
    have back := kept right rightPending left leftPending
    simp only [Function.comp, renumbered] at same
    unfold Apart at forth back
    cases leftListed : lastPosition left.id order with
    | none =>
        cases rightListed : lastPosition right.id order with
        | none =>
            simp only [leftListed, rightListed] at same
            exact before left leftPending right rightPending same
        | some there =>
            simp only [leftListed, rightListed] at same back
            exact absurd same (by simpa using back)
    | some here =>
        cases rightListed : lastPosition right.id order with
        | none =>
            simp only [leftListed, rightListed] at same forth
            exact absurd same.symm (by simpa using forth)
        | some there =>
            simp only [leftListed, rightListed] at same forth
            have divides := int32_eq_iff.mp same
            have samePosition : here = there := by
              by_contra different
              exact forth different (by omega)
            have leftId := lastPosition_get leftListed
            have rightId := lastPosition_get rightListed
            rw [samePosition, rightId] at leftId
            exact List.inj_on_of_nodup_map numbered.distinct (mem_pending.mp leftPending).1
              (mem_pending.mp rightPending).1 (Option.some.inj leftId).symm

theorem retry_keeps_apart {state : State} {item : Id} (numbered : Numbered state)
    (apart : SeqsDistinct state.entries) :
    SeqsDistinct (step state (.retryItem item)).entries ↔ RetryApart state.entries item := by
  have after := (step_numbered state (.retryItem item) numbered).distinct
  have before := (seqsDistinct_iff numbered.distinct).mp apart
  rw [seqsDistinct_iff after]
  simp only [step, mem_pending_retry]
  constructor
  · intro injective failed listed isItem hasFailed pending isPending same
    have equal := injective pending (Or.inl isPending) _
      (Or.inr ⟨failed, listed, isItem, hasFailed, rfl⟩) same
    have row : pending = failed := List.inj_on_of_nodup_map numbered.distinct
      (mem_pending.mp isPending).1 listed (by rw [equal])
    have status := (mem_pending.mp isPending).2
    rw [row, hasFailed] at status
    contradiction
  · intro kept left leftPending right rightPending same
    rcases leftPending with leftPending | ⟨failed, listed, isItem, hasFailed, rfl⟩
    · rcases rightPending with rightPending | ⟨failed, listed, isItem, hasFailed, rfl⟩
      · exact before left leftPending right rightPending same
      · exact absurd same (kept failed listed isItem hasFailed left leftPending)
    · rcases rightPending with rightPending | ⟨other, otherListed, otherItem, -, rfl⟩
      · exact absurd same.symm (kept failed listed isItem hasFailed right rightPending)
      · have row : failed = other := List.inj_on_of_nodup_map numbered.distinct listed otherListed
          (isItem.trans otherItem.symm)
        rw [row]

theorem step_keeps_apart (state : State) (action : Action) (numbered : Numbered state)
    (apart : SeqsDistinct state.entries) :
    (SeqsDistinct (step state action).entries ∧ SortsAfter state action) ↔ KeepsApart state action := by
  have after := (step_numbered state action numbered).distinct
  have subset := fun kept => SeqsDistinct.of_subset numbered.distinct after apart kept
  cases action with
  | createItems count => exact create_keeps_apart numbered apart
  | reorderItems order => exact (and_iff_left trivial).trans (reorder_keeps_apart numbered apart)
  | retryItem item => exact (and_iff_left trivial).trans (retry_keeps_apart numbered apart)
  | deleteItem item => exact iff_of_true ⟨subset fun _ => pending_filter, trivial⟩ trivial
  | clearFinishedItems => exact iff_of_true ⟨subset fun _ => pending_filter, trivial⟩ trivial
  | dispatch item outcome => exact iff_of_true ⟨subset fun _ => pending_dispatchNext, trivial⟩ trivial
  | syncItem item status =>
      have changes : status.1 ≠ .pending := by
        rcases status.2 with same | same <;> simp [same]
      have kept (entry : Entry) :
          entry ∈ pendingEntries (markWorkQueueItemTerminal item status state.entries) →
            entry ∈ pendingEntries state.entries := pending_setStatus changes
      exact iff_of_true ⟨subset kept, trivial⟩ trivial

structure TotallyOrdered (state : State) : Prop where
  distinct : SeqsDistinct state.entries
  next : ∀ left right, MayBeNext state.entries left → MayBeNext state.entries right → left = right

theorem totallyOrdered_iff {state : State} (numbered : Numbered state) :
    TotallyOrdered state ↔ SeqsDistinct state.entries :=
  ⟨TotallyOrdered.distinct, fun apart =>
    ⟨apart, fun _ _ => SeqsDistinct.next_unique numbered.distinct apart⟩⟩

/-- The queue stays ordered, and new items come last, exactly when every request of the run keeps
the numbers apart. -/
theorem queue_totally_ordered (actions : List Action) :
    (RunLib.Always step TotallyOrdered emptyQueue actions ∧
      RunLib.Every step SortsAfter emptyQueue actions) ↔
      RunLib.Every step KeepsApart emptyQueue actions := by
  refine RunLib.always_and_every_iff emptyQueue_numbered ?_ step_numbered ?_
  · exact (totallyOrdered_iff emptyQueue_numbered).mpr List.nodup_nil
  · intro state action numbered ordered
    rw [totallyOrdered_iff (step_numbered state action numbered)]
    exact step_keeps_apart state action numbered ordered.distinct

/-- An order request that names the second of two pending items gives it the first one's number. -/
theorem reordered_items_collide :
    ¬ RunLib.Always step TotallyOrdered emptyQueue [.createItems 2, .reorderItems [1]] := by
  rintro ⟨-, -, collided⟩
  exact absurd collided.distinct (by decide)

end MulticaOS.WorkQueue.Ordering
