import Mathlib.Data.List.Sort

/-!
The transcript of one task in the client's cache: live events and backfills are merged by `seq`,
translated from `queries.ts`.
-/

namespace MulticaOS.Transcripts

structure TaskMessage (Body : Type) where
  seq : Int
  body : Body
  deriving DecidableEq

variable {Body : Type}

def seqs (messages : List (TaskMessage Body)) : List Int := messages.map TaskMessage.seq

def fresh (existing incoming : List (TaskMessage Body)) : List (TaskMessage Body) :=
  incoming.filter fun message => message.seq ∉ seqs existing

def sortBySeq (messages : List (TaskMessage Body)) : List (TaskMessage Body) :=
  messages.insertionSort fun left right => left.seq ≤ right.seq

def mergeTaskMessagesBySeq (existing incoming : List (TaskMessage Body)) : List (TaskMessage Body) :=
  if incoming = [] then existing
  else if fresh existing incoming = [] then existing
  else sortBySeq (existing ++ fresh existing incoming)

def mergeBatches (batches : List (List (TaskMessage Body))) : List (TaskMessage Body) :=
  batches.foldl mergeTaskMessagesBySeq []

def Identified (messages : List (TaskMessage Body)) : Prop :=
  ∀ left ∈ messages, ∀ right ∈ messages, left.seq = right.seq → left = right

def StrictlyOrdered (messages : List (TaskMessage Body)) : Prop :=
  messages.Pairwise fun left right => left.seq < right.seq

/-- The list holds exactly the messages, each once, in strictly increasing order of seq. -/
structure Transcript (messages merged : List (TaskMessage Body)) : Prop where
  ordered : StrictlyOrdered merged
  complete : ∀ message, message ∈ merged ↔ message ∈ messages

def freshOnce (known : List Int) : List (List (TaskMessage Body)) → Prop
  | [] => True
  | incoming :: rest =>
      ((seqs incoming).filter (· ∉ known)).Nodup ∧ freshOnce (known ++ seqs incoming) rest

theorem seqs_fresh (existing incoming : List (TaskMessage Body)) :
    seqs (fresh existing incoming) = (seqs incoming).filter (· ∉ seqs existing) := by
  induction incoming with
  | nil => rfl
  | cons first rest ih =>
      simp only [fresh, seqs, List.map_cons, List.filter_cons] at ih ⊢
      split
      · rw [List.map_cons, ih]
      · exact ih

theorem mem_fresh {existing incoming : List (TaskMessage Body)} {message : TaskMessage Body} :
    message ∈ fresh existing incoming ↔ message ∈ incoming ∧ message.seq ∉ seqs existing := by
  simp [fresh]

theorem merge_of_known {existing incoming : List (TaskMessage Body)}
    (known : ∀ message ∈ incoming, message.seq ∈ seqs existing) :
    mergeTaskMessagesBySeq existing incoming = existing := by
  have nothing : fresh existing incoming = [] := by
    rw [fresh, List.filter_eq_nil_iff]
    intro message member
    simpa using known message member
  simp [mergeTaskMessagesBySeq, nothing]

theorem merge_perm (existing incoming : List (TaskMessage Body)) :
    (mergeTaskMessagesBySeq existing incoming).Perm (existing ++ fresh existing incoming) := by
  rw [mergeTaskMessagesBySeq]
  split
  · rename_i empty
    simp [empty, fresh]
  · split
    · rename_i nothing
      simp [nothing]
    · exact List.perm_insertionSort _ _

theorem seqs_merge (existing incoming : List (TaskMessage Body)) :
    (seqs (mergeTaskMessagesBySeq existing incoming)).Perm
      (seqs existing ++ (seqs incoming).filter (· ∉ seqs existing)) := by
  have perm := (merge_perm existing incoming).map TaskMessage.seq
  rwa [List.map_append, show (fresh existing incoming).map TaskMessage.seq = _ from
    seqs_fresh existing incoming] at perm

theorem mem_merge {existing incoming : List (TaskMessage Body)}
    (identified : Identified (existing ++ incoming)) {message : TaskMessage Body} :
    message ∈ mergeTaskMessagesBySeq existing incoming ↔ message ∈ existing ∨ message ∈ incoming := by
  rw [(merge_perm existing incoming).mem_iff, List.mem_append, mem_fresh]
  constructor
  · rintro (old | new)
    · exact Or.inl old
    · exact Or.inr new.1
  · rintro (old | new)
    · exact Or.inl old
    · by_cases known : message.seq ∈ seqs existing
      · obtain ⟨holder, held, same⟩ := List.mem_map.mp known
        have equal := identified holder (by simp [held]) message (by simp [new]) same
        exact Or.inl (equal ▸ held)
      · exact Or.inr ⟨new, known⟩

theorem ordered_iff {messages : List (TaskMessage Body)} :
    StrictlyOrdered messages ↔
      (messages.Pairwise fun left right => left.seq ≤ right.seq) ∧ (seqs messages).Nodup := by
  rw [seqs, List.Nodup, List.pairwise_map, ← List.pairwise_and_iff]
  constructor
  · intro ordered
    exact ordered.imp fun less => ⟨Int.le_of_lt less, Int.ne_of_lt less⟩
  · intro both
    exact both.imp fun ends => Int.lt_iff_le_and_ne.mpr ends

theorem merge_sorted {existing : List (TaskMessage Body)}
    (sorted : existing.Pairwise fun left right => left.seq ≤ right.seq)
    (incoming : List (TaskMessage Body)) :
    (mergeTaskMessagesBySeq existing incoming).Pairwise fun left right => left.seq ≤ right.seq := by
  rw [mergeTaskMessagesBySeq]
  split
  · exact sorted
  · split
    · exact sorted
    · exact @List.pairwise_insertionSort _ (fun left right : TaskMessage Body => left.seq ≤ right.seq) _
        ⟨fun left right => Int.le_total left.seq right.seq⟩ ⟨fun _ _ _ => Int.le_trans⟩ _

theorem merge_nodup {existing incoming : List (TaskMessage Body)} :
    (seqs (mergeTaskMessagesBySeq existing incoming)).Nodup ↔
      (seqs existing).Nodup ∧ ((seqs incoming).filter (· ∉ seqs existing)).Nodup := by
  rw [(seqs_merge existing incoming).nodup_iff, List.nodup_append']
  constructor
  · rintro ⟨old, new, -⟩
    exact ⟨old, new⟩
  · rintro ⟨old, new⟩
    refine ⟨old, new, fun seq known added => ?_⟩
    have absent := (List.mem_filter.mp added).2
    simp [known] at absent

theorem freshOnce_congr {left right : List Int} (same : ∀ seq, seq ∈ left ↔ seq ∈ right)
    (batches : List (List (TaskMessage Body))) : freshOnce left batches ↔ freshOnce right batches := by
  induction batches generalizing left right with
  | nil => exact Iff.rfl
  | cons incoming rest ih =>
      have kept : (seqs incoming).filter (· ∉ left) = (seqs incoming).filter (· ∉ right) := by
        refine List.filter_congr fun seq _ => ?_
        simp [same]
      rw [freshOnce, freshOnce, kept]
      exact and_congr_right fun _ => ih fun seq => by simp [same]

theorem fold_sorted {existing : List (TaskMessage Body)}
    (sorted : existing.Pairwise fun left right => left.seq ≤ right.seq)
    (batches : List (List (TaskMessage Body))) :
    (batches.foldl mergeTaskMessagesBySeq existing).Pairwise fun left right => left.seq ≤ right.seq := by
  induction batches generalizing existing with
  | nil => exact sorted
  | cons incoming rest ih => exact ih (merge_sorted sorted incoming)

theorem fold_nodup (existing : List (TaskMessage Body)) (batches : List (List (TaskMessage Body))) :
    (seqs (batches.foldl mergeTaskMessagesBySeq existing)).Nodup ↔
      (seqs existing).Nodup ∧ freshOnce (seqs existing) batches := by
  induction batches generalizing existing with
  | nil => simp [freshOnce]
  | cons incoming rest ih =>
      have known : ∀ seq, seq ∈ seqs (mergeTaskMessagesBySeq existing incoming) ↔
          seq ∈ seqs existing ++ seqs incoming := by
        intro seq
        rw [(seqs_merge existing incoming).mem_iff, List.mem_append, List.mem_append, List.mem_filter]
        by_cases held : seq ∈ seqs existing
        · simp [held]
        · simp [held]
      rw [List.foldl_cons, ih, merge_nodup, freshOnce_congr known, freshOnce, and_assoc]

theorem mem_fold {existing : List (TaskMessage Body)} {batches : List (List (TaskMessage Body))}
    (identified : Identified (existing ++ batches.flatten)) {message : TaskMessage Body} :
    message ∈ batches.foldl mergeTaskMessagesBySeq existing ↔
      message ∈ existing ∨ message ∈ batches.flatten := by
  induction batches generalizing existing with
  | nil => simp
  | cons incoming rest ih =>
      have first : Identified (existing ++ incoming) := by
        intro left leftIn right rightIn
        refine identified left ?_ right ?_
        · simp only [List.mem_append, List.flatten_cons] at leftIn ⊢
          exact leftIn.imp_right Or.inl
        · simp only [List.mem_append, List.flatten_cons] at rightIn ⊢
          exact rightIn.imp_right Or.inl
      have later : Identified (mergeTaskMessagesBySeq existing incoming ++ rest.flatten) := by
        intro left leftIn right rightIn
        refine identified left ?_ right ?_
        · rw [List.mem_append, mem_merge first, or_assoc] at leftIn
          simpa using leftIn
        · rw [List.mem_append, mem_merge first, or_assoc] at rightIn
          simpa using rightIn
      rw [List.foldl_cons, ih later, mem_merge first, List.flatten_cons, List.mem_append, or_assoc]

/-- The cache converges on the transcript, and a batch with nothing new changes nothing, exactly when
no batch repeats a seq that the list does not hold yet. -/
theorem transcript_iff_freshOnce (batches : List (List (TaskMessage Body)))
    (identified : Identified batches.flatten) :
    (Transcript batches.flatten (mergeBatches batches) ∧
      ∀ existing incoming : List (TaskMessage Body),
        (∀ message ∈ incoming, message.seq ∈ seqs existing) →
          mergeTaskMessagesBySeq existing incoming = existing) ↔
    freshOnce [] batches := by
  have sorted : (mergeBatches batches).Pairwise fun left right => left.seq ≤ right.seq :=
    fold_sorted List.Pairwise.nil batches
  have nodup : (seqs (mergeBatches batches)).Nodup ↔ freshOnce [] batches := by
    rw [mergeBatches, fold_nodup]
    simp [seqs]
  constructor
  · rintro ⟨transcript, -⟩
    exact nodup.mp (ordered_iff.mp transcript.ordered).2
  · intro once
    refine ⟨⟨ordered_iff.mpr ⟨sorted, nodup.mpr once⟩, fun message => ?_⟩, fun _ _ => merge_of_known⟩
    have all : Identified ([] ++ batches.flatten) := identified
    rw [mergeBatches, mem_fold all]
    simp

def spoken (seq : Int) : TaskMessage String := ⟨seq, "m"⟩

theorem transcript_overlapping :
    Transcript [spoken 2, spoken 1, spoken 1, spoken 3, spoken 2]
        (mergeBatches [[spoken 2], [spoken 1], [spoken 1, spoken 3, spoken 2]]) ∧
      ∀ existing incoming : List (TaskMessage String),
        (∀ message ∈ incoming, message.seq ∈ seqs existing) →
          mergeTaskMessagesBySeq existing incoming = existing :=
  (transcript_iff_freshOnce [[spoken 2], [spoken 1], [spoken 1, spoken 3, spoken 2]]
    (by unfold Identified; decide)).mpr (by simp [freshOnce, seqs, spoken])

/-- A backfill that holds one message twice puts it into the list twice. -/
theorem transcript_repeated :
    Identified [spoken 1, spoken 1] ∧
      ¬Transcript [spoken 1, spoken 1] (mergeBatches [[spoken 1, spoken 1]]) := by
  refine ⟨by unfold Identified; decide, fun transcript => ?_⟩
  have ordered := transcript.ordered
  have merged : mergeBatches [[spoken 1, spoken 1]] = [spoken 1, spoken 1] := by decide
  rw [merged] at ordered
  exact absurd ordered (by unfold StrictlyOrdered; decide)

end MulticaOS.Transcripts
