import MulticaOS.Media.Standings

/-!
What a thread knows in each phase, and what the answer to its next call does to the books of the
ledger.
-/

namespace MulticaOS.Media

open ProgramLib

def Call.Sound (store : Store) (shared : Shared) : Call → Prop
  | .record intent => intent.storageURL = store.objectURL intent.storageKey
  | .renew _ _ _ => True
  | .release _ _ _ _ => True
  | .tombstone storageKey _ _ _ pass =>
      .claimed storageKey ∈ shared.history ∧ (beforeTombstone storageKey pass).Sublist shared.history
  | .clear storageKey _ _ => .claimed storageKey ∈ shared.history ∧ shared.Exhausted storageKey
  | _ => False

def Call.records : Call → List String
  | .record intent => [intent.storageKey]
  | _ => []

structure ClaimedRow.Sound (store : Store) (shared : Shared) (claimed : ClaimedRow) : Prop where
  claims : .claimed claimed.storageKey ∈ shared.history
  row : claimed.row.Sound store shared.history claimed.storageKey

def LedgerRow.position (row : LedgerRow) : Nat :=
  if row.state = .tombstoned then row.tombstonePass + 1 else 0

def MediaRef.Sound (store : Store) (ref : MediaRef) : Prop := ref.storageURL = store.objectURL ref.storageKey

def Phase.Sound (store : Store) (shared : Shared) : Phase → Prop
  | .resolving _ refs => ∀ ref ∈ refs, ref.Sound store
  | .recorded storageKey _ refs => ¬ Fresh store shared storageKey ∧ ∀ ref ∈ refs, ref.Sound store
  | .resolved refs => ∀ ref ∈ refs, ref.Sound store
  | .opened refs => ∀ ref ∈ refs, ref.Sound store
  | .attaching _ _ => True
  | .failing => True
  | .closed => True
  | .sweeping => True
  | .settling batch => ∀ claimed ∈ batch, claimed.Sound store shared
  | .kept _ _ => False
  | .unreferenced claimed batch => claimed ∈ batch ∧ ∀ claimed ∈ batch, claimed.Sound store shared
  | .removed claimed batch => claimed ∈ batch ∧ (∀ claimed ∈ batch, claimed.Sound store shared) ∧
      (beforeTombstone claimed.storageKey claimed.row.position).Sublist shared.history

structure Attaching (store : Store) (claimed : List String) (todo : List MediaRef)
    (attachments : List Attachment) : Prop where
  urls : ∀ attachment ∈ attachments, ∃ key ∈ claimed, attachment.url = store.objectURL key
  covers : ∀ key ∈ claimed, (∃ ref ∈ todo, ref.storageKey = key) ∨
    ∃ attachment ∈ attachments, attachment.url = store.objectURL key
  refs : ∀ ref ∈ todo, ref.Sound store ∧ ref.storageKey ∈ claimed

def Consistent (store : Store) : Phase → Option BindTransaction → Prop
  | .opened _, transaction => transaction = some ⟨[], [], false⟩
  | .attaching claimed todo, transaction =>
      ∃ attachments, transaction = some ⟨claimed, attachments, false⟩ ∧ Attaching store claimed todo attachments
  | .failing, transaction => ∀ opened, transaction = some opened → opened.committing = false
  | _, transaction => transaction = none

def BindTransaction.Sound (store : Store) (opened : BindTransaction) : Prop :=
  opened.committing = true → Covers store opened.held opened.attachments

def heldOf : Option BindTransaction → List String
  | none => []
  | some opened => opened.held

section Statements

variable {store : Store} {shared later : Shared} {held rest started : List String} {key : String}

theorem change_sound {workspaceID : String} {leaseToken : Nat} {change : LedgerRow → Option LedgerRow}
    {changed : LedgerRow → LedgerRow} (sound : Sound store shared held rest started)
    (keeps : ∀ row, change row = some (changed row))
    (same : ∀ row, (changed row).state = row.state ∧ (changed row).storageURL = row.storageURL ∧
      (changed row).tombstonePass = row.tombstonePass) :
    Sound store { shared with ledger := shared.ledger.change key workspaceID leaseToken change } held rest
        started ∧
      Grows store shared { shared with ledger := shared.ledger.change key workspaceID leaseToken change } := by
  unfold Ledger.change
  by_cases owned : shared.ledger.owned key workspaceID leaseToken = true
  · rw [if_pos owned]
    cases found : shared.ledger key with
    | none => simp [Ledger.owned, found] at owned
    | some row =>
        rw [Option.bind_some, keeps row]
        exact row_sound sound found (same row)
  · rw [if_neg owned]
    exact ⟨sound, Grows.refl⟩

theorem execute_sound {statement : Call} (now : Nat) (known : statement.Sound store shared)
    (sound : Sound store shared held (statement.records ++ rest) started) :
    Sound store (shared.execute now statement) held rest started ∧
      Grows store shared (shared.execute now statement) := by
  cases statement with
  | record intent =>
      have none : shared.ledger intent.storageKey = none := (sound.awaits _ (by simp [Call.records])).row
      simp only [Shared.execute, Ledger.record, none, Option.getD_some]
      exact record_sound sound rfl known
  | renew storageKey workspaceID leaseToken => exact change_sound sound (fun _ => rfl) fun _ => ⟨rfl, rfl, rfl⟩
  | release storageKey workspaceID leaseToken backoff =>
      exact change_sound sound (fun _ => rfl) fun _ => ⟨rfl, rfl, rfl⟩
  | tombstone storageKey workspaceID leaseToken delay pass =>
      obtain ⟨claimed, walked⟩ := known
      simp only [Shared.execute, Ledger.change]
      by_cases owned : shared.ledger.owned storageKey workspaceID leaseToken = true
      · rw [if_pos owned, if_pos owned]
        cases found : shared.ledger storageKey with
        | none => simp [Ledger.owned, found] at owned
        | some row =>
            have right := ((sound.standing storageKey).of_row found).1
            refine condemned_sound sound claimed ((List.Sublist.refl _).cons _) (by simp) (by simp [LedgerRow.tombstone]) ?_
            intro changed same
            obtain rfl := Option.some.inj same
            refine ⟨by simp, right.url, fun _ => ?_⟩
            rw [walk_eq]
            exact walked.cons_cons _
      · rw [if_neg owned, if_neg owned]
        exact ⟨sound, Grows.refl⟩
  | clear storageKey workspaceID leaseToken =>
      obtain ⟨claimed, exhausted⟩ := known
      simp only [Shared.execute, Ledger.change]
      by_cases owned : shared.ledger.owned storageKey workspaceID leaseToken = true
      · rw [if_pos owned]
        cases found : shared.ledger storageKey with
        | none => simp [Ledger.owned, found] at owned
        | some row =>
            exact condemned_sound sound claimed (List.Sublist.refl _) (fun _ => ⟨Iff.rfl, Iff.rfl⟩)
              (fun _ => exhausted) (by simp [LedgerRow.drop])
      · rw [if_neg owned]
        exact ⟨sound, Grows.refl⟩
  | _ => exact known.elim

theorem Call.Sound.grown {statement : Call} (known : statement.Sound store shared)
    (grows : Grows store shared later) : statement.Sound store later := by
  cases statement with
  | record => exact known
  | renew | release => trivial
  | tombstone | clear => exact ⟨grows.claimed known.1, known.2.trans grows.history⟩
  | _ => exact known.elim

theorem ClaimedRow.Sound.grown {claimed : ClaimedRow} (sound : claimed.Sound store shared)
    (grows : Grows store shared later) : claimed.Sound store later :=
  ⟨grows.claimed sound.claims, sound.row.grown grows.history⟩

theorem Phase.Sound.grown {phase : Phase} (sound : phase.Sound store shared) (grows : Grows store shared later) :
    phase.Sound store later := by
  cases phase with
  | recorded storageKey => exact ⟨fun fresh => sound.1 (grows.recorded storageKey fresh), sound.2⟩
  | settling batch => exact fun claimed member => (sound claimed member).grown grows
  | unreferenced claimed batch => exact ⟨sound.1, fun claimed member => (sound.2 claimed member).grown grows⟩
  | removed claimed batch =>
      exact ⟨sound.1, fun claimed member => (sound.2.1 claimed member).grown grows, sound.2.2.trans grows.history⟩
  | _ => exact sound

end Statements

structure Kept (store : Store) (shared : Shared) {request : Call} (served : Served request) (next : Phase)
    (others rest started : List String) : Prop where
  sound : Sound store served.shared
    (heldOf served.transaction ++ served.orphans.flatMap BindTransaction.held ++ others)
    (next.left ++ served.late.flatMap Call.records ++ rest) started
  grows : Grows store shared served.shared
  phase : next.Sound store served.shared
  consistent : Consistent store next served.transaction
  orphans : ∀ orphan ∈ served.orphans, orphan.Sound store
  late : ∀ statement ∈ served.late, statement.Sound store served.shared

section Serving

variable {store : Store} {environment : (request : Call) → Answer request} {fault : Fault} {now : Nat}
  {shared : Shared} {transaction : Option BindTransaction} {others rest started : List String}

theorem unchanged_kept {request : Call} {answer : Answer request} {phase next : Phase}
    (sound : Sound store shared (heldOf transaction ++ others) (phase.left ++ rest) started)
    (less : ∀ key, next.left.count key ≤ phase.left.count key) (known : next.Sound store shared)
    (consistent : Consistent store next transaction) :
    Kept store shared (⟨answer, shared, transaction, [], []⟩ : Served request) next others rest started := by
  refine ⟨sound.fewer (by simp) ?_, Grows.refl, known, consistent, by simp, by simp⟩
  intro key
  simpa using less key

theorem statement_kept {request : Call} {answer : Answer request} (statement : Call) {next : Phase}
    (sound : Sound store shared (heldOf transaction ++ others) (statement.records ++ (next.left ++ rest)) started)
    (brings : statement.Sound store shared)
    (known : next.Sound store (if fault.happens then shared.execute now statement else shared))
    (consistent : Consistent store next transaction) :
    Kept store shared (⟨answer, if fault.happens then shared.execute now statement else shared, transaction, [],
      if fault.later then [statement] else []⟩ : Served request) next others rest started := by
  have later : fault.happens = true → fault.later = false := by cases fault <;> simp [Fault.happens, Fault.later]
  by_cases happens : fault.happens = true
  · obtain ⟨kept, grows⟩ := execute_sound now brings sound
    simp only [happens, later happens, if_true] at known ⊢
    exact ⟨kept.fewer (by simp) (by simp), grows, known, consistent, by simp, by simp⟩
  · simp only [happens] at known ⊢
    refine ⟨sound.fewer (by simp) ?_, Grows.refl, known, consistent, by simp, ?_⟩
    · intro key
      by_cases later : fault.later = true
      · simp [later]
        omega
      · simp [later]
    · intro other member
      by_cases later : fault.later = true
      · obtain rfl : other = statement := by simpa [later] using member
        exact brings
      · simp [later] at member

theorem answer_ok {Value : Type} {value result : Value} (same : fault.answer value = .ok result) :
    fault = .none ∧ value = result := by
  cases fault <;> simp_all [Fault.answer]

theorem mem_bindable {ledger : Ledger} {keys : List String} {workspaceID key : String}
    (member : key ∈ ledger.bindable keys workspaceID) :
    key ∈ keys ∧ ∃ row, ledger key = some row ∧ row.state = .pending := by
  simp only [Ledger.bindable, List.mem_filter, List.mem_dedup] at member
  obtain ⟨listed, pending⟩ := member
  cases found : ledger key with
  | none => simp [found] at pending
  | some row =>
      simp only [found, Option.any_some, Bool.and_eq_true, decide_eq_true_eq] at pending
      exact ⟨listed, row, rfl, pending.1⟩

theorem mem_claimable {locked proposed : List String} {key : String}
    (member : key ∈ shared.claimable locked proposed now) :
    key ∉ locked ∧ ∃ row, shared.ledger key = some row := by
  have filtered := List.mem_of_mem_take member
  simp only [List.mem_filter, Bool.and_eq_true, decide_eq_true_eq] at filtered
  obtain ⟨-, unlocked, due⟩ := filtered
  cases found : shared.ledger key with
  | none => simp [found] at due
  | some row => exact ⟨unlocked, row, rfl⟩

theorem mem_rows {taken : List String} {claimed : ClaimedRow} (member : claimed ∈ shared.rows taken) :
    claimed.storageKey ∈ taken ∧ shared.ledger claimed.storageKey = some claimed.row := by
  obtain ⟨key, listed, same⟩ := List.mem_filterMap.mp member
  obtain ⟨row, found, rfl⟩ := Option.map_eq_some_iff.mp same
  exact ⟨listed, found⟩

theorem claim_kept {refs : List MediaRef} {workspaceID : String} {claimed : List String}
    (known : ∀ ref ∈ refs, ref.Sound store)
    (free : ∀ key ∈ refs.map MediaRef.storageKey, key ∉ others)
    (claims : shared.ledger.bindable (refs.map MediaRef.storageKey) workspaceID = claimed)
    (sound : Sound store shared others rest started) :
    Sound store shared (claimed ++ others) rest started ∧
      Attaching store claimed (refs.filter fun ref => ref.storageKey ∈ claimed) [] := by
  subst claims
  constructor
  · refine hold_sound sound (fun key member => (mem_bindable member).2) ?_
      fun key member => free key (mem_bindable member).1
    exact (List.nodup_dedup _).filter _
  · refine ⟨by simp, ?_, ?_⟩
    · intro key member
      obtain ⟨ref, listed, rfl⟩ := List.mem_map.mp (mem_bindable member).1
      exact Or.inl ⟨ref, List.mem_filter.mpr ⟨listed, decide_eq_true member⟩, rfl⟩
    · intro ref member
      obtain ⟨listed, mine⟩ := List.mem_filter.mp member
      exact ⟨known ref listed, of_decide_eq_true mine⟩

theorem Attaching.next {claimed : List String} {ref : MediaRef} {todo : List MediaRef}
    {attachments : List Attachment} {workspaceID : String}
    (attaching : Attaching store claimed (ref :: todo) attachments) :
    Attaching store claimed todo (attachments ++ [⟨workspaceID, none, ref.storageURL⟩]) := by
  obtain ⟨url, mine⟩ := attaching.refs ref (by simp)
  refine ⟨?_, ?_, fun other member => attaching.refs other (by simp [member])⟩
  · intro attachment member
    rcases List.mem_append.mp member with old | new
    · exact attaching.urls attachment old
    · obtain rfl := List.mem_singleton.mp new
      exact ⟨ref.storageKey, mine, url⟩
  · intro key member
    rcases attaching.covers key member with ⟨other, listed, rfl⟩ | ⟨attachment, made, same⟩
    · rcases List.mem_cons.mp listed with rfl | later
      · exact Or.inr ⟨⟨workspaceID, none, other.storageURL⟩, by simp, url⟩
      · exact Or.inl ⟨other, later, rfl⟩
    · exact Or.inr ⟨attachment, by simp [made], same⟩

theorem Attaching.done {claimed : List String} {attachments : List Attachment}
    (attaching : Attaching store claimed [] attachments) : Covers store claimed attachments :=
  ⟨attaching.urls, fun key member => (attaching.covers key member).resolve_left (by simp)⟩

theorem Attaching.linked {claimed : List String} {attachments : List Attachment} {chatMessageID : String}
    (attaching : Attaching store claimed [] attachments) :
    Attaching store claimed [] (attachments.map fun attachment =>
      { attachment with chatMessageID := some chatMessageID }) := by
  refine ⟨?_, ?_, attaching.refs⟩
  · intro attachment member
    obtain ⟨old, listed, rfl⟩ := List.mem_map.mp member
    exact attaching.urls old listed
  · intro key member
    obtain ⟨attachment, made, same⟩ := attaching.done.covers key member
    exact Or.inr ⟨_, List.mem_map_of_mem made, same⟩

theorem nextTombstonePass_position {row : LedgerRow} {delay pass : Nat}
    (next : nextTombstonePass row = some (delay, pass)) : pass = row.position := by
  rw [nextTombstonePass] at next
  split at next
  · contradiction
  · exact (Prod.mk.inj (Option.some.inj next)).2.symm

theorem nextTombstonePass_last {row : LedgerRow} (last : nextTombstonePass row = none) :
    tombstoneRedelete.length ≤ row.position := by
  have exhausted := (nextTombstonePass_eq_none row).mp last
  simp only [LedgerRow.exhausted, Bool.and_eq_true, decide_eq_true_eq] at exhausted
  rw [LedgerRow.position, if_pos exhausted.1]
  exact exhausted.2

theorem isReferenced_false {chatMessageID workspaceID : String} {claimed : ClaimedRow}
    (standing : Standing store shared claimed.storageKey) (known : claimed.Sound store shared) :
    shared.isReferenced chatMessageID workspaceID claimed.row.storageURL = false := by
  have unattached := (standing.of_claimed known.claims).1
  refine List.any_eq_false.mpr fun attachment member => ?_
  have different : attachment.url ≠ claimed.row.storageURL :=
    fun same => unattached ⟨attachment, member, same.trans known.row.url⟩
  simp [different]

theorem shared_kept {request : Call} {answer : Answer request} {phase next : Phase} {later : Shared}
    (kept : Sound store later (heldOf transaction ++ others) (phase.left ++ rest) started ∧ Grows store shared later)
    (less : ∀ key, next.left.count key ≤ phase.left.count key) (known : next.Sound store later)
    (consistent : Consistent store next transaction) :
    Kept store shared (⟨answer, later, transaction, [], []⟩ : Served request) next others rest started := by
  refine ⟨kept.1.fewer (by simp) ?_, kept.2, known, consistent, by simp, by simp⟩
  intro key
  simpa using less key

theorem upload_sound {held unrecorded : List String} {key : String} (recorded : ¬ Fresh store shared key)
    (sound : Sound store shared held unrecorded started) :
    Sound store (if fault.happens then shared.put key
        else if fault.later then { shared with puts := key :: shared.puts } else shared) held unrecorded started ∧
      Grows store shared (if fault.happens then shared.put key
        else if fault.later then { shared with puts := key :: shared.puts } else shared) := by
  by_cases happens : fault.happens = true
  · rw [if_pos happens]
    exact put_sound sound recorded ⟨rfl, rfl, rfl, rfl⟩ (by simp [Shared.put, or_assoc])
  · rw [if_neg happens]
    by_cases later : fault.later = true
    · rw [if_pos later]
      refine put_sound sound recorded ⟨rfl, rfl, rfl, rfl⟩ ?_
      simp only [List.mem_cons]
      exact fun other stored => or_left_comm.mp stored
    · rw [if_neg later]
      exact ⟨sound, Grows.refl⟩

theorem delete_sound {held unrecorded : List String} {key : String} (claimed : .claimed key ∈ shared.history)
    (sound : Sound store shared held unrecorded started) :
    Sound store (if fault.happens then shared.remove key
        else if fault.later then { shared with deletes := key :: shared.deletes } else shared) held unrecorded
        started ∧
      Grows store shared (if fault.happens then shared.remove key
        else if fault.later then { shared with deletes := key :: shared.deletes } else shared) := by
  by_cases happens : fault.happens = true
  · rw [if_pos happens]
    exact remove_sound sound claimed ⟨rfl, rfl, rfl⟩ (Or.inr rfl) (fun _ _ => id)
      (fun other stored => (List.mem_filter.mp stored).1)
  · rw [if_neg happens]
    by_cases later : fault.later = true
    · rw [if_pos later]
      refine remove_sound sound claimed ⟨rfl, rfl, rfl⟩ (Or.inl rfl) ?_ (fun _ => id)
      exact fun other different asked => (List.mem_cons.mp asked).resolve_left different
    · rw [if_neg later]
      exact ⟨sound, Grows.refl⟩

theorem failing_consistent {opened : BindTransaction} (idle : opened.committing = false) :
    Consistent store .failing (some opened) := by
  rintro other same
  obtain rfl := Option.some.inj same
  exact idle

theorem serve_kept {request : Call} {phase next : Phase}
    (moves : Moves store phase request
      (serve environment fault now others shared transaction request).answer next)
    (consistent : Consistent store phase transaction) (known : phase.Sound store shared)
    (free : fault.happens = true → ∀ key ∈ request.rows, key ∉ others)
    (sound : Sound store shared (heldOf transaction ++ others) (phase.left ++ rest) started) :
    Kept store shared (serve environment fault now others shared transaction request) next others rest
      started := by
  generalize answered :
    (serve environment fault now others shared transaction request).answer = answer at moves
  cases moves with
  | expired left refs => exact unchanged_kept sound (fun _ => Nat.le_refl _) known consistent
  | resolve left refs => exact unchanged_kept sound (fun _ => Nat.zero_le _) known consistent
  | giveUp left refs => exact unchanged_kept sound (fun _ => Nat.zero_le _) (by simp [Phase.Sound]) consistent
  | record intent left refs url =>
      obtain rfl := consistent
      obtain ⟨rfl, -⟩ := answer_ok answered
      refine statement_kept (.record intent) sound url ⟨?_, known⟩ rfl
      have none : shared.ledger intent.storageKey = none := (sound.awaits _ (by simp [Phase.left])).row
      exact fun fresh => absurd fresh.row (by simp [Fault.happens, Shared.execute, Ledger.record, none])
  | recordRefused intent left refs url | recordFailed intent left refs _ url =>
      obtain rfl := consistent
      refine statement_kept (.record intent) sound url ?_ rfl
      split <;> exact known
  | download res key left refs => exact unchanged_kept sound (fun _ => Nat.le_refl _) known consistent
  | downloadFailed res key left refs =>
      exact unchanged_kept sound (fun _ => Nat.le_refl _) known.2 consistent
  | upload key left refs =>
      refine shared_kept (upload_sound known.1 sound) (fun _ => Nat.le_refl _) ?_ consistent
      intro ref member
      rcases List.mem_append.mp member with old | new
      · exact known.2 ref old
      · obtain rfl := List.mem_singleton.mp new
        rfl
  | uploadFailed key left refs =>
      exact shared_kept (upload_sound known.1 sound) (fun _ => Nat.le_refl _) known.2 consistent
  | begin refs =>
      obtain rfl := consistent
      cases begins : environment .begin with
      | error text => simp [serve, begins] at answered
      | ok _ =>
          simp only [serve, begins]
          exact ⟨sound, Grows.refl, known, rfl, by simp, by simp⟩
  | beginEmpty =>
      obtain rfl := consistent
      cases begins : environment .begin with
      | error text => simp [serve, begins] at answered
      | ok _ =>
          simp only [serve, begins]
          exact ⟨sound, Grows.refl, trivial, ⟨[], rfl, by simp, by simp, by simp⟩, by simp, by simp⟩
  | beginFailed refs =>
      cases begins : environment .begin with
      | ok _ => simp [serve, begins] at answered
      | error text =>
          simp only [serve, begins]
          exact unchanged_kept sound (fun _ => Nat.le_refl _) trivial consistent
  | claim refs workspaceID claimed =>
      obtain rfl := consistent
      obtain ⟨rfl, claims⟩ := answer_ok answered
      have nothing : shared.ledger.without [] = shared.ledger := funext fun _ => if_neg List.not_mem_nil
      rw [nothing] at claims
      obtain ⟨kept, attaching⟩ := claim_kept known (free rfl) claims sound
      simp only [serve, Fault.happens, if_true, nothing, claims, List.nil_append]
      refine ⟨?_, Grows.refl, trivial, ⟨[], rfl, attaching⟩, by simp, by simp⟩
      exact kept.fewer (by simp [heldOf]) (fun _ => Nat.le_refl _)
  | claimFailed refs workspaceID =>
      obtain rfl := consistent
      have nothing : shared.ledger.without [] = shared.ledger := funext fun _ => if_neg List.not_mem_nil
      simp only [serve, nothing, List.nil_append]
      by_cases happens : fault.happens = true
      · obtain ⟨kept, -⟩ := claim_kept known (free happens)
          (rfl : shared.ledger.bindable (refs.map MediaRef.storageKey) workspaceID = _) sound
        rw [if_pos happens]
        exact ⟨kept.fewer (by simp [heldOf]) (fun _ => Nat.le_refl _), Grows.refl, trivial,
          failing_consistent rfl, by simp, by simp⟩
      · rw [if_neg happens]
        exact unchanged_kept sound (fun _ => Nat.le_refl _) trivial (failing_consistent rfl)
  | create claimed ref todo workspaceID =>
      obtain ⟨attachments, rfl, attaching⟩ := consistent
      cases creates : environment (.createAttachment workspaceID ref.storageURL) with
      | error text => simp [serve, creates] at answered
      | ok _ =>
          simp only [serve, creates]
          exact ⟨sound.fewer (by simp [heldOf]) (by simp [Phase.left]), Grows.refl, trivial,
            ⟨_, rfl, attaching.next⟩, by simp, by simp⟩
  | createFailed claimed ref todo workspaceID =>
      obtain ⟨attachments, rfl, attaching⟩ := consistent
      cases creates : environment (.createAttachment workspaceID ref.storageURL) with
      | ok _ => simp [serve, creates] at answered
      | error text =>
          simp only [serve, creates]
          exact unchanged_kept sound (fun _ => Nat.le_refl _) trivial (failing_consistent rfl)
  | link claimed chatMessageID =>
      obtain ⟨attachments, rfl, attaching⟩ := consistent
      cases links : environment (.linkAttachments chatMessageID) with
      | error text => simp [serve, links] at answered
      | ok _ =>
          simp only [serve, links]
          exact ⟨sound.fewer (by simp [heldOf]) (by simp [Phase.left]), Grows.refl, trivial,
            ⟨_, rfl, attaching.linked⟩, by simp, by simp⟩
  | linkFailed claimed chatMessageID =>
      obtain ⟨attachments, rfl, attaching⟩ := consistent
      cases links : environment (.linkAttachments chatMessageID) with
      | ok _ => simp [serve, links] at answered
      | error text =>
          simp only [serve, links]
          exact unchanged_kept sound (fun _ => Nat.le_refl _) trivial (failing_consistent rfl)
  | clearPending claimed chatMessageID => exact unchanged_kept sound (fun _ => Nat.le_refl _) known consistent
  | clearPendingFailed claimed chatMessageID =>
      obtain ⟨attachments, rfl, attaching⟩ := consistent
      exact unchanged_kept sound (fun _ => Nat.le_refl _) trivial (failing_consistent rfl)
  | commit claimed =>
      obtain ⟨attachments, rfl, attaching⟩ := consistent
      cases fault with
      | none =>
          obtain ⟨kept, grows⟩ := @land_sound _ _ _ _ _ ⟨claimed, attachments, false⟩ attaching.done sound
          exact ⟨kept, grows, trivial, rfl, by simp [serve], by simp [serve]⟩
      | refused text => simp [serve] at answered
      | lost text => simp [serve] at answered
      | pending text => simp [serve] at answered
  | commitFailed claimed =>
      obtain ⟨attachments, rfl, attaching⟩ := consistent
      have closed : Consistent store .failing none := by simp [Consistent]
      cases fault with
      | none => simp [serve] at answered
      | refused text =>
          exact ⟨sound.fewer (by simp [serve, heldOf]) (fun _ => Nat.le_refl _), Grows.refl, trivial, closed,
            by simp [serve], by simp [serve]⟩
      | lost text =>
          obtain ⟨kept, grows⟩ := @land_sound _ _ _ _ _ ⟨claimed, attachments, false⟩ attaching.done sound
          exact ⟨kept, grows, trivial, closed, by simp [serve], by simp [serve]⟩
      | pending text =>
          refine ⟨sound.fewer (by simp [serve, heldOf]) (fun _ => Nat.le_refl _), Grows.refl, trivial, closed, ?_,
            by simp [serve]⟩
          intro orphan member _
          obtain rfl : orphan = ⟨claimed, attachments, true⟩ := by simpa [serve] using member
          exact attaching.done
  | abandon refs =>
      obtain rfl := consistent
      refine ⟨sound.fewer ?_ (fun _ => Nat.le_refl _), Grows.refl, trivial, rfl, ?_, by simp [serve]⟩
      · intro key
        by_cases happens : fault.happens = true <;> simp [serve, heldOf, happens]
      · intro orphan member
        by_cases happens : fault.happens = true
        · simp [serve, happens] at member
        · obtain rfl : orphan = ⟨[], [], false⟩ := by simpa [serve, happens] using member
          simp [BindTransaction.Sound]
  | rollback =>
      refine ⟨sound.fewer ?_ (fun _ => Nat.le_refl _), Grows.refl, trivial, rfl, ?_, by simp [serve]⟩
      · intro key
        cases transaction with
        | none => simp [serve, heldOf]
        | some opened => by_cases happens : fault.happens = true <;> simp [serve, heldOf, happens]
      · intro orphan member
        by_cases happens : fault.happens = true
        · simp [serve, happens] at member
        · have mine : transaction = some orphan := by simpa [serve, happens] using member
          simp [BindTransaction.Sound, consistent orphan mine]
  | clearAlone chatMessageID => exact unchanged_kept sound (fun _ => Nat.le_refl _) known consistent
  | claimRows leaseToken rows =>
      cases claims : environment (.claimForReconcile leaseToken) with
      | error text => simp [serve, claims] at answered
      | ok proposed =>
          simp only [serve, claims] at answered ⊢
          obtain ⟨rfl, claimed⟩ := answer_ok answered
          obtain rfl := consistent
          have kept := @claimRows_sound _ _ _ _ _
            (shared.claimable others (proposed.map ClaimedRow.storageKey) now) leaseToken now sound
            (fun key member => (mem_claimable member).1) (fun key member => (mem_claimable member).2)
          refine shared_kept kept (fun _ => Nat.le_refl _) ?_ rfl
          rw [← claimed]
          intro row member
          obtain ⟨listed, found⟩ := mem_rows member
          exact ⟨List.mem_append_left _ (List.mem_map_of_mem listed), ((kept.1.standing _).of_row found).1⟩
  | claimRowsFailed leaseToken =>
      cases claims : environment (.claimForReconcile leaseToken) with
      | error text =>
          simp only [serve, claims]
          exact unchanged_kept sound (fun _ => Nat.le_refl _) trivial consistent
      | ok proposed =>
          obtain rfl := consistent
          simp only [serve, claims]
          by_cases happens : fault.happens = true
          · rw [if_pos happens]
            refine shared_kept (claimRows_sound sound ?_ ?_) (fun _ => Nat.le_refl _) trivial rfl
            · exact fun key member => (mem_claimable member).1
            · exact fun key member => (mem_claimable member).2
          · rw [if_neg happens]
            exact unchanged_kept sound (fun _ => Nat.le_refl _) trivial rfl
  | renew batch key workspaceID leaseToken =>
      have executed := @execute_sound _ _ _ _ _ (.renew key workspaceID leaseToken) now trivial sound
      refine statement_kept (.renew key workspaceID leaseToken) sound trivial ?_ consistent
      split
      · exact known.grown executed.2
      · exact known
  | check batch claimed member => exact unchanged_kept sound (fun _ => Nat.le_refl _) ⟨member, known⟩ consistent
  | keep batch claimed member =>
      obtain ⟨rfl, referenced⟩ := answer_ok answered
      rw [isReferenced_false (sound.standing _) (known claimed member)] at referenced
      cases referenced
  | checkFailed batch chatMessageID workspaceID storageURL =>
      exact unchanged_kept sound (fun _ => Nat.le_refl _) known consistent
  | release batch key workspaceID leaseToken backoff =>
      have executed := @execute_sound _ _ _ _ _ (.release key workspaceID leaseToken backoff) now trivial sound
      refine statement_kept (.release key workspaceID leaseToken backoff) sound trivial ?_ consistent
      split
      · exact known.grown executed.2
      · exact known
  | remove batch claimed =>
      obtain ⟨member, batched⟩ := known
      obtain ⟨rfl, -⟩ := answer_ok answered
      have deleted := @delete_sound _ .none _ _ _ _ _ (batched claimed member).claims sound
      refine shared_kept deleted (fun _ => Nat.le_refl _)
        ⟨member, fun other listed => (batched other listed).grown deleted.2, ?_⟩ consistent
      have walked := (batched claimed member).row.walked
      unfold LedgerRow.position
      by_cases tombstoned : claimed.row.state = .tombstoned
      · rw [if_pos tombstoned]
        exact (walked tombstoned).cons_cons _
      · rw [if_neg tombstoned]
        exact (List.nil_sublist _).cons_cons _
  | removeFailed batch claimed =>
      obtain ⟨member, batched⟩ := known
      have deleted := @delete_sound _ fault _ _ _ _ _ (batched claimed member).claims sound
      exact shared_kept deleted (fun _ => Nat.le_refl _)
        (fun other listed => (batched other listed).grown deleted.2) consistent
  | tombstone batch claimed leaseToken delay pass _ next =>
      obtain ⟨member, batched, walked⟩ := known
      have brings : Call.Sound store shared
          (.tombstone claimed.storageKey claimed.row.workspaceID leaseToken delay pass) :=
        ⟨(batched claimed member).claims, nextTombstonePass_position next ▸ walked⟩
      refine statement_kept _ sound brings ?_ consistent
      split
      · exact fun other listed => (batched other listed).grown (execute_sound now brings sound).2
      · exact batched
  | clear batch claimed leaseToken _ last =>
      obtain ⟨member, batched, walked⟩ := known
      have brings : Call.Sound store shared
          (.clear claimed.storageKey claimed.row.workspaceID leaseToken) :=
        ⟨(batched claimed member).claims, (beforeTombstone_mono _ (nextTombstonePass_last last)).trans walked⟩
      refine statement_kept _ sound brings ?_ consistent
      split
      · exact fun other listed => (batched other listed).grown (execute_sound now brings sound).2
      · exact batched
  | clearKept batch claimed leaseToken => exact known.elim

end Serving

end MulticaOS.Media
