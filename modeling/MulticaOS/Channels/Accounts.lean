import MulticaOS.Channels.Workers

/-!
The books over the dedup row, its lock and the stored messages, and what the answer to one
call of a worker does to them.
-/

namespace MulticaOS.Channels

open ProgramLib

def held (transaction : Option Transaction) : Nat := if transaction.any Transaction.marks then 1 else 0

def heldBy (orphans : List Transaction) : Nat := orphans.countP Transaction.marks

def Phase.pending : Phase → Nat
  | .committed false => 1
  | _ => 0

/-- The books over the database: `held` locks of the dedup row, `pending` issues to come. `declined` tells
whether a final mark has been allowed without a message. -/
structure Accounts (database : Database) (held pending : Nat) (declined : Prop) : Prop where
  single : held + database.messages ≤ 1
  unprocessed : 0 < held → ∃ row, database.row = some row ∧ row.processed = false
  stored : 0 < database.messages → ∃ row, database.row = some row ∧ row.processed = true
  issues : database.issues + pending ≤ database.messages
  owed : ∀ row, database.row = some row → row.processed = true → 0 < database.messages ∨ declined

def Consistent : Phase → Option Transaction → Prop
  | .writing _ written, transaction => transaction = some ⟨if written then 1 else 0, false, false⟩
  | .marked _, transaction => transaction = some ⟨1, true, false⟩
  | .failing _, transaction => ∀ opened, transaction = some opened → opened.committing = false
  | _, transaction => transaction = none

def Transaction.Sound (orphan : Transaction) : Prop :=
  orphan.committing = true → orphan.marks = true ∧ orphan.messages = 1

section Statements

variable {database : Database} {pending others : Nat} {declined : Prop}

theorem claim_accounts (started : Nat) (accounts : Accounts database 0 pending declined) :
    Accounts (database.claim started).1 0 pending declined := by
  have fresh : ∀ minted, (∀ row, database.row = some row → row.processed = false) →
      Accounts { database with row := some ⟨database.minted, started, false⟩, minted := minted } 0
        pending declined := by
    intro minted unprocessed
    refine ⟨accounts.single, fun none => absurd none (by simp), ?_, accounts.issues, ?_⟩
    · intro stored
      obtain ⟨row, found, processed⟩ := accounts.stored stored
      rw [unprocessed row found] at processed
      cases processed
    · rintro row found processed
      obtain rfl := Option.some.inj found
      cases processed
  unfold Database.claim
  cases found : database.row with
  | none =>
      refine fresh _ ?_
      rintro row present
      rw [found] at present
      cases present
  | some row =>
      dsimp only
      by_cases stale : row.stale started = true
      · rw [if_pos stale]
        refine fresh _ ?_
        rintro other present
        rw [found] at present
        obtain rfl := Option.some.inj present
        simp only [DedupRow.stale, Bool.and_eq_true, Bool.not_eq_true'] at stale
        exact stale.1
      · rw [if_neg stale]
        exact accounts

theorem mark_accounts (token : ID) (accounts : Accounts database 0 pending declined)
    (allowed : declined) : Accounts (database.mark token) 0 pending declined := by
  unfold Database.mark
  by_cases owned : database.owned token = true
  · rw [if_pos owned]
    refine ⟨accounts.single, fun none => absurd none (by simp), ?_, accounts.issues,
      fun _ _ _ => Or.inr allowed⟩
    intro stored
    obtain ⟨row, found, -⟩ := accounts.stored stored
    exact ⟨row.process, by simp [found], rfl⟩
  · rw [if_neg owned]
    exact accounts

theorem release_accounts (token : ID) (accounts : Accounts database 0 pending declined) :
    Accounts (database.release token) 0 pending declined := by
  unfold Database.release
  by_cases owned : database.owned token = true
  · rw [if_pos owned]
    refine ⟨accounts.single, fun none => absurd none (by simp), ?_, accounts.issues, by simp⟩
    intro stored
    obtain ⟨row, found, processed⟩ := accounts.stored stored
    simp [Database.owned, DedupRow.ownedBy, found, processed] at owned
  · rw [if_neg owned]
    exact accounts

theorem owned_accounts {token : ID} (owned : database.owned token = true)
    (accounts : Accounts database 0 pending declined) : Accounts database 1 pending declined := by
  unfold Database.owned at owned
  cases found : database.row with
  | none => simp [found] at owned
  | some row =>
      have unprocessed : row.processed = false := by
        simpa [found, DedupRow.ownedBy] using (by simpa [found, DedupRow.ownedBy] using owned :
          row.claimToken = token ∧ row.processed = false).2
      have empty : database.messages = 0 := by
        by_contra stored
        obtain ⟨other, same, processed⟩ := accounts.stored (Nat.pos_of_ne_zero stored)
        rw [found] at same
        obtain rfl := Option.some.inj same
        rw [unprocessed] at processed
        cases processed
      exact ⟨by omega, fun _ => ⟨row, found, unprocessed⟩, accounts.stored, accounts.issues, accounts.owed⟩

theorem land_accounts {orphan : Transaction} (marks : orphan.marks = true) (single : orphan.messages = 1)
    (accounts : Accounts database (1 + others) pending declined) :
    Accounts (database.land orphan) others (pending + 1) declined := by
  obtain ⟨row, found, unprocessed⟩ := accounts.unprocessed (by omega)
  have one := accounts.single
  have issues := accounts.issues
  have landed : database.land orphan =
      { database with row := some row.process, messages := database.messages + 1 } := by
    simp [Database.land, marks, found, single]
  rw [landed]
  refine ⟨?_, ?_, fun _ => ⟨row.process, rfl, rfl⟩, ?_, fun _ _ _ => Or.inl (Nat.succ_pos _)⟩
  · simp only
    omega
  · intro some
    omega
  · simp only
    omega

theorem Accounts.fewer {held fewer less : Nat} (accounts : Accounts database held pending declined)
    (locks : fewer ≤ held) (issues : less ≤ pending) : Accounts database fewer less declined := by
  have single := accounts.single
  have issued := accounts.issues
  exact ⟨by omega, fun some => accounts.unprocessed (by omega), accounts.stored, by omega, accounts.owed⟩

theorem createIssue_accounts {held : Nat} (accounts : Accounts database held (1 + pending) declined) :
    Accounts { database with issues := database.issues + 1 } held pending declined := by
  have issued := accounts.issues
  refine ⟨accounts.single, accounts.unprocessed, accounts.stored, ?_, accounts.owed⟩
  simp only
  omega

end Statements

structure Kept {request : Call} (served : Served request) (later : Phase) (others pending : Nat)
    (declined : Prop) : Prop where
  accounts : Accounts served.database (held served.transaction + heldBy served.orphans + others)
    (later.pending + pending) declined
  consistent : Consistent later served.transaction
  sound : ∀ orphan ∈ served.orphans, orphan.Sound

section Serving

variable {delivery : Delivery} {environment : (request : Call) → Answer request} {fault : Fault}
  {started others pending : Nat} {database : Database} {transaction : Option Transaction} {declined : Prop}

theorem kept_unchanged {request : Call} {answer : Answer request} {phase later : Phase}
    (accounts : Accounts database (held transaction + others) (phase.pending + pending) declined)
    (fewer : later.pending ≤ phase.pending) (consistent : Consistent later transaction) :
    Kept (⟨answer, database, transaction, []⟩ : Served request) later others pending declined :=
  ⟨accounts.fewer (by simp [heldBy]) (by omega), consistent, by simp⟩

theorem failing_of_open {token : ID} {opened : Transaction} (idle : opened.committing = false) :
    Consistent (.failing token) (some opened) := by
  rintro other same
  obtain rfl := Option.some.inj same
  exact idle

theorem kept_alone {request : Call} {answer : Answer request} {changed : Database} {phase later : Phase}
    (consistent : Consistent later none) (settled : later.pending = phase.pending)
    (changes : ∀ waiting, Accounts database 0 waiting declined → Accounts changed 0 waiting declined)
    (free : fault.happens = true → others = 0)
    (accounts : Accounts database (held none + others) (phase.pending + pending) declined) :
    Kept (⟨answer, if fault.happens then changed else database, none, []⟩ : Served request) later
      others pending declined := by
  refine ⟨?_, consistent, by simp⟩
  rw [settled]
  by_cases happens : fault.happens = true
  · obtain rfl := free happens
    rw [if_pos happens]
    exact changes _ accounts
  · rw [if_neg happens]
    exact accounts.fewer (by simp [heldBy]) le_rfl

theorem serve_mark_kept {token : ID} {phase : Phase} (written : transaction = some ⟨1, false, false⟩)
    (free : fault.happens = true → others = 0)
    (accounts : Accounts database (held transaction + others) (phase.pending + pending) declined)
    {answer : Answer (.markProcessed delivery.installationID delivery.messageID token)}
    (answered : (serve delivery environment fault started database transaction
      (.markProcessed delivery.installationID delivery.messageID token)).answer = answer) :
    (∀ rows, answer = Except.ok rows → rows ≠ 0 → Kept (serve delivery environment fault started database
        transaction (.markProcessed delivery.installationID delivery.messageID token)) (.marked token)
        others pending declined) ∧
      Kept (serve delivery environment fault started database
        transaction (.markProcessed delivery.installationID delivery.messageID token)) (.failing token)
        others pending declined := by
  subst written
  simp only [serve, and_self, if_true, Bool.not_false, Bool.and_true] at answered ⊢
  constructor
  · rintro rows same some
    subst same
    cases fault with
    | none =>
        by_cases owned : database.owned token = true
        · obtain rfl := free rfl
          simp only [owned, Fault.happens, Bool.and_self, if_true]
          exact ⟨(owned_accounts owned accounts).fewer (by simp [held, heldBy]) (by simp [Phase.pending]),
            rfl, by simp⟩
        · simp only [Fault.report, owned] at answered
          exact absurd (Except.ok.inj answered).symm some
    | refused text => simp [Fault.report] at answered
    | lost text => simp [Fault.report] at answered
    | pending text => simp [Fault.report] at answered
  · by_cases marks : (fault.happens && database.owned token) = true
    · obtain ⟨happens, owned⟩ := Bool.and_eq_true_iff.mp marks
      obtain rfl := free happens
      rw [if_pos marks]
      exact ⟨(owned_accounts owned accounts).fewer (by simp [held, heldBy]) (by simp [Phase.pending]),
        failing_of_open rfl, by simp⟩
    · rw [if_neg marks]
      exact ⟨accounts.fewer (by simp [heldBy]) (by simp [Phase.pending]), failing_of_open rfl, by simp⟩

theorem serve_kept {request : Call} {phase later : Phase}
    (moves : Moves delivery phase request
      (serve delivery environment fault started database transaction request).answer later)
    (own : phase ≠ .elsewhere) (consistent : Consistent phase transaction)
    (resolved : resolves delivery environment = true)
    (free : fault.happens = true → waits request = true → others = 0)
    (final : ∀ installationID messageID token, request = .mark installationID messageID token → declined)
    (accounts : Accounts database (held transaction + others) (phase.pending + pending) declined) :
    later ≠ .elsewhere ∧ Kept (serve delivery environment fault started database transaction request) later
      others pending declined := by
  generalize answered :
    (serve delivery environment fault started database transaction request).answer = answer at moves
  cases moves with
  | resolveInstallation => exact ⟨by simp, kept_unchanged accounts le_rfl consistent⟩
  | resolveOther installation other =>
      have found : environment .resolveInstallation = .found installation := answered
      simp [resolves, found, other] at resolved
  | elsewhere => exact absurd rfl own
  | dropUnclaimed => exact ⟨by simp, kept_unchanged accounts le_rfl consistent⟩
  | dropTurned => exact ⟨by simp, kept_unchanged accounts le_rfl consistent⟩
  | decline => exact ⟨by simp, kept_unchanged accounts le_rfl consistent⟩
  | dropLost => exact ⟨by simp, kept_unchanged accounts le_rfl consistent⟩
  | resolveSender => exact ⟨by simp, kept_unchanged accounts le_rfl consistent⟩
  | ensureSession => exact ⟨by simp, kept_unchanged accounts le_rfl consistent⟩
  | lookup => exact ⟨by simp, kept_unchanged accounts le_rfl consistent⟩
  | touch => exact ⟨by simp, kept_unchanged accounts le_rfl consistent⟩
  | reply => exact ⟨by simp, kept_unchanged accounts le_rfl consistent⟩
  | lookupFailed | touchFailed | replyFailed =>
      obtain rfl := consistent
      exact ⟨by simp, kept_unchanged accounts le_rfl (failing_of_open rfl)⟩
  | getWorkspace => exact ⟨by simp, kept_unchanged accounts le_rfl consistent⟩
  | scheduleRun => exact ⟨by simp, kept_unchanged accounts le_rfl consistent⟩
  | enqueueMedia => exact ⟨by simp, kept_unchanged accounts le_rfl consistent⟩
  | claim | claimRefused | claimFailed =>
      obtain rfl := consistent
      refine ⟨by simp, ?_⟩
      simp only [serve, and_self, if_true]
      exact kept_alone rfl rfl (fun _ => claim_accounts _) (fun happens => free happens rfl) accounts
  | release =>
      obtain rfl := consistent
      refine ⟨by simp, ?_⟩
      simp only [serve, and_self, if_true]
      exact kept_alone rfl rfl (fun _ => release_accounts _) (fun happens => free happens rfl) accounts
  | mark =>
      obtain rfl := consistent
      refine ⟨by simp, ?_⟩
      simp only [serve, and_self, if_true]
      exact kept_alone rfl rfl (fun _ books => mark_accounts _ books (final _ _ _ rfl))
        (fun happens => free happens rfl) accounts
  | begin =>
      obtain rfl := consistent
      cases begins : environment .begin with
      | error text => simp [serve, begins] at answered
      | ok _ =>
          simp only [serve, begins]
          exact ⟨by simp, accounts, rfl, by simp⟩
  | beginFailed =>
      obtain rfl := consistent
      cases begins : environment .begin with
      | ok _ => simp [serve, begins] at answered
      | error text =>
          simp only [serve, begins]
          exact ⟨by simp, kept_unchanged accounts le_rfl rfl⟩
  | create token sessionID content media =>
      obtain rfl := consistent
      cases creates : environment (.createChatMessage sessionID content media) with
      | error text => simp [serve, creates] at answered
      | ok messageID =>
          simp only [serve, creates]
          exact ⟨by simp, accounts, rfl, by simp⟩
  | createFailed token sessionID content media =>
      obtain rfl := consistent
      cases creates : environment (.createChatMessage sessionID content media) with
      | ok messageID => simp [serve, creates] at answered
      | error text =>
          simp only [serve, creates]
          exact ⟨by simp, kept_unchanged accounts le_rfl (failing_of_open rfl)⟩
  | markProcessed token rows some =>
      have kept := serve_mark_kept consistent (fun happens => free happens rfl) accounts answered
      exact ⟨by simp, kept.1 rows rfl some⟩
  | markLost | markFailed =>
      have kept := serve_mark_kept consistent (fun happens => free happens rfl) accounts answered
      exact ⟨by simp, kept.2⟩
  | commit token =>
      obtain rfl := consistent
      cases fault with
      | none =>
          refine ⟨by simp, ?_, rfl, by simp [serve]⟩
          have landed := @land_accounts _ _ _ _ ⟨1, true, false⟩ rfl rfl accounts
          exact landed.fewer (by simp [serve, held, heldBy]) (by simp [Phase.pending]; omega)
      | refused text => simp [serve] at answered
      | lost text => simp [serve] at answered
      | pending text => simp [serve] at answered
  | commitFailed token =>
      obtain rfl := consistent
      have closed : Consistent (.failing token) none := by
        rintro opened same
        cases same
      cases fault with
      | none => simp [serve] at answered
      | refused text => exact ⟨by simp, accounts.fewer (by simp [serve, held, heldBy]) le_rfl, closed, by simp [serve]⟩
      | lost text =>
          have landed := @land_accounts _ _ _ _ ⟨1, true, false⟩ rfl rfl accounts
          exact ⟨by simp, landed.fewer (by simp [serve, held, heldBy]) (by simp [Phase.pending]), closed,
            by simp [serve]⟩
      | pending text =>
          refine ⟨by simp, accounts.fewer (by simp [serve, held, heldBy]) le_rfl, closed, ?_⟩
          intro orphan member
          obtain rfl := List.mem_singleton.mp member
          exact fun _ => ⟨rfl, rfl⟩
  | rollback token =>
      refine ⟨by simp, ?_, rfl, ?_⟩
      · refine accounts.fewer ?_ le_rfl
        cases transaction with
        | none => by_cases happens : fault.happens = true <;> simp [serve, heldBy, held]
        | some opened =>
            by_cases happens : fault.happens = true
            · simp [serve, happens, heldBy, held]
            · by_cases marks : opened.marks = true <;> simp [serve, happens, heldBy, held, marks]
      · intro orphan member committing
        by_cases happens : fault.happens = true
        · simp [serve, happens] at member
        · have opened : transaction = some orphan := by simpa [serve, happens] using member
          rw [consistent orphan opened] at committing
          cases committing
  | createIssue params =>
      obtain rfl := consistent
      refine ⟨by simp, ?_⟩
      cases creates : environment (.createIssue params) with
      | error text =>
          simp only [serve, creates]
          exact kept_unchanged accounts (by simp [Phase.pending]) rfl
      | ok issue =>
          simp only [serve, creates]
          refine ⟨?_, rfl, by simp⟩
          by_cases happens : fault.happens = true
          · rw [if_pos happens]
            exact (createIssue_accounts accounts).fewer (by simp [heldBy]) (by simp [Phase.pending])
          · rw [if_neg happens]
            exact accounts.fewer (by simp [heldBy]) (by simp [Phase.pending])

end Serving

end MulticaOS.Channels
