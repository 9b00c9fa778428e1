import MulticaOS.Autopilots.Steps

/-!
Unauthenticated deliveries.  Ingress stores a delivery as queued before it acts on the
verdict of `verifyWebhookSignatureForProvider`, so for a while a forged request looks
like any other queued row: a worker can claim it, and a genuine request with the same
dedupe key can be folded into it.
-/

namespace MulticaOS.Autopilots

open RunLib

section Rows

variable {tables next : Tables} {statement : Statement}

structure Numbered (tables : Tables) : Prop where
  below : ∀ row ∈ tables.deliveries, row.id < tables.nextDelivery
  distinct : (tables.deliveries.map Delivery.id).Nodup

theorem Numbered.same_row (numbered : Numbered tables) {left right : Delivery}
    (leftMember : left ∈ tables.deliveries) (rightMember : right ∈ tables.deliveries)
    (same : left.id = right.id) : left = right :=
  List.inj_on_of_nodup_map numbered.distinct leftMember rightMember same

theorem Executed.numbered (done : Executed tables statement next) (numbered : Numbered tables) :
    Numbered next := by
  have created : ∀ row ∈ statement.delivers tables, row.id = tables.nextDelivery := by
    intro row member
    obtain ⟨new, rest, -, inserted⟩ := mem_delivers member
    obtain ⟨-, rfl, -⟩ := createWebhookDelivery_spec inserted
    rfl
  constructor
  · intro row member
    rw [done.nextDelivery]
    rcases done.mem_deliveries.mp member with ⟨old, listed, rfl⟩ | appended
    · have bound := numbered.below old listed
      rw [(updates_same old).id]
      lia
    · have length := List.length_pos_of_mem appended
      rw [created row appended]
      lia
  · rw [done.deliveries, List.map_append, List.map_map]
    have kept : List.map (Delivery.id ∘ statement.updates tables) tables.deliveries =
        tables.deliveries.map Delivery.id :=
      List.map_congr_left fun row _ => (updates_same row).id
    rw [kept]
    refine List.Nodup.append numbered.distinct ?_ ?_
    · cases statement with
      | createDelivery new =>
          simp only [Statement.delivers]
          cases createWebhookDelivery tables new <;> simp
      | _ => simp [Statement.delivers]
    · intro id old fresh
      obtain ⟨row, listed, rfl⟩ := List.mem_map.mp old
      obtain ⟨new, appended, same⟩ := List.mem_map.mp fresh
      have bound := numbered.below row listed
      rw [← same, created new appended] at bound
      lia

structure Verdict (tables : Tables) (id : Id) (unauthenticated : Bool) : Prop where
  known : id < tables.nextDelivery
  agrees : ∀ row ∈ tables.deliveries, row.id = id →
    row.signatureStatus.unauthenticated = unauthenticated

theorem Executed.verdict (done : Executed tables statement next) {id : Id} {unauthenticated : Bool}
    (verdict : Verdict tables id unauthenticated) : Verdict next id unauthenticated := by
  have known := verdict.known
  constructor
  · rw [done.nextDelivery]
    lia
  · intro row member same
    rcases done.mem_deliveries.mp member with ⟨old, listed, rfl⟩ | appended
    · have kept : old.Same (statement.updates tables old) := updates_same old
      rw [kept.signatureStatus]
      exact verdict.agrees old listed (kept.id.symm.trans same)
    · obtain ⟨new, rest, -, inserted⟩ := mem_delivers appended
      obtain ⟨-, rfl, -⟩ := createWebhookDelivery_spec inserted
      have fresh : tables.nextDelivery = id := same
      lia

theorem Numbered.verdict (numbered : Numbered tables) {row : Delivery}
    (member : row ∈ tables.deliveries) :
    Verdict tables row.id row.signatureStatus.unauthenticated where
  known := numbered.below row member
  agrees := fun other listed same => by rw [numbered.same_row listed member same]

theorem Executed.verdict_created {new : NewDelivery} {rest : Tables} {row : Delivery}
    (done : Executed tables (.createDelivery new) next) (numbered : Numbered tables)
    (inserted : createWebhookDelivery tables new = some (rest, row)) :
    Verdict next row.id new.signatureStatus.unauthenticated := by
  have stored : row ∈ next.deliveries := by
    refine done.mem_deliveries.mpr (Or.inr ?_)
    simp [Statement.delivers, inserted]
  have verdict := (done.numbered numbered).verdict stored
  obtain ⟨-, rfl, -⟩ := createWebhookDelivery_spec inserted
  exact verdict

end Rows

def Process.admits : Process → Option Id
  | .admitLookup admitter => some admitter.delivery.id
  | .admitInsert admitter => some admitter.delivery.id
  | .loadAdmitted delivery _ => some delivery.id
  | _ => none

section Admission

variable {autopilots : Id → Autopilot} {tables : Tables} {outside : Outside} {process : Process}

theorem admits_retryOrFail (delivery : Delivery) (cause : String) :
    (retryOrFail delivery cause).admits = none := by
  rw [retryOrFail]
  split <;> rfl

theorem next_admits {id : Id} (admits : (process.next autopilots tables outside).admits = some id) :
    process.admits = some id ∨
      (outside.fails = false ∧ ∃ inbound delivery next, process = .createDelivery inbound ∧
        createWebhookDelivery tables inbound.new = some (next, delivery) ∧
        inbound.signatureStatus.unauthenticated = false ∧ delivery.id = id) ∨
      (outside.fails = false ∧ ∃ delivery next, process = .claim ∧
        claimQueuedWebhookDelivery tables outside.picked = some (next, delivery) ∧
        delivery.id = id) := by
  cases process with
  | createDelivery inbound =>
      simp only [Process.next] at admits
      split at admits
      · simp [Process.admits] at admits
      · split at admits
        · simp [Process.admits] at admits
        · simp [Process.admits] at admits
        · split at admits
          · simp [Process.admits] at admits
          · split at admits
            · simp [Process.admits] at admits
            · simp_all [Process.admits, Admitter.delivery]
  | claim =>
      simp only [Process.next] at admits
      split at admits
      · split at admits
        · simp [Process.admits] at admits
        · split at admits
          · simp [admits_retryOrFail] at admits
          · simp [Process.admits] at admits
          · simp [Process.admits] at admits
          · simp_all [Process.admits]
      · simp [Process.admits] at admits
  | _ =>
      simp only [Process.next, retryOrFail, finishDelivery, returnRun, returnNoRun,
        dispatchAutopilotRun, admitted, admissionFailed] at admits
      (repeat' split at admits) <;> simp_all [Process.admits, Admitter.delivery]

end Admission

section Runs

variable {verifyHubSignature : String → String → String → Bool} {state : State} {action : Action}

def claimsAuthenticated (state : State) : Action → Bool
  | .advance index outside =>
      match state.processes[index]? with
      | some .claim =>
          match claimQueuedWebhookDelivery state.tables outside.picked with
          | some (_, delivery) => !delivery.signatureStatus.unauthenticated
          | none => true
      | _ => true
  | _ => true

def NoForgedRun (state : State) : Prop :=
  ∀ run ∈ state.tables.runs, ∀ delivery ∈ state.tables.deliveries,
    run.webhookDeliveryId = some delivery.id → delivery.signatureStatus.unauthenticated = false

structure Authentic (state : State) : Prop where
  numbered : Numbered state.tables
  runs : ∀ run ∈ state.tables.runs, ∀ id, run.webhookDeliveryId = some id →
    Verdict state.tables id false
  admitting : ∀ process ∈ state.processes, ∀ id, process.admits = some id →
    Verdict state.tables id false

theorem Authentic.noForgedRun (authentic : Authentic state) : NoForgedRun state := by
  intro run member delivery listed delivered
  exact (authentic.runs run member delivery.id delivered).agrees delivery listed rfl

theorem start_admits (call : Call) : (Call.start verifyHubSignature state call).admits = none := by
  cases call <;> rfl

theorem Authentic.next_admitting (authentic : Authentic state) {index : Nat} {outside : Outside}
    {process : Process} {tables : Tables} (here : state.processes[index]? = some process)
    (allowed : claimsAuthenticated state (.advance index outside) = true)
    (executed : Executed state.tables (process.issues state.autopilots outside) tables) {id : Id}
    (admits : (process.next state.autopilots state.tables outside).admits = some id) :
    Verdict tables id false := by
  rcases next_admits admits with before | ⟨succeeds, inbound, delivery, next, rfl, inserted, genuine, rfl⟩ |
    ⟨succeeds, delivery, next, rfl, claimed, rfl⟩
  · exact executed.verdict (authentic.admitting process (List.mem_of_getElem? here) id before)
  · simp only [Process.issues, succeeds, Process.statement, Bool.false_eq_true, if_false] at executed
    have verdict := executed.verdict_created authentic.numbered inserted
    rw [show inbound.new.signatureStatus = inbound.signatureStatus from rfl, genuine] at verdict
    exact verdict
  · obtain ⟨row, member, -, -, rfl, -⟩ := claimQueuedWebhookDelivery_spec claimed
    have verdict := executed.verdict (authentic.numbered.verdict member)
    simp only [claimsAuthenticated, here, claimed, Bool.not_eq_true'] at allowed
    rw [show row.signatureStatus.unauthenticated = false from allowed] at verdict
    exact verdict

theorem authentic_step (authentic : Authentic state) (allowed : claimsAuthenticated state action = true) :
    Authentic (step verifyHubSignature state action) := by
  have stepped := step_stepped verifyHubSignature state action
  obtain ⟨statement, executed⟩ := stepped.executed
  refine ⟨executed.numbered authentic.numbered, ?_, ?_⟩
  · intro run member id delivered
    cases stepped with
    | advance here executed processes started made =>
        rcases executed.mem_runs.mp member with ⟨old, listed, rfl⟩ | inserted
        · rw [(edits_same old).webhookDeliveryId] at delivered
          exact executed.verdict (authentic.runs old listed id delivered)
        · obtain ⟨new, rest, issued, created⟩ := mem_inserts inserted
          obtain ⟨-, rfl, -⟩ := createAutopilotRun_spec created
          obtain ⟨-, ⟨admitter, rfl, rfl⟩ | ⟨caller, rfl, rfl⟩⟩ := issues_createRun issued
          · have verdict := authentic.admitting _ (List.mem_of_getElem? here) admitter.delivery.id rfl
            rw [show admitter.delivery.id = id from Option.some.inj delivered] at verdict
            exact executed.verdict verdict
          · exact absurd delivered (by simp [NewRun.row, Caller.newRun])
    | quiet executed processes started made =>
        rcases executed.mem_runs.mp member with ⟨old, listed, rfl⟩ | inserted
        · exact executed.verdict (authentic.runs old listed id delivered)
        · simp [Statement.inserts] at inserted
  · intro process member id admits
    rcases stepped.mem_processes member with old | rfl | ⟨call, rfl⟩ |
      ⟨index, outside, old, rfl, here, executed, rfl⟩
    · exact executed.verdict (authentic.admitting process old id admits)
    · simp [Process.admits] at admits
    · rw [start_admits] at admits
      contradiction
    · exact authentic.next_admitting here allowed executed admits

theorem authentic_initial (autopilots : Id → Autopilot) (secrets : Id → String) :
    Authentic (initial autopilots secrets) := by
  refine ⟨⟨?_, ?_⟩, ?_, ?_⟩ <;> simp [initial, noRows]

/-- While no worker's claim takes an unauthenticated delivery, none of them starts a run. -/
theorem unauthenticated_never_starts_run (autopilots : Id → Autopilot) (secrets : Id → String)
    (actions : List Action)
    (claims : Every (step verifyHubSignature) (fun state action => claimsAuthenticated state action = true)
      (initial autopilots secrets) actions) :
    Always (step verifyHubSignature) NoForgedRun (initial autopilots secrets) actions := by
  have always := always_of_invariant (authentic_initial autopilots secrets)
    (fun _ _ authentic allowed => authentic_step authentic allowed) claims
  exact always.mono fun _ authentic => authentic.noForgedRun

instance : DecidablePred NoForgedRun := fun state =>
  inferInstanceAs (Decidable (∀ run ∈ state.tables.runs, ∀ delivery ∈ state.tables.deliveries,
    run.webhookDeliveryId = some delivery.id → delivery.signatureStatus.unauthenticated = false))

def signedBy (_ header _ : String) : Bool := header = "sha256=right"

def exampleStart : State := initial (fun _ => ⟨7, .runOnly, none⟩) (fun _ => "secret")

def claimedForgery : List Action :=
  [.call (.webhook ⟨3, some "evt", "sha256=wrong", "body"⟩), .call .processNext, .advance 0 {},
    .advance 1 {}, .advance 1 {}, .advance 1 {}, .advance 1 {}]

theorem forged_delivery_starts_run :
    ¬ Always (step signedBy) NoForgedRun exampleStart claimedForgery := by
  decide

def rejectedForgery : List Action :=
  [.call (.webhook ⟨3, some "evt", "sha256=wrong", "body"⟩),
    .call (.webhook ⟨3, some "other", "sha256=right", "body"⟩), .call .processNext, .advance 0 {},
    .advance 0 {}, .advance 1 {}, .advance 2 { picked := 1 }, .advance 2 {}, .advance 2 {},
    .advance 2 {}]

theorem rejected_forgery_starts_no_run :
    (run (step signedBy) exampleStart rejectedForgery).tables.runs.length = 1 ∧
      Always (step signedBy) NoForgedRun exampleStart rejectedForgery :=
  ⟨by decide, unauthenticated_never_starts_run _ _ _ (by decide)⟩

end Runs

/-! Genuine requests that are folded into another delivery. -/

def Process.duplicates : Process → Option (Inbound × Id)
  | .bumpAttempt inbound existing => some (inbound, existing.id)
  | .duplicateRun inbound delivery => some (inbound, delivery.id)
  | .finalise inbound _ _ _ (.duplicate delivery) => some (inbound, delivery)
  | .answered inbound (.duplicate delivery) => some (inbound, delivery)
  | _ => none

def Process.rejects : Process → Option Id
  | .finalise _ delivery .rejected _ _ => some delivery
  | .completeDelivery delivery .rejected _ _ => some delivery.id
  | .finaliseReplay delivery .rejected _ => some delivery
  | _ => none

section Duplicates

variable {autopilots : Id → Autopilot} {tables : Tables} {outside : Outside} {process : Process}

theorem getWebhookDelivery_id {id : Id} {row : Delivery}
    (found : getWebhookDelivery tables id = some row) : row.id = id := by
  simpa using List.find?_some found

theorem next_duplicates {inbound : Inbound} {id : Id}
    (folded : (process.next autopilots tables outside).duplicates = some (inbound, id)) :
    process.duplicates = some (inbound, id) ∨
      ∃ key existing, process = .lookupDuplicate inbound key ∧
        getWebhookDeliveryByTriggerAndDedupe tables inbound.request.triggerId key = some existing ∧
        existing.id = id := by
  cases process with
  | lookupDuplicate other key =>
      simp only [Process.next] at folded
      split at folded
      · rename_i existing succeeds found
        simp only [Process.duplicates, Option.some.injEq, Prod.mk.injEq] at folded
        obtain ⟨rfl, rfl⟩ := folded
        exact Or.inr ⟨key, existing, rfl, found, rfl⟩
      · simp [Process.duplicates] at folded
  | bumpAttempt other existing =>
      left
      simp only [Process.next] at folded
      split at folded
      · exact folded
      · cases found : getWebhookDelivery (bumpWebhookDeliveryAttempt tables existing.id) existing.id with
        | none =>
            rw [found] at folded
            exact folded
        | some row =>
            rw [found] at folded
            have same := getWebhookDelivery_id found
            simpa [Process.duplicates, same] using folded
  | finalise other delivery status reason answer =>
      left
      cases answer <;> simp_all [Process.next, Process.duplicates]
  | _ =>
      simp only [Process.next, retryOrFail, finishDelivery, returnRun, returnNoRun,
        dispatchAutopilotRun, admitted, admissionFailed] at folded
      (repeat' split at folded) <;> simp_all [Process.duplicates]

theorem next_rejects {id : Id} (rejects : (process.next autopilots tables outside).rejects = some id) :
    outside.fails = false ∧ ∃ inbound delivery next, process = .createDelivery inbound ∧
      createWebhookDelivery tables inbound.new = some (next, delivery) ∧
      inbound.signatureStatus.unauthenticated = true ∧ delivery.id = id := by
  cases process with
  | _ =>
      simp only [Process.next, retryOrFail, finishDelivery, returnRun, returnNoRun,
        dispatchAutopilotRun, admitted, admissionFailed] at rejects
      (repeat' split at rejects) <;> simp_all [Process.rejects]

theorem issues_rejected {id : Id}
    (finalised : (process.issues autopilots outside).finalises = some (id, .rejected)) :
    process.rejects = some id := by
  rw [Process.issues] at finalised
  split at finalised
  · simp [Statement.finalises] at finalised
  · cases process with
    | createTask caller run =>
        simp only [Process.statement] at finalised
        split at finalised <;> simp [Statement.finalises] at finalised
    | _ => simp_all [Process.statement, Statement.finalises, Process.rejects]

end Duplicates

section Folding

variable {verifyHubSignature : String → String → String → Bool} {state : State} {action : Action}

theorem start_duplicates (call : Call) :
    (Call.start verifyHubSignature state call).duplicates = none := by
  cases call <;> rfl

theorem start_rejects (call : Call) : (Call.start verifyHubSignature state call).rejects = none := by
  cases call <;> rfl

structure RejectsForged (state : State) : Prop where
  numbered : Numbered state.tables
  rejected : ∀ row ∈ state.tables.deliveries, row.status = .rejected →
    row.signatureStatus.unauthenticated = true
  rejecting : ∀ process ∈ state.processes, ∀ id, process.rejects = some id →
    Verdict state.tables id true

theorem rejectsForged_step (forged : RejectsForged state) :
    RejectsForged (step verifyHubSignature state action) := by
  have stepped := step_stepped verifyHubSignature state action
  obtain ⟨statement, executed⟩ := stepped.executed
  refine ⟨executed.numbered forged.numbered, ?_, ?_⟩
  · intro row member rejected
    cases stepped with
    | advance here executed processes started made =>
        rcases executed.mem_deliveries.mp member with ⟨old, listed, rfl⟩ | inserted
        · rw [(updates_same old).signatureStatus]
          rcases updates_status old with kept | finalised
          · exact forged.rejected old listed (kept.symm.trans rejected)
          · rw [rejected] at finalised
            have verdict := forged.rejecting _ (List.mem_of_getElem? here) old.id
              (issues_rejected finalised)
            exact verdict.agrees old listed rfl
        · obtain ⟨new, rest, -, created⟩ := mem_delivers inserted
          obtain ⟨-, rfl, -⟩ := createWebhookDelivery_spec created
          simp [NewDelivery.row] at rejected
    | quiet executed processes started made =>
        rcases executed.mem_deliveries.mp member with ⟨old, listed, rfl⟩ | inserted
        · exact forged.rejected old listed rejected
        · simp [Statement.delivers] at inserted
  · intro process member id rejects
    rcases stepped.mem_processes member with old | rfl | ⟨call, rfl⟩ |
      ⟨index, outside, old, rfl, here, executed, rfl⟩
    · exact executed.verdict (forged.rejecting process old id rejects)
    · simp [Process.rejects] at rejects
    · rw [start_rejects] at rejects
      contradiction
    · obtain ⟨succeeds, inbound, delivery, rest, rfl, inserted, unauthenticated, rfl⟩ :=
        next_rejects rejects
      simp only [Process.issues, succeeds, Process.statement, Bool.false_eq_true, if_false] at executed
      have verdict := executed.verdict_created forged.numbered inserted
      rw [show inbound.new.signatureStatus = inbound.signatureStatus from rfl, unauthenticated] at verdict
      exact verdict

def foldsAuthenticated (state : State) : Action → Bool
  | .advance index _ =>
      match state.processes[index]? with
      | some (.lookupDuplicate inbound key) =>
          match getWebhookDeliveryByTriggerAndDedupe state.tables inbound.request.triggerId key with
          | some existing =>
              inbound.signatureStatus ≠ .valid || !existing.signatureStatus.unauthenticated
          | none => true
      | _ => true
  | _ => true

structure Kept (tables : Tables) (id : Id) : Prop where
  stored : ∃ row ∈ tables.deliveries, row.id = id
  verdict : Verdict tables id false

theorem Executed.kept {tables next : Tables} {statement : Statement} {id : Id}
    (done : Executed tables statement next) (kept : Kept tables id) : Kept next id := by
  obtain ⟨row, member, same⟩ := kept.stored
  refine ⟨⟨_, done.keeps_delivery member, ?_⟩, done.verdict kept.verdict⟩
  exact (updates_same row).id.trans same

structure Folds (state : State) : Prop where
  forged : RejectsForged state
  kept : ∀ process ∈ state.processes, ∀ inbound id, process.duplicates = some (inbound, id) →
    inbound.signatureStatus = .valid → Kept state.tables id

theorem folds_step (folds : Folds state) (allowed : foldsAuthenticated state action = true) :
    Folds (step verifyHubSignature state action) := by
  refine ⟨rejectsForged_step folds.forged, ?_⟩
  intro process member inbound id folded valid
  have stepped := step_stepped verifyHubSignature state action
  obtain ⟨statement, executed⟩ := stepped.executed
  rcases stepped.mem_processes member with old | rfl | ⟨call, rfl⟩ |
    ⟨index, outside, old, rfl, here, -, rfl⟩
  · exact executed.kept (folds.kept process old inbound id folded valid)
  · simp [Process.duplicates] at folded
  · rw [start_duplicates] at folded
    contradiction
  · rcases next_duplicates folded with before | ⟨key, existing, rfl, found, rfl⟩
    · exact executed.kept (folds.kept old (List.mem_of_getElem? here) inbound id before valid)
    · have listed : existing ∈ state.tables.deliveries :=
        List.mem_of_mem_filter (TableLib.first_mem found)
      simp only [foldsAuthenticated, here, found, valid, ne_eq, not_true_eq_false, decide_false,
        Bool.false_or, Bool.not_eq_true'] at allowed
      have verdict := folds.forged.numbered.verdict listed
      rw [allowed] at verdict
      exact executed.kept ⟨⟨existing, listed, rfl⟩, verdict⟩

theorem folds_initial (autopilots : Id → Autopilot) (secrets : Id → String) :
    Folds (initial autopilots secrets) := by
  refine ⟨⟨⟨?_, ?_⟩, ?_, ?_⟩, ?_⟩ <;> simp [initial, noRows]

def NotRejected (id : Id) (state : State) : Prop :=
  ∀ row ∈ state.tables.deliveries, row.id = id → row.status ≠ .rejected

/-- Whenever a validly signed request has been answered `duplicate`, the delivery it was folded
into is validly signed or is not rejected from there on. -/
def GenuineKept (verifyHubSignature : String → String → String → Bool) (start : State)
    (actions : List Action) : Prop :=
  ∀ front back, actions = front ++ back → ∀ inbound id,
    Process.answered inbound (.duplicate id) ∈ (run (step verifyHubSignature) start front).processes →
    inbound.signatureStatus = .valid →
    ∃ row ∈ (run (step verifyHubSignature) start front).tables.deliveries, row.id = id ∧
      (row.signatureStatus = .valid ∨
        Always (step verifyHubSignature) (NotRejected id) (run (step verifyHubSignature) start front) back)

theorem notRejected_of_verdict (forged : RejectsForged state) {id : Id}
    (verdict : Verdict state.tables id false) : NotRejected id state := by
  intro row member same rejected
  have unauthenticated := forged.rejected row member rejected
  rw [verdict.agrees row member same] at unauthenticated
  contradiction

theorem neverRejected (forged : RejectsForged state) {id : Id}
    (verdict : Verdict state.tables id false) (actions : List Action) :
    Always (step verifyHubSignature) (NotRejected id) state actions := by
  have preserved : ∀ state action, RejectsForged state ∧ Verdict state.tables id false →
      RejectsForged (step verifyHubSignature state action) ∧
        Verdict (step verifyHubSignature state action).tables id false := by
    rintro state action ⟨forged, verdict⟩
    obtain ⟨statement, executed⟩ := (step_stepped verifyHubSignature state action).executed
    exact ⟨rejectsForged_step forged, executed.verdict verdict⟩
  have always := always_of_preserved ⟨forged, verdict⟩ preserved actions
  exact always.mono fun _ ⟨forged, verdict⟩ => notRejected_of_verdict forged verdict

/-- While the lookups of validly signed requests find no unauthenticated row, no such request is
lost to a delivery that is rejected. -/
theorem genuine_never_swallowed (autopilots : Id → Autopilot) (secrets : Id → String)
    (actions : List Action)
    (lookups : Every (step verifyHubSignature) (fun state action => foldsAuthenticated state action = true)
      (initial autopilots secrets) actions) :
    GenuineKept verifyHubSignature (initial autopilots secrets) actions := by
  rintro front back rfl inbound id answered valid
  have folds := (always_of_invariant (folds_initial autopilots secrets)
    (fun _ _ folds allowed => folds_step folds allowed) (every_append.mp lookups).1).last
  have kept := folds.kept _ answered inbound id rfl valid
  obtain ⟨row, member, same⟩ := kept.stored
  refine ⟨row, member, same, Or.inr (neverRejected folds.forged kept.verdict back)⟩

def swallowedRequest : List Action :=
  [.call (.webhook ⟨3, some "evt", "sha256=wrong", "body"⟩),
    .call (.webhook ⟨3, some "evt", "sha256=right", "body"⟩), .advance 0 {}, .advance 1 {},
    .advance 1 {}, .advance 1 {}, .advance 1 {}, .advance 0 {}]

theorem genuine_request_swallowed : ¬ GenuineKept signedBy exampleStart swallowedRequest := by
  intro kept
  have lost : ∀ row ∈ (run (step signedBy) exampleStart swallowedRequest).tables.deliveries,
      row.signatureStatus = .invalid ∧ row.status = .rejected := by decide
  obtain ⟨row, member, same, signed | always⟩ := kept swallowedRequest [] (by simp)
    ⟨⟨3, some "evt", "sha256=right", "body"⟩, .valid⟩ 0 (List.mem_of_getElem? (i := 1) rfl) rfl
  · rw [(lost row member).1] at signed
    contradiction
  · exact always row member same (lost row member).2

def foldedRequest : List Action :=
  [.call (.webhook ⟨3, some "evt", "sha256=right", "body"⟩),
    .call (.webhook ⟨3, some "evt", "sha256=right", "body"⟩), .advance 0 {}, .advance 1 {},
    .advance 1 {}, .advance 1 {}, .advance 1 {}]

theorem folded_request_kept :
    (run (step signedBy) exampleStart foldedRequest).processes[1]? =
        some (.answered ⟨⟨3, some "evt", "sha256=right", "body"⟩, .valid⟩ (.duplicate 0)) ∧
      GenuineKept signedBy exampleStart foldedRequest :=
  ⟨rfl, genuine_never_swallowed _ _ _ (by decide)⟩

end Folding

end MulticaOS.Autopilots
