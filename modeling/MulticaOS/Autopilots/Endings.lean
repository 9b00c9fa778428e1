import MulticaOS.Autopilots.Tracing

/-!
How often a run ends.  The statements that write its status do so by id alone, so what a
caller writes is right only while the row still has the status the caller has read.
-/

namespace MulticaOS.Autopilots

open RunLib

def Process.copy : Process → Option Run
  | .admitSkip _ run _ => some run
  | .repairLink _ run _ => some run
  | .recoverPartial _ existing => some existing
  | .markSkipped _ run _ => some run
  | .createIssue _ run => some run
  | .linkTask _ run _ => some run
  | .dispatchSkipped _ run _ => some run
  | .failRun _ run _ _ => some run
  | .writeCompleted run _ => some run
  | .writeFailed run _ => some run
  | _ => none

def Process.carries : Process → Option Run
  | .findTask _ _ run => some run
  | .createTask _ run => some run
  | process => process.copy

def Process.repeatsSkip : Process → Bool
  | .admitSkip _ _ _ => true
  | .markSkipped _ _ _ => true
  | _ => false

def Writes (process : Process) : Prop :=
  ∀ run, process.carries = some run →
    if process.repeatsSkip then run.status = .skipped else run.status.ended = false

def fresh (tables : Tables) (copy : Run) : Bool :=
  tables.runs.all fun row => row.id ≠ copy.id || row.status = copy.status

/-- Every status is written to a row that still has the status its writer has read, or by a
recovery to a run without an issue or a task; a task's outcome is reported for a run that has
not ended; and the task for an issue that is committed is enqueued. -/
def writesFresh (state : State) : Action → Bool
  | .advance index outside =>
      match state.processes[index]? with
      | some (.recoverPartial _ existing) =>
          fresh state.tables existing || state.made.all fun made => made.run ≠ existing.id
      | some (.syncTask id _) => state.tables.runs.all fun row => row.id ≠ id || !row.status.ended
      | some (.enqueueTask _ _ _) => !outside.fails
      | some process =>
          match process.copy with
          | some copy => fresh state.tables copy
          | none => true
      | none => true
  | _ => true

section Callers

variable {autopilots : Id → Autopilot} {tables : Tables} {outside : Outside} {process : Process}

theorem initialStatus_none (autopilot : Autopilot) : (initialStatus autopilot none).ended = false := by
  cases mode : autopilot.executionMode <;> simp [initialStatus, mode, RunStatus.ended]

theorem ended_of_incomplete {run : Run} (partly : isAutopilotRunComplete run = false) :
    run.status.ended = false := by
  cases status : run.status <;> simp_all [isAutopilotRunComplete, RunStatus.ended]

theorem ended_of_active {issue : Id} {run : Run}
    (found : getAutopilotRunByIssue tables issue = some run) : run.status.ended = false := by
  have active := List.find?_some found
  simp only [Run.activeFor, Bool.and_eq_true, Bool.or_eq_true, decide_eq_true_eq] at active
  rcases active.2 with created | running
  · simp [created, RunStatus.ended]
  · simp [running, RunStatus.ended]

theorem writes_of_none (none : process.carries = none) : Writes process := by
  intro run carries
  rw [none] at carries
  contradiction

theorem writes_of_open {run : Run} (carries : process.carries = some run)
    (writes : process.repeatsSkip = false) (unended : run.status.ended = false) : Writes process := by
  intro copy same
  rw [carries, Option.some.injEq] at same
  rwa [writes, if_neg Bool.false_ne_true, ← same]

theorem writes_finishDelivery (delivery : Delivery) (run : Run) : Writes (finishDelivery delivery run) := by
  rw [finishDelivery]
  split <;> exact writes_of_none rfl

theorem writes_retryOrFail (delivery : Delivery) (cause : String) :
    Writes (retryOrFail delivery cause) := by
  rw [retryOrFail]
  split <;> exact writes_of_none rfl

theorem writes_returnRun (caller : Caller) (run : Run) (error : Option String) :
    Writes (returnRun caller run error) := by
  unfold returnRun
  split <;> first | exact writes_of_none rfl | exact writes_finishDelivery _ _

theorem writes_returnNoRun (caller : Caller) (reason : String) : Writes (returnNoRun caller reason) := by
  unfold returnNoRun
  split <;> exact writes_of_none rfl

theorem writes_admissionFailed (admitter : Admitter) : Writes (admissionFailed admitter) := by
  cases admitter with
  | ingress inbound delivery autopilot => exact writes_of_none rfl
  | worker delivery autopilot => exact writes_retryOrFail _ _

theorem writes_dispatchAutopilotRun (caller : Caller) {run : Run}
    (unended : run.status.ended = false) : Writes (dispatchAutopilotRun caller run) := by
  rw [dispatchAutopilotRun]
  split <;> exact writes_of_open rfl rfl unended

theorem writes_admitted (admitter : Admitter) (run : Run) : Writes (admitted admitter run) := by
  cases admitter with
  | ingress inbound delivery autopilot => exact writes_of_none rfl
  | worker delivery autopilot =>
      simp only [admitted]
      split
      · split
        · exact writes_of_none rfl
        · exact writes_finishDelivery _ _
      · rename_i incomplete
        have unended := ended_of_incomplete (Bool.eq_false_iff.mpr incomplete)
        split
        · exact writes_of_open rfl rfl unended
        · exact writes_dispatchAutopilotRun _ unended

theorem created_status {new : NewRun} {next : Tables} {run : Run}
    (created : createAutopilotRun tables new = some (next, run)) : run.status = new.status := by
  rw [(createAutopilotRun_spec created).2.1]
  rfl

theorem writes_skip {skip : Option String} {reason : String} (skips : skip = some reason)
    (autopilot : Autopilot) : initialStatus autopilot skip = .skipped := by
  rw [skips]
  rfl

theorem next_writes (writes : Writes process)
    (reads : ∀ id outcome, process = .syncTask id outcome → ∀ run,
      getAutopilotRun tables id = some run → run.status.ended = false)
    (enqueues : ∀ caller run issue, process = .enqueueTask caller run issue → outside.fails = false) :
    Writes (process.next autopilots tables outside) := by
  cases process with
  | admitLookup admitter =>
      simp only [Process.next]
      split
      · exact writes_admissionFailed _
      · split
        · exact writes_admitted _ _
        · exact writes_of_none rfl
  | admitInsert admitter =>
      simp only [Process.next]
      split
      · exact writes_admissionFailed _
      · split
        · exact writes_of_none rfl
        · rename_i run reason created skips
          rintro copy ⟨⟩
          exact (created_status created).trans (writes_skip skips _)
        · exact writes_admitted _ _
  | admitSkip admitter run reason =>
      simp only [Process.next]
      split <;> exact writes_admitted _ _
  | admitReload admitter =>
      simp only [Process.next]
      split
      · exact writes_admitted _ _
      · exact writes_admissionFailed _
  | findTask caller delivery run =>
      have unended : run.status.ended = false := writes run rfl
      simp only [Process.next]
      split
      · exact writes_of_none rfl
      · split
        · exact writes_of_open rfl rfl unended
        · exact writes_dispatchAutopilotRun _ unended
  | lookupPlanned trigger plannedAt autopilot =>
      simp only [Process.next]
      split
      · exact writes_of_none rfl
      · split
        · exact writes_of_none rfl
        · split
          · exact writes_of_none rfl
          · rename_i incomplete
            exact writes_of_open rfl rfl (ended_of_incomplete (Bool.eq_false_iff.mpr incomplete))
  | insertRun caller =>
      simp only [Process.next]
      split
      · rename_i run reason succeeds created skips
        rintro copy ⟨⟩
        exact (created_status created).trans (writes_skip skips _)
      · rename_i run succeeds created skips
        refine writes_dispatchAutopilotRun _ ?_
        rw [created_status created, Caller.newRun, skips]
        exact initialStatus_none _
      · exact writes_returnNoRun _ _
  | createIssue caller run =>
      have unended : run.status.ended = false := writes run rfl
      simp only [Process.next]
      split
      · exact writes_of_open rfl rfl unended
      · split
        · exact writes_of_open rfl rfl unended
        · exact writes_of_none rfl
  | enqueueTask caller run issue =>
      simp only [Process.next, enqueues caller run issue rfl]
      exact writes_returnRun _ _ _
  | createTask caller run =>
      have unended : run.status.ended = false := writes run rfl
      simp only [Process.next]
      split
      · exact writes_of_open rfl rfl unended
      · split
        · exact writes_of_open rfl rfl unended
        · exact writes_of_open rfl rfl unended
  | dispatchSkipped caller run reason =>
      have unended : run.status.ended = false := writes run rfl
      simp only [Process.next]
      split
      · exact writes_of_open rfl rfl unended
      · exact writes_returnRun _ _ _
  | syncIssue issue status =>
      simp only [Process.next]
      split
      · rename_i run succeeds found
        have unended := ended_of_active found
        split <;> first | exact writes_of_open rfl rfl unended | exact writes_of_none rfl
      · exact writes_of_none rfl
  | syncTask id outcome =>
      simp only [Process.next]
      split
      · rename_i run succeeds found
        have unended := reads id outcome rfl run found
        split <;> exact writes_of_open rfl rfl unended
      · exact writes_of_none rfl
  | syncLinkedTask issue reason =>
      simp only [Process.next]
      split
      · rename_i run succeeds found
        split
        · exact writes_of_none rfl
        · exact writes_of_open rfl rfl (ended_of_active found)
      · exact writes_of_none rfl
  | _ =>
      simp only [Process.next]
      repeat' split
      all_goals
        first
        | exact writes_of_none rfl
        | exact writes_finishDelivery _ _
        | exact writes_retryOrFail _ _
        | exact writes_returnRun _ _ _

end Callers

/-- A step leaves the status of a run that has ended as it is, unless it recovers a run for
which nothing was made. -/
def EndsOnce (verifyHubSignature : String → String → String → Bool) (state : State)
    (action : Action) : Prop :=
  ∀ id old, getAutopilotRun state.tables id = some old → old.status.ended = true →
    ∃ new, getAutopilotRun (step verifyHubSignature state action).tables id = some new ∧
      (new.status = old.status ∨
        ((∃ index outside caller existing, action = .advance index outside ∧
          state.processes[index]? = some (.recoverPartial caller existing) ∧ existing.id = id) ∧
        ∀ made ∈ state.made, made.run ≠ id))

def Process.failsProduct : Process → Bool
  | .failRun _ _ _ (some _) => true
  | _ => false

def ReportsProduct (state : State) : Prop :=
  ∀ process ∈ state.processes, process.failsProduct = false

structure Orderly (state : State) : Prop where
  writes : ∀ process ∈ state.processes, Writes process
  reports : ReportsProduct state

section System

variable {verifyHubSignature : String → String → String → Bool} {state next : State} {action : Action}

theorem Executed.getAutopilotRun {tables after : Tables} {statement : Statement} {id : Id} {row : Run}
    (done : Executed tables statement after) (found : getAutopilotRun tables id = some row) :
    Autopilots.getAutopilotRun after id = some (statement.edits tables row) := by
  have same : (fun row : Run => decide (row.id = id)) ∘ statement.edits tables =
      fun row => decide (row.id = id) := by
    funext row
    simp only [Function.comp, (edits_same row).id]
  rw [Autopilots.getAutopilotRun] at found ⊢
  rw [done.runs, List.find?_append, List.find?_map, same, found]
  rfl

theorem fresh_spec {tables : Tables} {copy row : Run} (isFresh : fresh tables copy = true)
    (found : getAutopilotRun tables copy.id = some row) : row.status = copy.status := by
  have member := List.mem_of_find?_eq_some found
  have same := getAutopilotRun_id found
  simp only [fresh, List.all_eq_true, Bool.or_eq_true, decide_eq_true_eq] at isFresh
  exact (isFresh row member).resolve_left (not_not_intro same)

theorem issues_edits {autopilots : Id → Autopilot} {tables : Tables} {outside : Outside}
    {process : Process} (row : Run) :
    (process.issues autopilots outside).edits tables row = row ∨
      (∃ copy, process.copy = some copy ∧ copy.id = row.id ∧
        (process.repeatsSkip = true →
          ((process.issues autopilots outside).edits tables row).status = .skipped)) ∨
      row.status.ended = false := by
  rw [Process.issues]
  split
  · exact Or.inl rfl
  · cases process with
    | createTask caller run =>
        left
        simp only [Process.statement]
        split <;> rfl
    | deleteIssue issue =>
        simp only [Process.statement, Statement.edits]
        split
        · rename_i active
          right
          right
          simp only [Run.activeFor, Bool.and_eq_true, Bool.or_eq_true, decide_eq_true_eq] at active
          rcases active.2 with created | running
          · simp [created, RunStatus.ended]
          · simp [running, RunStatus.ended]
        · exact Or.inl rfl
    | createIssue caller run =>
        simp only [Process.statement, Statement.edits]
        split
        · exact Or.inl rfl
        · split
          · rename_i same
            exact Or.inr (Or.inl ⟨run, rfl, same.symm, by simp [Process.repeatsSkip]⟩)
          · exact Or.inl rfl
    | _ =>
        first
        | exact Or.inl rfl
        | (simp only [Process.statement, Statement.edits]
           split
           · rename_i same
             refine Or.inr (Or.inl ⟨_, rfl, same.symm, ?_⟩)
             simp [Process.repeatsSkip, Run.skip]
           · exact Or.inl rfl)

theorem carries_of_copy {process : Process} {run : Run} (copy : process.copy = some run) :
    process.carries = some run := by
  cases process <;> first | exact copy | contradiction

theorem allowed_copy {index : Nat} {outside : Outside} {process : Process} {copy : Run}
    (here : state.processes[index]? = some process) (copies : process.copy = some copy)
    (allowed : writesFresh state (.advance index outside) = true) :
    fresh state.tables copy = true ∨
      (∃ caller, process = .recoverPartial caller copy) ∧ ∀ made ∈ state.made, made.run ≠ copy.id := by
  cases process with
  | recoverPartial caller existing =>
      obtain rfl := Option.some.inj copies
      simp only [writesFresh, here, Bool.or_eq_true, List.all_eq_true, decide_eq_true_eq] at allowed
      exact allowed.imp_right fun unmade => ⟨⟨caller, rfl⟩, unmade⟩
  | syncTask id outcome => contradiction
  | enqueueTask caller run issue => contradiction
  | _ =>
      left
      simpa [writesFresh, here, copies] using allowed

theorem Orderly.endsOnce (orderly : Orderly state) (allowed : writesFresh state action = true) :
    EndsOnce verifyHubSignature state action := by
  intro id old found ended
  cases step_stepped verifyHubSignature state action with
  | quiet executed processes started made silent =>
      exact ⟨_, executed.getAutopilotRun found, Or.inl rfl⟩
  | advance here executed processes started made =>
      rename_i index outside process
      refine ⟨_, executed.getAutopilotRun found, ?_⟩
      rcases issues_edits old with same | ⟨copy, copies, sameId, skips⟩ | unended
      · rw [same]
        exact Or.inl rfl
      · have isOld := getAutopilotRun_id found
        rcases allowed_copy here copies allowed with isFresh | ⟨⟨caller, rfl⟩, unmade⟩
        · left
          rw [← isOld, ← sameId] at found
          have status := fresh_spec isFresh found
          have writes := orderly.writes process (List.mem_of_getElem? here) copy (carries_of_copy copies)
          split at writes
          · rename_i repeats
            rw [skips repeats, status, writes]
          · rw [← status, ended] at writes
            contradiction
        · rw [sameId, isOld] at unmade
          exact Or.inr ⟨⟨index, outside, caller, copy, rfl, here, sameId.trans isOld⟩, unmade⟩
      · rw [unended] at ended
        contradiction

theorem next_failsProduct {autopilots : Id → Autopilot} {tables : Tables} {outside : Outside}
    {process : Process} (fails : (process.next autopilots tables outside).failsProduct = true) :
    outside.fails = true ∧ ∃ caller run issue, process = .enqueueTask caller run issue := by
  cases process with
  | enqueueTask caller run issue =>
      refine ⟨?_, caller, run, issue, rfl⟩
      cases failed : outside.fails with
      | true => rfl
      | false =>
          simp only [Process.next, failed, returnRun, finishDelivery] at fails
          (repeat' split at fails) <;> simp_all [Process.failsProduct]
  | _ =>
      simp only [Process.next, retryOrFail, finishDelivery, returnRun, returnNoRun,
        dispatchAutopilotRun, admitted, admissionFailed] at fails
      (repeat' split at fails) <;> simp_all [Process.failsProduct]

theorem Orderly.step (orderly : Orderly state) (allowed : writesFresh state action = true) :
    Orderly (step verifyHubSignature state action) := by
  have stepped := step_stepped verifyHubSignature state action
  have enqueued : ∀ {index outside caller run issue}, action = .advance index outside →
      state.processes[index]? = some (.enqueueTask caller run issue) → outside.fails = false := by
    rintro index outside caller run issue rfl here
    simpa [writesFresh, here] using allowed
  constructor
  · intro process member
    rcases stepped.mem_processes member with old | rfl | ⟨call, rfl⟩ |
      ⟨index, outside, old, rfl, here, executed, rfl⟩
    · exact orderly.writes process old
    · exact writes_of_none rfl
    · refine writes_of_none ?_
      cases call <;> rfl
    · refine next_writes (orderly.writes old (List.mem_of_getElem? here)) ?_ ?_
      · rintro id outcome rfl run found
        simp only [writesFresh, here, List.all_eq_true, Bool.or_eq_true, decide_eq_true_eq,
          Bool.not_eq_true'] at allowed
        exact (allowed run (List.mem_of_find?_eq_some found)).resolve_left
          (not_not_intro (getAutopilotRun_id found))
      · rintro caller run issue rfl
        exact enqueued rfl here
  · intro process member
    rcases stepped.mem_processes member with old | rfl | ⟨call, rfl⟩ |
      ⟨index, outside, old, rfl, here, executed, rfl⟩
    · exact orderly.reports process old
    · rfl
    · cases call <;> rfl
    · refine Bool.eq_false_iff.mpr fun fails => ?_
      obtain ⟨failed, caller, run, issue, rfl⟩ := next_failsProduct fails
      rw [enqueued rfl here] at failed
      contradiction

theorem orderly_initial (autopilots : Id → Autopilot) (secrets : Id → String) :
    Orderly (initial autopilots secrets) := by
  constructor <;> simp [initial, ReportsProduct]

/-- While every status is written to a row that still has the status its writer has read, a task's
outcome is reported for a run that has not ended and no enqueue fails for a committed issue, a run
ends once and is not failed by the dispatch that made its issue. -/
theorem run_ends_once (autopilots : Id → Autopilot) (secrets : Id → String) (actions : List Action)
    (allowed : Every (step verifyHubSignature) (fun state action => writesFresh state action = true)
      (initial autopilots secrets) actions) :
    Every (step verifyHubSignature) (EndsOnce verifyHubSignature) (initial autopilots secrets) actions ∧
      Always (step verifyHubSignature) ReportsProduct (initial autopilots secrets) actions := by
  have initially := orderly_initial autopilots secrets
  constructor
  · exact every_of_allowed initially (fun _ _ orderly fresh => orderly.step fresh)
      (fun _ _ orderly fresh => orderly.endsOnce fresh) allowed
  · have always := always_of_invariant initially (fun _ _ orderly fresh => Orderly.step orderly fresh)
      allowed
    exact always.mono fun _ orderly => orderly.reports

def taskDoneFirst : List Action :=
  [.call (.manual 3), .advance 0 {}, .advance 0 {}, .call (.taskEnded 0 (.ok none)), .advance 1 {},
    .advance 1 {}]

theorem linked_run_ends_twice :
    ¬ (Every (step signedBy) (EndsOnce signedBy) exampleStart (taskDoneFirst ++ [.advance 0 {}]) ∧
      Always (step signedBy) ReportsProduct exampleStart (taskDoneFirst ++ [.advance 0 {}])) := by
  rintro ⟨ends, -⟩
  obtain ⟨new, found, same | ⟨⟨index, outside, caller, existing, advances, here, -⟩, -⟩⟩ :=
    (every_append.mp ends).2.1 0 _ rfl rfl
  · obtain rfl := Option.some.inj found
    contradiction
  · obtain ⟨rfl, rfl⟩ := Action.advance.inj advances
    cases here

def linkedFirst : List Action :=
  [.call (.manual 3), .advance 0 {}, .advance 0 {}, .advance 0 {}, .call (.taskEnded 0 (.ok none)),
    .advance 1 {}, .advance 1 {}]

theorem linked_run_ends_once :
    (run (step signedBy) exampleStart linkedFirst).tables.runs.map Run.status = [.completed] ∧
      Every (step signedBy) (EndsOnce signedBy) exampleStart linkedFirst :=
  ⟨by decide, (run_ends_once _ _ _ (by decide)).1⟩

end System

end MulticaOS.Autopilots
