import MulticaOS.Autopilots.Processes

/-!
What one statement does to one row, what it appends, and how a step of the system is made
of statements of its callers.
-/

namespace MulticaOS.Autopilots

section Statements

variable {tables : Tables} {statement : Statement}

theorem createWebhookDelivery_spec {new : NewDelivery} {next : Tables} {row : Delivery}
    (created : createWebhookDelivery tables new = some (next, row)) :
    deliveryCollides tables new = false ∧ row = new.row tables.nextDelivery tables.now ∧
      next = { tables with
        deliveries := tables.deliveries ++ [row]
        nextDelivery := tables.nextDelivery + 1 } := by
  rw [createWebhookDelivery] at created
  split at created
  · simp at created
  · rename_i free
    simp only [Option.some.injEq, Prod.mk.injEq] at created
    obtain ⟨rfl, rfl⟩ := created
    exact ⟨by simpa using free, rfl, rfl⟩

theorem claimQueuedWebhookDelivery_spec {picked : Id} {next : Tables} {delivery : Delivery}
    (claimed : claimQueuedWebhookDelivery tables picked = some (next, delivery)) :
    ∃ row ∈ tables.deliveries, row.id = picked ∧ row.claimable tables.now = true ∧
      delivery = row.leased tables.nextToken tables.now ∧
      next = { updateDeliveries tables (fun other => other.id = picked)
          (Delivery.leased tables.nextToken tables.now) with
        nextToken := tables.nextToken + 1 } := by
  rw [claimQueuedWebhookDelivery] at claimed
  split at claimed
  · simp at claimed
  · rename_i row found
    simp only [Option.some.injEq, Prod.mk.injEq] at claimed
    obtain ⟨rfl, rfl⟩ := claimed
    have matched := List.find?_some found
    simp only [Bool.and_eq_true, decide_eq_true_eq] at matched
    exact ⟨row, List.mem_of_find?_eq_some found, matched.1, matched.2, rfl, rfl⟩

theorem createAutopilotRun_spec {new : NewRun} {next : Tables} {row : Run}
    (created : createAutopilotRun tables new = some (next, row)) :
    runCollides tables new = false ∧ row = new.row tables.nextRun ∧
      next = { tables with runs := tables.runs ++ [row], nextRun := tables.nextRun + 1 } := by
  rw [createAutopilotRun] at created
  split at created
  · simp at created
  · rename_i free
    simp only [Option.some.injEq, Prod.mk.injEq] at created
    obtain ⟨rfl, rfl⟩ := created
    exact ⟨by simpa using free, rfl, rfl⟩

def Statement.updates (tables : Tables) : Statement → Delivery → Delivery
  | .bumpAttempt id => fun row => if row.id = id then row.bump else row
  | .finaliseTerminal id status error => fun row =>
      if row.id = id then { row with status := status, error := some error } else row
  | .finaliseDispatched id status run => fun row =>
      if row.id = id then { row with status := status, autopilotRunId := some run } else row
  | .claim picked => fun row =>
      match claimQueuedWebhookDelivery tables picked with
      | none => row
      | some _ => if row.id = picked then row.leased tables.nextToken tables.now else row
  | .defer delivery retryAfter => fun row =>
      if row.claimedBy delivery.id delivery.leaseToken then
        { row with availableAt := tables.now + retryAfter, leaseToken := none, leaseExpiresAt := none }
      else row
  | .retry delivery cause => fun row =>
      if row.claimedBy delivery.id delivery.leaseToken then
        { row with
          availableAt := tables.now + backoff delivery
          dispatchAttempts := row.dispatchAttempts + 1
          error := some cause
          leaseToken := none
          leaseExpiresAt := none }
      else row
  | .complete delivery status run reason => fun row =>
      if row.claimedBy delivery.id delivery.leaseToken then
        { row with
          status := status
          autopilotRunId := run
          dispatchAttempts := row.dispatchAttempts + 1
          error := reason
          leaseToken := none
          leaseExpiresAt := none }
      else row
  | _ => fun row => row

def Statement.delivers (tables : Tables) : Statement → List Delivery
  | .createDelivery new => ((createWebhookDelivery tables new).map Prod.snd).toList
  | _ => []

def Statement.edits (tables : Tables) : Statement → Run → Run
  | .recover run => fun row => if row.id = run then row.recover tables.now else row
  | .createIssue autopilot run title => fun row =>
      match findRecentAutopilotDuplicateIssue tables autopilot title with
      | some _ => row
      | none => if row.id = run then row.linkIssue tables.nextIssue else row
  | .running run task => fun row => if row.id = run then row.linkTask task else row
  | .completed run result => fun row => if row.id = run then row.complete tables.now result else row
  | .failed run reason => fun row => if row.id = run then row.fail tables.now (some reason) else row
  | .skipped run reason => fun row => if row.id = run then row.skip tables.now reason else row
  | .failByIssue issue => fun row =>
      if row.activeFor issue then row.fail tables.now (some "linked issue was deleted") else row
  | _ => fun row => row

def Statement.inserts (tables : Tables) : Statement → List Run
  | .createRun new => ((createAutopilotRun tables new).map Prod.snd).toList
  | _ => []

structure Executed (tables : Tables) (statement : Statement) (next : Tables) : Prop where
  deliveries : next.deliveries =
    tables.deliveries.map (statement.updates tables) ++ statement.delivers tables
  nextDelivery : next.nextDelivery = tables.nextDelivery + (statement.delivers tables).length
  runs : next.runs = tables.runs.map (statement.edits tables) ++ statement.inserts tables
  nextRun : next.nextRun = tables.nextRun + (statement.inserts tables).length
  tasks : ∀ task ∈ tables.tasks, task ∈ next.tasks
  tasked : ∀ run, statement = .createTask run → ∃ task ∈ next.tasks, task.autopilotRunId = some run

theorem executed (tables : Tables) (statement : Statement) :
    Executed tables statement (execute tables statement) := by
  cases statement with
  | createDelivery new =>
      cases created : createWebhookDelivery tables new with
      | none => constructor <;> simp [execute, created, Statement.updates, Statement.delivers,
          Statement.edits, Statement.inserts]
      | some result =>
          obtain ⟨free, same, rest⟩ := createWebhookDelivery_spec created
          constructor <;> simp [execute, created, Statement.updates, Statement.delivers,
            Statement.edits, Statement.inserts, rest]
  | claim picked =>
      cases claimed : claimQueuedWebhookDelivery tables picked with
      | none => constructor <;> simp [execute, claimed, Statement.updates, Statement.delivers,
          Statement.edits, Statement.inserts]
      | some result =>
          obtain ⟨row, -, -, -, -, rest⟩ := claimQueuedWebhookDelivery_spec claimed
          constructor <;> simp [execute, claimed, Statement.updates, Statement.delivers,
            Statement.edits, Statement.inserts, rest, updateDeliveries, TableLib.updateWhere]
  | createRun new =>
      cases created : createAutopilotRun tables new with
      | none => constructor <;> simp [execute, created, Statement.updates, Statement.delivers,
          Statement.edits, Statement.inserts]
      | some result =>
          obtain ⟨free, same, rest⟩ := createAutopilotRun_spec created
          constructor <;> simp [execute, created, Statement.updates, Statement.delivers,
            Statement.edits, Statement.inserts, rest]
  | createIssue autopilot run title =>
      cases found : findRecentAutopilotDuplicateIssue tables autopilot title with
      | none => constructor <;> simp [execute, found, Statement.updates, Statement.delivers,
          Statement.edits, Statement.inserts, createIssueForRun, updateRun, updateRuns,
          TableLib.updateWhere]
      | some issue => constructor <;> simp [execute, found, Statement.updates, Statement.delivers,
          Statement.edits, Statement.inserts]
  | ensureIssueTask issue =>
      simp only [execute, ensureWebhookCreateIssueTask]
      constructor <;> split <;> (try split) <;> simp_all [Statement.updates, Statement.delivers,
        Statement.edits, Statement.inserts, enqueueTaskForIssue]
  | _ =>
      constructor <;> simp +contextual [execute, Statement.updates, Statement.delivers, Statement.edits,
        Statement.inserts, bumpWebhookDeliveryAttempt, updateWebhookDeliveryTerminal,
        updateWebhookDeliveryDispatched, deferClaimedWebhookDelivery, retryClaimedWebhookDelivery,
        completeClaimedWebhookDelivery, updateDeliveries, TableLib.updateWhere,
        recoverPartialAutopilotRun, updateRun, updateRuns, createAutopilotTask, enqueueTaskForIssue,
        updateAutopilotRunRunning, updateAutopilotRunCompleted, updateAutopilotRunFailed,
        updateAutopilotRunSkipped, failAutopilotRunsByIssue]

theorem mem_delivers {row : Delivery} (member : row ∈ statement.delivers tables) :
    ∃ new next, statement = .createDelivery new ∧
      createWebhookDelivery tables new = some (next, row) := by
  cases statement with
  | createDelivery new =>
      simp only [Statement.delivers, Option.mem_toList, Option.map_eq_some_iff, Prod.exists,
        exists_eq_right] at member
      obtain ⟨next, created⟩ := member
      exact ⟨new, next, rfl, created⟩
  | _ => simp [Statement.delivers] at member

theorem mem_inserts {row : Run} (member : row ∈ statement.inserts tables) :
    ∃ new next, statement = .createRun new ∧ createAutopilotRun tables new = some (next, row) := by
  cases statement with
  | createRun new =>
      simp only [Statement.inserts, Option.mem_toList, Option.map_eq_some_iff, Prod.exists,
        exists_eq_right] at member
      obtain ⟨next, created⟩ := member
      exact ⟨new, next, rfl, created⟩
  | _ => simp [Statement.inserts] at member

structure Delivery.Same (old row : Delivery) : Prop where
  id : row.id = old.id
  triggerId : row.triggerId = old.triggerId
  signatureStatus : row.signatureStatus = old.signatureStatus
  replayedFrom : row.replayedFrom = old.replayedFrom

theorem updates_same (row : Delivery) : row.Same (statement.updates tables row) := by
  cases statement <;> simp only [Statement.updates] <;> (repeat' split) <;> constructor <;> rfl

def Statement.finalises : Statement → Option (Id × DeliveryStatus)
  | .finaliseTerminal id status _ => some (id, status)
  | .finaliseDispatched id status _ => some (id, status)
  | .complete delivery status _ _ => some (delivery.id, status)
  | _ => none

theorem updates_status (row : Delivery) :
    (statement.updates tables row).status = row.status ∨
      statement.finalises = some (row.id, (statement.updates tables row).status) := by
  cases statement <;> simp only [Statement.updates] <;> (repeat' split) <;>
    simp_all [Statement.finalises, Delivery.bump, Delivery.leased, Delivery.claimedBy]

structure Run.Same (old row : Run) : Prop where
  id : row.id = old.id
  triggerId : row.triggerId = old.triggerId
  webhookDeliveryId : row.webhookDeliveryId = old.webhookDeliveryId

theorem edits_same (row : Run) : row.Same (statement.edits tables row) := by
  cases statement <;> simp only [Statement.edits] <;> (repeat' split) <;> constructor <;> rfl

theorem edits_plannedAt (row : Run) :
    (statement.edits tables row).plannedAt = row.plannedAt ∨
      statement = .recover row.id ∧ (statement.edits tables row).plannedAt = none := by
  cases statement <;> simp only [Statement.edits] <;> (repeat' split) <;>
    simp_all [Run.recover, Run.linkIssue, Run.linkTask, Run.complete, Run.fail, Run.skip]

theorem edits_complete (row : Run) :
    statement.edits tables row = row ∨
      isAutopilotRunComplete (statement.edits tables row) = true := by
  cases statement <;> simp only [Statement.edits] <;> (repeat' split) <;>
    simp_all [isAutopilotRunComplete, Run.recover, Run.linkIssue, Run.linkTask, Run.complete,
      Run.fail, Run.skip]

namespace Executed

variable {next : Tables}

theorem mem_deliveries (done : Executed tables statement next) {row : Delivery} :
    row ∈ next.deliveries ↔ (∃ old ∈ tables.deliveries, statement.updates tables old = row) ∨
      row ∈ statement.delivers tables := by
  rw [done.deliveries, List.mem_append, List.mem_map]

theorem mem_runs (done : Executed tables statement next) {row : Run} :
    row ∈ next.runs ↔ (∃ old ∈ tables.runs, statement.edits tables old = row) ∨
      row ∈ statement.inserts tables := by
  rw [done.runs, List.mem_append, List.mem_map]

theorem keeps_delivery (done : Executed tables statement next) {row : Delivery}
    (member : row ∈ tables.deliveries) : statement.updates tables row ∈ next.deliveries :=
  done.mem_deliveries.mpr (Or.inl ⟨row, member, rfl⟩)

theorem keeps_run (done : Executed tables statement next) {row : Run} (member : row ∈ tables.runs) :
    statement.edits tables row ∈ next.runs :=
  done.mem_runs.mpr (Or.inl ⟨row, member, rfl⟩)

end Executed

end Statements

def Process.issues (autopilots : Id → Autopilot) (outside : Outside) (process : Process) : Statement :=
  if outside.fails then .read else process.statement autopilots outside

section System

variable {verifyHubSignature : String → String → String → Bool} {state : State}

inductive Stepped (verifyHubSignature : String → String → String → Bool) (state : State) :
    Action → State → Prop
  | advance {index : Nat} {outside : Outside} {process : Process} {next : State}
      (here : state.processes[index]? = some process)
      (executed : Executed state.tables (process.issues state.autopilots outside) next.tables)
      (processes : next.processes =
        state.processes.set index (process.next state.autopilots state.tables outside))
      (started : next.started = state.started ++ process.started state.tables outside)
      (made : next.made = state.made ++ process.made state.autopilots state.tables outside) :
      Stepped verifyHubSignature state (.advance index outside) next
  | quiet {action : Action} {next : State} (executed : Executed state.tables .read next.tables)
      (processes : next.processes = state.processes ∨
        (∃ call, next.processes = state.processes ++ [Call.start verifyHubSignature state call]) ∨
        ∃ index, next.processes = state.processes.set index .returned)
      (started : next.started = state.started) (made : next.made = state.made)
      (silent : ∀ index outside, action = .advance index outside → state.processes[index]? = none) :
      Stepped verifyHubSignature state action next

theorem executed_read {tables next : Tables} (deliveries : next.deliveries = tables.deliveries)
    (nextDelivery : next.nextDelivery = tables.nextDelivery) (runs : next.runs = tables.runs)
    (nextRun : next.nextRun = tables.nextRun) (tasks : next.tasks = tables.tasks) :
    Executed tables .read next := by
  constructor <;> simp [Statement.updates, Statement.delivers, Statement.edits, Statement.inserts, *]

variable (verifyHubSignature) in
theorem step_stepped (state : State) (action : Action) :
    Stepped verifyHubSignature state action (step verifyHubSignature state action) := by
  cases action with
  | advance index outside =>
      cases here : state.processes[index]? with
      | none =>
          simp only [step, here]
          refine .quiet (executed_read rfl rfl rfl rfl rfl) (Or.inl rfl) rfl rfl ?_
          rintro other outside ⟨⟩
          exact here
      | some process =>
          refine .advance here ?_ ?_ ?_ ?_ <;> simp only [step, here]
          rw [Process.issues]
          split
          · exact executed_read rfl rfl rfl rfl rfl
          · exact executed _ _
  | call call =>
      exact .quiet (executed_read rfl rfl rfl rfl rfl) (Or.inr (Or.inl ⟨call, rfl⟩)) rfl rfl (by simp)
  | crash index =>
      exact .quiet (executed_read rfl rfl rfl rfl rfl) (Or.inr (Or.inr ⟨index, rfl⟩)) rfl rfl (by simp)
  | _ => exact .quiet (executed_read rfl rfl rfl rfl rfl) (Or.inl rfl) rfl rfl (by simp)

theorem Stepped.mem_processes {action : Action} {next : State} {process : Process}
    (stepped : Stepped verifyHubSignature state action next) (member : process ∈ next.processes) :
    process ∈ state.processes ∨ process = .returned ∨
      (∃ call, process = Call.start verifyHubSignature state call) ∨
      ∃ index outside old, action = .advance index outside ∧ state.processes[index]? = some old ∧
        Executed state.tables (old.issues state.autopilots outside) next.tables ∧
        process = old.next state.autopilots state.tables outside := by
  cases stepped with
  | advance here executed processes started made =>
      rw [processes] at member
      rcases List.mem_or_eq_of_mem_set member with old | same
      · exact Or.inl old
      · exact Or.inr (Or.inr (Or.inr ⟨_, _, _, rfl, here, executed, same⟩))
  | quiet executed processes started made =>
      rcases processes with same | ⟨call, same⟩ | ⟨index, same⟩
      · exact Or.inl (same ▸ member)
      · rw [same, List.mem_append, List.mem_singleton] at member
        rcases member with old | begun
        · exact Or.inl old
        · exact Or.inr (Or.inr (Or.inl ⟨call, begun⟩))
      · rw [same] at member
        rcases List.mem_or_eq_of_mem_set member with old | crashed
        · exact Or.inl old
        · exact Or.inr (Or.inl crashed)

theorem Stepped.executed {action : Action} {next : State}
    (stepped : Stepped verifyHubSignature state action next) :
    ∃ statement, Executed state.tables statement next.tables := by
  cases stepped with
  | advance here executed processes started made => exact ⟨_, executed⟩
  | quiet executed processes started made => exact ⟨_, executed⟩

end System

theorem issues_createRun {autopilots : Id → Autopilot} {outside : Outside} {process : Process}
    {new : NewRun} (issued : process.issues autopilots outside = .createRun new) :
    outside.fails = false ∧
      ((∃ admitter, process = .admitInsert admitter ∧ new = admitter.newRun outside.skip) ∨
        ∃ caller, process = .insertRun caller ∧ new = caller.newRun outside.skip) := by
  rw [Process.issues] at issued
  split at issued
  · simp at issued
  · rename_i succeeds
    refine ⟨by simpa using succeeds, ?_⟩
    cases process with
    | createTask caller run =>
        simp only [Process.statement] at issued
        split at issued <;> simp at issued
    | _ => simp_all [Process.statement]

end MulticaOS.Autopilots
