import MulticaOS.Autopilots.Signatures

/-!
Which run belongs to which cause.  Every run is started once, a caller that works on a run
has started it or found it under its delivery, and a run for which something was made is
complete or has a task.
-/

namespace MulticaOS.Autopilots

def Process.works : Process → Option (Entry × Id)
  | .admitSkip admitter run _ => some (.worker admitter.delivery, run.id)
  | .findTask caller _ run => some (caller.entry, run.id)
  | .createIssue caller run => some (caller.entry, run.id)
  | .createTask caller run => some (caller.entry, run.id)
  | _ => none

def Process.inserts : Process → Option Entry
  | .recoverPartial caller _ => some caller.entry
  | .insertRun caller => some caller.entry
  | _ => none

def replayOf (original : Delivery) : NewDelivery :=
  ⟨original.triggerId, none, .notRequired, some original.id⟩

section Callers

variable {autopilots : Id → Autopilot} {tables : Tables} {outside : Outside} {process : Process}

theorem getAutopilotRun_id {id : Id} {row : Run} (found : getAutopilotRun tables id = some row) :
    row.id = id := by
  simpa using List.find?_some found

theorem reread_id (tables : Tables) (run : Run) : (reread tables run).id = run.id := by
  rw [reread]
  cases found : getAutopilotRun tables run.id with
  | none => rfl
  | some row => exact getAutopilotRun_id found

theorem works_dispatchAutopilotRun (caller : Caller) (run : Run) :
    (dispatchAutopilotRun caller run).works = some (caller.entry, run.id) := by
  rw [dispatchAutopilotRun]
  split <;> rfl

theorem works_finishDelivery (delivery : Delivery) (run : Run) :
    (finishDelivery delivery run).works = none := by
  rw [finishDelivery]
  split <;> rfl

theorem works_returnRun (caller : Caller) (run : Run) (error : Option String) :
    (returnRun caller run error).works = none := by
  unfold returnRun
  split <;> first | rfl | exact works_finishDelivery _ _

theorem works_returnNoRun (caller : Caller) (reason : String) :
    (returnNoRun caller reason).works = none := by
  rw [returnNoRun]
  split <;> rfl

theorem works_retryOrFail (delivery : Delivery) (cause : String) :
    (retryOrFail delivery cause).works = none := by
  rw [retryOrFail]
  split <;> rfl

theorem works_admissionFailed (admitter : Admitter) : (admissionFailed admitter).works = none := by
  cases admitter with
  | ingress inbound delivery autopilot => rfl
  | worker delivery autopilot => exact works_retryOrFail _ _

theorem works_admitted {admitter : Admitter} {run : Run} {entry : Entry} {id : Id}
    (works : (admitted admitter run).works = some (entry, id)) :
    entry = .worker admitter.delivery ∧ run.id = id := by
  cases admitter with
  | ingress inbound delivery autopilot => simp [admitted, Process.works] at works
  | worker delivery autopilot =>
      simp only [admitted] at works
      split at works
      · split at works
        · simp [Process.works] at works
        · simp [works_finishDelivery] at works
      · split at works
        · simpa [Process.works, Admitter.delivery, eq_comm] using works
        · simpa [works_dispatchAutopilotRun, Admitter.delivery, eq_comm] using works

inductive Obtained (tables : Tables) (outside : Outside) : Process → Entry → Id → Prop
  | kept {process : Process} {entry : Entry} {id : Id} (works : process.works = some (entry, id)) :
      Obtained tables outside process entry id
  | found {process : Process} {admitter : Admitter} {run : Run}
      (row : getAutopilotRunByWebhookDelivery tables admitter.delivery.id = some run) :
      Obtained tables outside process (.worker admitter.delivery) run.id
  | admitted {admitter : Admitter} {next : Tables} {run : Run} (succeeds : outside.fails = false)
      (created : createAutopilotRun tables (admitter.newRun outside.skip) = some (next, run)) :
      Obtained tables outside (.admitInsert admitter) (.worker admitter.delivery) run.id
  | inserted {caller : Caller} {next : Tables} {run : Run} (succeeds : outside.fails = false)
      (created : createAutopilotRun tables (caller.newRun outside.skip) = some (next, run)) :
      Obtained tables outside (.insertRun caller) caller.entry run.id

theorem next_works {entry : Entry} {id : Id}
    (works : (process.next autopilots tables outside).works = some (entry, id)) :
    Obtained tables outside process entry id := by
  cases process with
  | admitLookup admitter =>
      simp only [Process.next] at works
      split at works
      · simp [works_admissionFailed] at works
      · split at works
        · rename_i run row
          obtain ⟨rfl, rfl⟩ := works_admitted works
          exact .found row
        · simp [Process.works] at works
  | admitInsert admitter =>
      simp only [Process.next] at works
      split at works
      · simp [works_admissionFailed] at works
      · rename_i succeeds
        split at works
        · simp [Process.works] at works
        · rename_i run reason created skipped
          simp only [Process.works, Option.some.injEq, Prod.mk.injEq] at works
          obtain ⟨rfl, rfl⟩ := works
          exact .admitted (by simpa using succeeds) created
        · rename_i run created skipped
          obtain ⟨rfl, rfl⟩ := works_admitted works
          exact .admitted (by simpa using succeeds) created
  | admitSkip admitter run reason =>
      simp only [Process.next] at works
      split at works
      · obtain ⟨rfl, rfl⟩ := works_admitted works
        exact .kept rfl
      · obtain ⟨rfl, rfl⟩ := works_admitted works
        rw [reread_id]
        exact .kept rfl
  | admitReload admitter =>
      simp only [Process.next] at works
      split at works
      · rename_i run succeeds row
        obtain ⟨rfl, rfl⟩ := works_admitted works
        exact .found row
      · simp [works_admissionFailed] at works
  | findTask caller delivery run =>
      simp only [Process.next] at works
      split at works
      · simp [Process.works] at works
      · split at works
        · simp [Process.works] at works
        · rw [works_dispatchAutopilotRun] at works
          exact .kept works
  | insertRun caller =>
      simp only [Process.next] at works
      split at works
      · simp [Process.works] at works
      · rename_i run succeeds created skipped
        rw [works_dispatchAutopilotRun, Option.some.injEq, Prod.mk.injEq] at works
        obtain ⟨rfl, rfl⟩ := works
        exact .inserted succeeds created
      · simp [works_returnNoRun] at works
  | _ =>
      simp only [Process.next] at works
      repeat' split at works
      all_goals
        first
        | simp only [works_finishDelivery, works_returnRun, works_retryOrFail, reduceCtorEq] at works
        | simp [Process.works] at works

theorem next_inserts {entry : Entry}
    (inserts : (process.next autopilots tables outside).inserts = some entry) :
    process.inserts = some entry ∨ (∃ trigger plannedAt, entry = .plan trigger plannedAt) ∨
      (outside.fails = false ∧ ∃ original autopilot next delivery,
        process = .createReplay original autopilot ∧
        createWebhookDelivery tables (replayOf original) = some (next, delivery) ∧
        entry = .replay delivery.id delivery.triggerId) := by
  cases process with
  | createReplay original autopilot =>
      simp only [Process.next] at inserts
      split at inserts
      · rename_i next delivery succeeds created
        simp only [Process.inserts, Option.some.injEq] at inserts
        exact Or.inr (Or.inr ⟨succeeds, original, autopilot, next, delivery, rfl, created, inserts.symm⟩)
      · simp [Process.inserts] at inserts
  | lookupPlanned trigger plannedAt autopilot =>
      right
      left
      refine ⟨trigger, plannedAt, ?_⟩
      simp only [Process.next] at inserts
      (repeat' split at inserts) <;> simp_all [Process.inserts]
  | recoverPartial caller existing =>
      left
      simp only [Process.next] at inserts
      split at inserts
      · simp [Process.inserts] at inserts
      · exact inserts
  | _ =>
      simp only [Process.next, retryOrFail, finishDelivery, returnRun, returnNoRun,
        dispatchAutopilotRun, admitted, admissionFailed] at inserts
      (repeat' split at inserts) <;> simp_all [Process.inserts]

def Process.opens (outside : Outside) : Process → Option (Cause × NewRun)
  | .admitInsert admitter => some (.delivery admitter.delivery.id, admitter.newRun outside.skip)
  | .insertRun caller => some (caller.entry.cause, caller.newRun outside.skip)
  | _ => none

structure Starts (tables : Tables) (outside : Outside) (process : Process) (cause : Cause)
    (new : NewRun) (row : Run) : Prop where
  succeeds : outside.fails = false
  opens : process.opens outside = some (cause, new)
  created : (createAutopilotRun tables new).map Prod.snd = some row

theorem Starts.row_eq {cause : Cause} {new : NewRun} {row : Run}
    (starts : Starts tables outside process cause new row) :
    runCollides tables new = false ∧ row = new.row tables.nextRun := by
  obtain ⟨⟨next, other⟩, created, rfl⟩ := Option.map_eq_some_iff.mp starts.created
  obtain ⟨free, same, -⟩ := createAutopilotRun_spec created
  exact ⟨free, same⟩

theorem Starts.issues {cause : Cause} {new : NewRun} {row : Run}
    (starts : Starts tables outside process cause new row) :
    process.issues autopilots outside = .createRun new := by
  have opens := starts.opens
  cases process <;> simp_all [Process.opens, Process.issues, Process.statement, starts.succeeds]

theorem started_cases (tables : Tables) (outside : Outside) (process : Process) :
    process.started tables outside = [] ∨ ∃ cause new row, Starts tables outside process cause new row ∧
      process.started tables outside = [(cause, row.id)] := by
  cases process with
  | admitInsert admitter =>
      simp only [Process.started]
      split
      · rename_i succeeds created
        exact Or.inr ⟨_, _, _, ⟨succeeds, rfl, by rw [created]; rfl⟩, rfl⟩
      · exact Or.inl rfl
  | insertRun caller =>
      simp only [Process.started]
      split
      · rename_i succeeds created
        exact Or.inr ⟨_, _, _, ⟨succeeds, rfl, by rw [created]; rfl⟩, rfl⟩
      · exact Or.inl rfl
  | _ => exact Or.inl rfl

theorem Starts.started {cause : Cause} {new : NewRun} {row : Run}
    (starts : Starts tables outside process cause new row) :
    process.started tables outside = [(cause, row.id)] := by
  obtain ⟨⟨next, other⟩, created, rfl⟩ := Option.map_eq_some_iff.mp starts.created
  have opens := starts.opens
  have succeeds := starts.succeeds
  cases process <;> simp_all [Process.opens, Process.started]

theorem inserts_starts {row : Run}
    (inserted : row ∈ (process.issues autopilots outside).inserts tables) :
    ∃ cause new, Starts tables outside process cause new row := by
  obtain ⟨new, next, issued, created⟩ := mem_inserts inserted
  obtain ⟨succeeds, ⟨admitter, rfl, rfl⟩ | ⟨caller, rfl, rfl⟩⟩ := issues_createRun issued
  · exact ⟨_, _, succeeds, rfl, by rw [created]; rfl⟩
  · exact ⟨_, _, succeeds, rfl, by rw [created]; rfl⟩

theorem Starts.next_inserts {cause : Cause} {new : NewRun} {row : Run}
    (starts : Starts tables outside process cause new row) :
    (process.next autopilots tables outside).inserts = none := by
  have opens := starts.opens
  cases process with
  | admitInsert admitter =>
      simp only [Process.next, admitted, finishDelivery, dispatchAutopilotRun, admissionFailed,
        retryOrFail]
      (repeat' split) <;> rfl
  | insertRun caller =>
      simp only [Process.next, returnNoRun, dispatchAutopilotRun]
      (repeat' split) <;> rfl
  | _ => simp [Process.opens] at opens

theorem mem_made {made : Made} (member : made ∈ process.made autopilots tables outside) :
    outside.fails = false ∧ ∃ caller run, made.cause = caller.entry.cause ∧ made.run = run.id ∧
      ((process = .createIssue caller run ∧ findRecentAutopilotDuplicateIssue tables
          (caller.refreshed autopilots) outside.title = none) ∨
        (process = .createTask caller run ∧ outside.unready = none)) := by
  cases process with
  | createIssue caller run =>
      simp only [Process.made] at member
      split at member
      · rename_i succeeds none
        rw [List.mem_singleton] at member
        subst member
        exact ⟨succeeds, caller, run, rfl, rfl, Or.inl ⟨rfl, none⟩⟩
      · contradiction
  | createTask caller run =>
      simp only [Process.made] at member
      split at member
      · rename_i succeeds ready
        rw [List.mem_singleton] at member
        subst member
        exact ⟨succeeds, caller, run, rfl, rfl, Or.inr ⟨rfl, ready⟩⟩
      · contradiction
  | _ => simp [Process.made] at member

theorem made_cases (autopilots : Id → Autopilot) (tables : Tables) (outside : Outside)
    (process : Process) :
    process.made autopilots tables outside = [] ∨
      ∃ made, process.made autopilots tables outside = [made] := by
  cases process with
  | createIssue caller run =>
      simp only [Process.made]
      split
      · exact Or.inr ⟨_, rfl⟩
      · exact Or.inl rfl
  | createTask caller run =>
      simp only [Process.made]
      split
      · exact Or.inr ⟨_, rfl⟩
      · exact Or.inl rfl
  | _ => exact Or.inl rfl

theorem next_of_made {made : Made} (member : made ∈ process.made autopilots tables outside) :
    (process.next autopilots tables outside).works = none ∧
      (process.next autopilots tables outside).inserts = none := by
  obtain ⟨succeeds, caller, run, -, -, ⟨rfl, none⟩ | ⟨rfl, ready⟩⟩ := mem_made member
  · simp [Process.next, succeeds, none, Process.works, Process.inserts]
  · simp [Process.next, succeeds, ready, Process.works, Process.inserts]

end Callers

def State.startedFor (state : State) (cause : Cause) : Nat :=
  state.started.countP fun entry => entry.1 = cause

def State.madeFor (state : State) (cause : Cause) : Nat :=
  state.made.countP fun made => made.cause = cause

def Delivered (tables : Tables) (delivery run : Id) : Prop :=
  ∃ row ∈ tables.runs, row.id = run ∧ row.webhookDeliveryId = some delivery

def settled (tables : Tables) (run : Id) : Bool :=
  (tables.runs.any fun row => row.id = run && isAutopilotRunComplete row) ||
    tables.tasks.any fun task => task.autopilotRunId = some run

structure Worked (state : State) (entry : Entry) (run : Id) : Prop where
  started : (entry.cause, run) ∈ state.started
  delivered : ∀ delivery, entry = .worker delivery → Delivered state.tables delivery.id run
  direct : (∀ delivery, entry ≠ .worker delivery) → ∀ row ∈ state.tables.runs, row.id = run →
    row.webhookDeliveryId = none

structure Traced (state : State) : Prop where
  below : ∀ row ∈ state.tables.runs, state.tables.nextRun > row.id
  once : (state.started.map Prod.snd).Nodup
  started : ∀ entry ∈ state.started, ∃ row ∈ state.tables.runs, row.id = entry.2
  delivered : ∀ row ∈ state.tables.runs, ∀ delivery, row.webhookDeliveryId = some delivery →
    (.delivery delivery, row.id) ∈ state.started
  inserts : ∀ process ∈ state.processes, ∀ entry delivery, process.inserts = some entry →
    entry ≠ .worker delivery
  works : ∀ process ∈ state.processes, ∀ entry run, process.works = some (entry, run) →
    Worked state entry run
  made : ∀ made ∈ state.made, (made.cause, made.run) ∈ state.started ∧
    settled state.tables made.run = true

section Rows

variable {tables next : Tables} {statement : Statement}

theorem Executed.keeps_delivered (done : Executed tables statement next) {delivery run : Id}
    (delivered : Delivered tables delivery run) : Delivered next delivery run := by
  obtain ⟨row, member, same, reason⟩ := delivered
  have kept : row.Same (statement.edits tables row) := edits_same row
  exact ⟨_, done.keeps_run member, kept.id.trans same, kept.webhookDeliveryId.trans reason⟩

theorem settled_iff {run : Id} : settled tables run = true ↔
    (∃ row ∈ tables.runs, row.id = run ∧ isAutopilotRunComplete row = true) ∨
      ∃ task ∈ tables.tasks, task.autopilotRunId = some run := by
  simp [settled]

theorem Executed.keeps_settled (done : Executed tables statement next) {run : Id}
    (settles : settled tables run = true) : settled next run = true := by
  rw [settled_iff] at settles ⊢
  rcases settles with ⟨row, member, same, complete⟩ | ⟨task, member, same⟩
  · left
    refine ⟨_, done.keeps_run member, (edits_same row).id.trans same, ?_⟩
    rcases edits_complete row with kept | edited
    · rw [kept, complete]
    · exact edited
  · exact Or.inr ⟨task, done.tasks task member, same⟩

theorem Executed.runs_cases (done : Executed tables statement next) {row : Run}
    (member : row ∈ next.runs) :
    (∃ old ∈ tables.runs, old.Same row) ∨
      row ∈ statement.inserts tables ∧ row.id = tables.nextRun := by
  rcases done.mem_runs.mp member with ⟨old, listed, rfl⟩ | inserted
  · exact Or.inl ⟨old, listed, edits_same old⟩
  · obtain ⟨new, rest, -, created⟩ := mem_inserts inserted
    obtain ⟨-, rfl, -⟩ := createAutopilotRun_spec created
    exact Or.inr ⟨inserted, rfl⟩

theorem Executed.below (done : Executed tables statement next)
    (below : ∀ row ∈ tables.runs, tables.nextRun > row.id) : ∀ row ∈ next.runs, next.nextRun > row.id := by
  intro row member
  rw [done.nextRun]
  rcases done.runs_cases member with ⟨old, listed, same⟩ | ⟨inserted, fresh⟩
  · have bound := below old listed
    rw [same.id]
    omega
  · have length := List.length_pos_of_mem inserted
    rw [fresh]
    omega

end Rows

section System

variable {verifyHubSignature : String → String → String → Bool} {state next : State} {action : Action}

theorem Traced.fresh (traced : Traced state) {entry : Cause × Id} (member : entry ∈ state.started) :
    state.tables.nextRun > entry.2 := by
  obtain ⟨row, listed, same⟩ := traced.started entry member
  have bound := traced.below row listed
  rwa [same] at bound

theorem Traced.same_entry (traced : Traced state) {left right : Cause} {run : Id}
    (leftMember : (left, run) ∈ state.started) (rightMember : (right, run) ∈ state.started) :
    left = right :=
  congrArg Prod.fst (List.inj_on_of_nodup_map traced.once leftMember rightMember rfl)

theorem start_works (call : Call) : (Call.start verifyHubSignature state call).works = none := by
  cases call <;> rfl

theorem Stepped.countP_le {holds : Process → Bool} (returned : holds .returned = false)
    (start : ∀ call, holds (Call.start verifyHubSignature state call) = false)
    (processes : next.processes = state.processes ∨
      (∃ call, next.processes = state.processes ++ [Call.start verifyHubSignature state call]) ∨
      ∃ index, next.processes = state.processes.set index .returned) :
    next.processes.countP holds ≤ state.processes.countP holds := by
  rcases processes with same | ⟨call, same⟩ | ⟨index, same⟩
  · exact Nat.le_of_eq (by rw [same])
  · have idle := start call
    rw [same, List.countP_append, List.countP_singleton, if_neg (Bool.eq_false_iff.mp idle)]
    exact Nat.le_refl _
  · rw [same]
    cases here : state.processes[index]? with
    | none =>
        exact Nat.le_of_eq (by rw [List.set_eq_of_length_le (List.getElem?_eq_none_iff.mp here)])
    | some process =>
        have count := ListLib.countP_set .returned holds here
        rw [returned] at count
        simp at count
        omega

theorem Stepped.keeps_started (stepped : Stepped verifyHubSignature state action next)
    {entry : Cause × Id} (member : entry ∈ state.started) : entry ∈ next.started := by
  cases stepped with
  | advance here executed processes started made =>
      rw [started]
      exact List.mem_append_left _ member
  | quiet executed processes started made => rwa [started]

theorem Stepped.mem_started (stepped : Stepped verifyHubSignature state action next)
    {entry : Cause × Id} (member : entry ∈ next.started) :
    entry ∈ state.started ∨ ∃ index outside process new row, action = .advance index outside ∧
      state.processes[index]? = some process ∧
      Starts state.tables outside process entry.1 new row ∧ row.id = entry.2 ∧
      row ∈ next.tables.runs := by
  cases stepped with
  | advance here executed processes started made =>
      rw [started, List.mem_append] at member
      rcases member with old | added
      · exact Or.inl old
      · rename_i index outside process
        rcases started_cases state.tables outside process with none | ⟨cause, new, row, starts, same⟩
        · rw [none] at added
          contradiction
        · rw [same, List.mem_singleton] at added
          subst added
          have inserted : row ∈ next.tables.runs := by
            refine executed.mem_runs.mpr (Or.inr ?_)
            rw [starts.issues]
            simp [Statement.inserts, ← starts.created]
          exact Or.inr ⟨index, outside, process, new, row, rfl, here, starts, rfl, inserted⟩
  | quiet executed processes started made => exact Or.inl (started ▸ member)

theorem Stepped.mem_made (stepped : Stepped verifyHubSignature state action next) {made : Made}
    (member : made ∈ next.made) :
    made ∈ state.made ∨ ∃ index outside process, action = .advance index outside ∧
      state.processes[index]? = some process ∧
      Executed state.tables (process.issues state.autopilots outside) next.tables ∧
      made ∈ process.made state.autopilots state.tables outside := by
  cases stepped with
  | advance here executed processes started same =>
      rw [same, List.mem_append] at member
      rcases member with old | added
      · exact Or.inl old
      · exact Or.inr ⟨_, _, _, rfl, here, executed, added⟩
  | quiet executed processes started same => exact Or.inl (same ▸ member)

theorem Traced.worked (traced : Traced state)
    (stepped : Stepped verifyHubSignature state action next) {entry : Entry} {run : Id}
    (worked : Worked state entry run) : Worked next entry run := by
  obtain ⟨statement, executed⟩ := stepped.executed
  refine ⟨stepped.keeps_started worked.started,
    fun delivery same => executed.keeps_delivered (worked.delivered delivery same), ?_⟩
  intro direct row member same
  rcases executed.runs_cases member with ⟨old, listed, kept⟩ | ⟨-, fresh⟩
  · rw [kept.webhookDeliveryId]
    exact worked.direct direct old listed (kept.id.symm.trans same)
  · have bound := traced.fresh worked.started
    rw [← same, fresh] at bound
    exact absurd bound (Nat.lt_irrefl _)

theorem Traced.worked_started (traced : Traced state)
    (stepped : Stepped verifyHubSignature state action next) {index : Nat} {outside : Outside}
    {process : Process} {entry : Entry} {new : NewRun} {row : Run}
    (advances : action = .advance index outside) (here : state.processes[index]? = some process)
    (starts : Starts state.tables outside process entry.cause new row)
    (delivered : ∀ delivery, entry = .worker delivery → new.webhookDeliveryId = some delivery.id)
    (direct : (∀ delivery, entry ≠ .worker delivery) → new.webhookDeliveryId = none) :
    Worked next entry row.id := by
  subst advances
  cases stepped with
  | advance found executed processes started made =>
      obtain rfl := Option.some.inj (here.symm.trans found)
      have inserts : (process.issues state.autopilots outside).inserts state.tables = [row] := by
        rw [starts.issues]
        simp [Statement.inserts, starts.created]
      obtain ⟨-, same⟩ := starts.row_eq
      refine ⟨?_, ?_, ?_⟩
      · rw [started, starts.started]
        simp
      · intro delivery worker
        refine ⟨row, executed.mem_runs.mpr (Or.inr (by rw [inserts]; simp)), rfl, ?_⟩
        rw [same]
        exact delivered delivery worker
      · intro other listed member sameId
        rcases executed.runs_cases member with ⟨old, before, kept⟩ | ⟨inserted, -⟩
        · have bound := traced.below old before
          rw [← kept.id, sameId, same] at bound
          exact absurd bound (Nat.lt_irrefl _)
        · rw [inserts, List.mem_singleton] at inserted
          rw [inserted, same]
          exact direct other
  | quiet executed processes started made silent =>
      rw [silent index outside rfl] at here
      contradiction

theorem Stepped.next_worked (stepped : Stepped verifyHubSignature state action next)
    (traced : Traced state) {process : Process} (member : process ∈ next.processes) {entry : Entry}
    {run : Id} (works : process.works = some (entry, run)) : Worked next entry run := by
  rcases stepped.mem_processes member with old | rfl | ⟨call, rfl⟩ |
    ⟨index, outside, old, rfl, here, executed, rfl⟩
  · exact traced.worked stepped (traced.works process old entry run works)
  · simp [Process.works] at works
  · rw [start_works] at works
    contradiction
  · have listed := List.mem_of_getElem? here
    cases next_works works with
    | kept before => exact traced.worked stepped (traced.works old listed entry run before)
    | found row =>
        rename_i admitter run
        have delivered : run.webhookDeliveryId = some admitter.delivery.id := by
          simpa [Run.deliveredFor] using List.find?_some row
        have inTable := List.mem_of_find?_eq_some row
        refine traced.worked stepped ⟨traced.delivered run inTable _ delivered, ?_, ?_⟩
        · rintro delivery ⟨⟩
          exact ⟨run, inTable, rfl, delivered⟩
        · intro other
          exact absurd rfl (other _)
    | admitted succeeds created =>
        rename_i admitter rest run
        refine traced.worked_started stepped rfl here ⟨succeeds, rfl, by rw [created]; rfl⟩ ?_ ?_
        · rintro delivery ⟨⟩
          rfl
        · intro other
          exact absurd rfl (other _)
    | inserted succeeds created =>
        rename_i caller rest run
        refine traced.worked_started stepped rfl here ⟨succeeds, rfl, by rw [created]; rfl⟩ ?_ ?_
        · intro delivery worker
          exact absurd worker (traced.inserts _ listed _ delivery rfl)
        · intro other
          rfl

theorem start_inserts {call : Call} {entry : Entry}
    (inserts : (Call.start verifyHubSignature state call).inserts = some entry) :
    ∃ trigger, entry = .manual trigger := by
  cases call with
  | manual trigger => exact ⟨trigger, by simpa [Call.start, Process.inserts, eq_comm] using inserts⟩
  | _ => simp [Call.start, Process.inserts] at inserts

theorem Stepped.next_inserts (stepped : Stepped verifyHubSignature state action next)
    (traced : Traced state) {process : Process} (member : process ∈ next.processes) {entry : Entry}
    (inserts : process.inserts = some entry) (delivery : Delivery) : entry ≠ .worker delivery := by
  rcases stepped.mem_processes member with old | rfl | ⟨call, rfl⟩ |
    ⟨index, outside, old, rfl, here, executed, rfl⟩
  · exact traced.inserts process old entry delivery inserts
  · simp [Process.inserts] at inserts
  · obtain ⟨trigger, rfl⟩ := start_inserts inserts
    simp
  · rcases Autopilots.next_inserts inserts with before | ⟨trigger, plannedAt, rfl⟩ |
      ⟨-, original, autopilot, rest, created, -, -, rfl⟩
    · exact traced.inserts old (List.mem_of_getElem? here) entry delivery before
    · simp
    · simp

theorem Executed.settled_made {process : Process} {autopilots : Id → Autopilot} {outside : Outside}
    {tables rest : Tables} {made : Made} (done : Executed tables (process.issues autopilots outside) rest)
    (member : made ∈ process.made autopilots tables outside)
    (stored : ∃ row ∈ tables.runs, row.id = made.run) : settled rest made.run = true := by
  obtain ⟨succeeds, caller, run, -, sameRun, ⟨rfl, none⟩ | ⟨rfl, ready⟩⟩ := mem_made member
  · obtain ⟨row, listed, same⟩ := stored
    rw [settled_iff]
    left
    refine ⟨_, done.keeps_run listed, (edits_same row).id.trans same, ?_⟩
    have linked : row.id = run.id := same.trans sameRun
    simp [Process.issues, succeeds, Process.statement, Statement.edits, none, linked, Run.linkIssue,
      isAutopilotRunComplete]
  · rw [settled_iff]
    right
    obtain ⟨task, listed, same⟩ := done.tasked run.id
      (by simp [Process.issues, succeeds, Process.statement, ready])
    exact ⟨task, listed, by rw [same, sameRun]⟩

theorem works_of_made {process : Process} {autopilots : Id → Autopilot} {outside : Outside}
    {tables : Tables} {made : Made} (member : made ∈ process.made autopilots tables outside) :
    ∃ entry, process.works = some (entry, made.run) ∧ made.cause = entry.cause := by
  obtain ⟨-, caller, run, sameCause, sameRun, ⟨rfl, -⟩ | ⟨rfl, -⟩⟩ := mem_made member
  · exact ⟨caller.entry, by rw [sameRun]; rfl, sameCause⟩
  · exact ⟨caller.entry, by rw [sameRun]; rfl, sameCause⟩

theorem Starts.cause_eq {process : Process} {outside : Outside} {tables : Tables} {cause : Cause}
    {new : NewRun} {row : Run} (starts : Starts tables outside process cause new row) {delivery : Id}
    (delivered : row.webhookDeliveryId = some delivery) : cause = .delivery delivery := by
  rw [starts.row_eq.2] at delivered
  have opens := starts.opens
  cases process with
  | admitInsert admitter =>
      simp only [Process.opens, Option.some.injEq, Prod.mk.injEq] at opens
      obtain ⟨rfl, rfl⟩ := opens
      rw [show admitter.delivery.id = delivery from Option.some.inj delivered]
  | insertRun caller =>
      simp only [Process.opens, Option.some.injEq, Prod.mk.injEq] at opens
      obtain ⟨rfl, rfl⟩ := opens
      simp [NewRun.row, Caller.newRun] at delivered
  | _ => simp [Process.opens] at opens

theorem Stepped.run_cases (stepped : Stepped verifyHubSignature state action next) {row : Run}
    (member : row ∈ next.tables.runs) :
    (∃ old ∈ state.tables.runs, old.Same row) ∨ ∃ index outside process cause new,
      action = .advance index outside ∧ state.processes[index]? = some process ∧
      Starts state.tables outside process cause new row ∧ (cause, row.id) ∈ next.started := by
  cases stepped with
  | advance here executed processes started made =>
      rcases executed.runs_cases member with old | ⟨inserted, -⟩
      · exact Or.inl old
      · obtain ⟨cause, new, starts⟩ := inserts_starts inserted
        refine Or.inr ⟨_, _, _, cause, new, rfl, here, starts, ?_⟩
        rw [started, starts.started]
        simp
  | quiet executed processes started made silent =>
      rcases executed.runs_cases member with old | ⟨inserted, -⟩
      · exact Or.inl old
      · simp [Statement.inserts] at inserted

theorem Stepped.once (stepped : Stepped verifyHubSignature state action next) (traced : Traced state) :
    (next.started.map Prod.snd).Nodup := by
  cases stepped with
  | advance here executed processes started made =>
      rename_i index outside process
      rw [started, List.map_append]
      rcases started_cases state.tables outside process with none | ⟨cause, new, row, starts, same⟩
      · simpa [none] using traced.once
      · rw [same]
        refine List.Nodup.append traced.once (by simp) ?_
        intro run old fresh
        obtain ⟨entry, listed, rfl⟩ := List.mem_map.mp old
        have bound := traced.fresh listed
        rw [List.map_singleton, List.mem_singleton, starts.row_eq.2] at fresh
        rw [fresh] at bound
        exact absurd bound (Nat.lt_irrefl _)
  | quiet executed processes started made silent => exact started ▸ traced.once

theorem Traced.step (traced : Traced state) :
    Traced (step verifyHubSignature state action) := by
  have stepped := step_stepped verifyHubSignature state action
  obtain ⟨statement, executed⟩ := stepped.executed
  constructor
  · exact executed.below traced.below
  · exact stepped.once traced
  · intro entry member
    rcases stepped.mem_started member with old | ⟨index, outside, process, new, row, -, -, -, same, listed⟩
    · obtain ⟨row, listed, same⟩ := traced.started entry old
      exact ⟨_, executed.keeps_run listed, (edits_same row).id.trans same⟩
    · exact ⟨row, listed, same⟩
  · intro row member delivery delivered
    rcases stepped.run_cases member with ⟨old, listed, same⟩ | ⟨_, _, _, cause, new, -, -, starts, started⟩
    · rw [same.id]
      exact stepped.keeps_started
        (traced.delivered old listed delivery (same.webhookDeliveryId.symm.trans delivered))
    · rwa [starts.cause_eq delivered] at started
  · intro process member entry delivery inserts
    exact stepped.next_inserts traced member inserts delivery
  · intro process member entry run works
    exact stepped.next_worked traced member works
  · intro made member
    rcases stepped.mem_made member with old | ⟨index, outside, process, rfl, here, executed, added⟩
    · obtain ⟨started, settles⟩ := traced.made made old
      exact ⟨stepped.keeps_started started, executed.keeps_settled settles⟩
    · obtain ⟨entry, works, same⟩ := works_of_made added
      have worked := traced.works process (List.mem_of_getElem? here) entry made.run works
      have started := worked.started
      rw [← same] at started
      exact ⟨stepped.keeps_started started, executed.settled_made added (traced.started _ started)⟩

theorem traced_initial (autopilots : Id → Autopilot) (secrets : Id → String) :
    Traced (initial autopilots secrets) := by
  constructor <;> simp [initial, noRows]

end System

end MulticaOS.Autopilots
