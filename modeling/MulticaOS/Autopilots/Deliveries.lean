import MulticaOS.Autopilots.Tracing

/-!
How often a delivery takes effect.  Ingress and the workers share one run, which the unique
index on `webhook_delivery_id` keeps single, but a replay inserts a run of its own beside
the queued row that a worker may claim; and two workers whose leases overlap can both
create the issue or the task of the run they share.
-/

namespace MulticaOS.Autopilots

open RunLib

def Entry.replays : Entry → Option Id
  | .replay delivery _ => some delivery
  | _ => none

def replayInserts (delivery : Id) (process : Process) : Bool :=
  process.inserts.bind Entry.replays = some delivery

def replayWorks (delivery : Id) (process : Process) : Bool :=
  replayInserts delivery process || (process.works.bind fun work => work.1.replays) = some delivery

section Callers

variable {autopilots : Id → Autopilot} {tables : Tables} {outside : Outside} {process : Process}
  {delivery : Id}

theorem replays_eq_some {entry : Entry} (replays : entry.replays = some delivery) :
    ∃ trigger, entry = .replay delivery trigger := by
  cases entry <;> simp_all [Entry.replays]

theorem replayInserts_iff : replayInserts delivery process = true ↔
    ∃ trigger, process.inserts = some (.replay delivery trigger) := by
  simp only [replayInserts, decide_eq_true_eq, Option.bind_eq_some_iff]
  constructor
  · rintro ⟨entry, inserts, replays⟩
    obtain ⟨trigger, rfl⟩ := replays_eq_some replays
    exact ⟨trigger, inserts⟩
  · rintro ⟨trigger, inserts⟩
    exact ⟨_, inserts, rfl⟩

theorem replayWorks_iff : replayWorks delivery process = true ↔
    (∃ trigger, process.inserts = some (.replay delivery trigger)) ∨
      ∃ trigger run, process.works = some (.replay delivery trigger, run) := by
  simp only [replayWorks, Bool.or_eq_true, replayInserts_iff, decide_eq_true_eq,
    Option.bind_eq_some_iff]
  constructor
  · rintro (inserts | ⟨⟨entry, run⟩, works, replays⟩)
    · exact Or.inl inserts
    · obtain ⟨trigger, rfl⟩ := replays_eq_some replays
      exact Or.inr ⟨trigger, run, works⟩
  · rintro (inserts | ⟨trigger, run, works⟩)
    · exact Or.inl inserts
    · exact Or.inr ⟨_, works, rfl⟩

def StoresReplay (tables : Tables) (outside : Outside) (process : Process) (delivery : Id) : Prop :=
  outside.fails = false ∧ delivery = tables.nextDelivery ∧
    ∃ original autopilot, process = .createReplay original autopilot ∧
      deliveryCollides tables (replayOf original) = false

theorem next_replayInserts
    (inserts : replayInserts delivery (process.next autopilots tables outside) = true) :
    replayInserts delivery process = true ∨ StoresReplay tables outside process delivery := by
  obtain ⟨trigger, inserts⟩ := replayInserts_iff.mp inserts
  rcases next_inserts inserts with before | ⟨_, _, same⟩ |
    ⟨succeeds, original, autopilot, next, row, rfl, created, same⟩
  · exact Or.inl (replayInserts_iff.mpr ⟨trigger, before⟩)
  · contradiction
  · obtain ⟨free, rfl, -⟩ := createWebhookDelivery_spec created
    obtain ⟨rfl, -⟩ := Entry.replay.inj same
    exact Or.inr ⟨succeeds, rfl, original, autopilot, rfl, free⟩

theorem next_replayWorks
    (working : replayWorks delivery (process.next autopilots tables outside) = true) :
    replayWorks delivery process = true ∨ StoresReplay tables outside process delivery := by
  rcases replayWorks_iff.mp working with inserts | ⟨trigger, run, works⟩
  · rcases next_replayInserts (replayInserts_iff.mpr inserts) with before | stores
    · exact Or.inl (replayWorks_iff.mpr (Or.inl (replayInserts_iff.mp before)))
    · exact Or.inr stores
  · left
    rw [replayWorks_iff]
    generalize entries : Entry.replay delivery trigger = entry at works
    cases next_works works with
    | kept before =>
        subst entries
        exact Or.inr ⟨trigger, run, before⟩
    | found row => contradiction
    | admitted succeeds created => contradiction
    | inserted succeeds created =>
        left
        refine ⟨trigger, ?_⟩
        rw [entries]
        rfl

end Callers

structure Unreplayed (state : State) (delivery : Id) : Prop where
  idle : state.processes.countP (replayInserts delivery) = 0
  admitted : ∀ run, (.delivery delivery, run) ∈ state.started → Delivered state.tables delivery run

section System

variable {verifyHubSignature : String → String → String → Bool} {state next : State} {action : Action}
  {delivery : Id}

theorem start_replayInserts (call : Call) :
    replayInserts delivery (Call.start verifyHubSignature state call) = false := by
  cases inserts : replayInserts delivery (Call.start verifyHubSignature state call) with
  | false => rfl
  | true =>
      obtain ⟨trigger, inserts⟩ := replayInserts_iff.mp inserts
      obtain ⟨_, same⟩ := start_inserts inserts
      contradiction

theorem start_replayWorks (call : Call) :
    replayWorks delivery (Call.start verifyHubSignature state call) = false := by
  rw [replayWorks, start_replayInserts, start_works]
  rfl

theorem Traced.starts_delivery (traced : Traced state) {outside : Outside} {process : Process}
    {new : NewRun} {row : Run} (member : process ∈ state.processes)
    (starts : Starts state.tables outside process (.delivery delivery) new row) :
    (process.admits = some delivery ∧ new.webhookDeliveryId = some delivery) ∨
      ∃ trigger, process.inserts = some (.replay delivery trigger) := by
  have opens := starts.opens
  cases process with
  | admitInsert admitter =>
      simp only [Process.opens, Option.some.injEq, Prod.mk.injEq, Cause.delivery.injEq] at opens
      obtain ⟨same, rfl⟩ := opens
      exact Or.inl ⟨congrArg some same, congrArg some same⟩
  | insertRun caller =>
      simp only [Process.opens, Option.some.injEq, Prod.mk.injEq] at opens
      obtain ⟨same, -⟩ := opens
      cases entry : caller.entry with
      | worker claimed => exact absurd entry (traced.inserts _ member _ claimed rfl)
      | replay replayed trigger =>
          rw [entry] at same
          obtain rfl : replayed = delivery := Cause.delivery.inj same
          exact Or.inr ⟨trigger, congrArg some entry⟩
      | plan trigger plannedAt => rw [entry] at same; contradiction
      | manual trigger => rw [entry] at same; contradiction
  | _ => simp [Process.opens] at opens

theorem Unreplayed.step (unreplayed : Unreplayed state delivery) (traced : Traced state)
    (stepped : Stepped verifyHubSignature state action next)
    (other : ∀ index outside process, action = .advance index outside →
      state.processes[index]? = some process → ¬ StoresReplay state.tables outside process delivery) :
    Unreplayed next delivery := by
  have idle : ∀ process ∈ state.processes, replayInserts delivery process = false := by
    simpa [List.countP_eq_zero] using unreplayed.idle
  constructor
  · rw [List.countP_eq_zero]
    intro process member inserts
    rcases stepped.mem_processes member with old | rfl | ⟨call, rfl⟩ |
      ⟨index, outside, old, rfl, here, executed, rfl⟩
    · rw [idle process old] at inserts
      contradiction
    · contradiction
    · rw [start_replayInserts] at inserts
      contradiction
    · rcases next_replayInserts inserts with before | stores
      · rw [idle old (List.mem_of_getElem? here)] at before
        contradiction
      · exact other index outside old rfl here stores
  · intro run member
    obtain ⟨statement, executed⟩ := stepped.executed
    rcases stepped.mem_started member with old | ⟨index, outside, process, new, row, rfl, here, starts, rfl, listed⟩
    · exact executed.keeps_delivered (unreplayed.admitted run old)
    · have inProcesses := List.mem_of_getElem? here
      rcases traced.starts_delivery inProcesses starts with ⟨-, delivered⟩ | inserts
      · refine ⟨row, listed, rfl, ?_⟩
        rw [starts.row_eq.2]
        exact delivered
      · have inserting := replayInserts_iff.mpr inserts
        rw [idle process inProcesses] at inserting
        contradiction

structure Known (state : State) : Prop where
  numbered : Numbered state.tables
  started : ∀ delivery run, (.delivery delivery, run) ∈ state.started →
    state.tables.nextDelivery > delivery
  inserts : ∀ process ∈ state.processes, ∀ delivery trigger,
    process.inserts = some (.replay delivery trigger) → state.tables.nextDelivery > delivery
  admits : ∀ process ∈ state.processes, ∀ delivery, process.admits = some delivery →
    state.tables.nextDelivery > delivery

theorem Executed.nextDelivery_le {tables after : Tables} {statement : Statement}
    (done : Executed tables statement after) (bound : tables.nextDelivery > delivery) :
    after.nextDelivery > delivery := by
  rw [done.nextDelivery]
  omega

theorem Executed.nextDelivery_created {tables after rest : Tables} {new : NewDelivery} {row : Delivery}
    (done : Executed tables (.createDelivery new) after)
    (created : createWebhookDelivery tables new = some (rest, row)) : after.nextDelivery > row.id := by
  obtain ⟨-, same, -⟩ := createWebhookDelivery_spec created
  rw [done.nextDelivery, same]
  simp [Statement.delivers, created, NewDelivery.row]

theorem Known.step (known : Known state) (traced : Traced state)
    (stepped : Stepped verifyHubSignature state action next) : Known next := by
  obtain ⟨statement, executed⟩ := stepped.executed
  refine ⟨executed.numbered known.numbered, ?_, ?_, ?_⟩
  · intro delivery run member
    rcases stepped.mem_started member with old | ⟨index, outside, process, new, row, rfl, here, starts, -, -⟩
    · exact executed.nextDelivery_le (known.started delivery run old)
    · have inProcesses := List.mem_of_getElem? here
      rcases traced.starts_delivery inProcesses starts with ⟨admits, -⟩ | ⟨trigger, inserts⟩
      · exact executed.nextDelivery_le (known.admits process inProcesses delivery admits)
      · exact executed.nextDelivery_le (known.inserts process inProcesses delivery trigger inserts)
  · intro process member delivery trigger inserts
    rcases stepped.mem_processes member with old | rfl | ⟨call, rfl⟩ |
      ⟨index, outside, old, rfl, here, executed, rfl⟩
    · exact executed.nextDelivery_le (known.inserts process old delivery trigger inserts)
    · simp [Process.inserts] at inserts
    · obtain ⟨_, same⟩ := start_inserts inserts
      contradiction
    · rcases next_inserts inserts with before | ⟨_, _, same⟩ |
        ⟨succeeds, original, autopilot, rest, row, rfl, created, same⟩
      · exact executed.nextDelivery_le
          (known.inserts old (List.mem_of_getElem? here) delivery trigger before)
      · contradiction
      · obtain ⟨rfl, -⟩ := Entry.replay.inj same
        simp only [Process.issues, succeeds, Process.statement, Bool.false_eq_true, if_false] at executed
        exact executed.nextDelivery_created created
  · intro process member delivery admits
    rcases stepped.mem_processes member with old | rfl | ⟨call, rfl⟩ |
      ⟨index, outside, old, rfl, here, executed, rfl⟩
    · exact executed.nextDelivery_le (known.admits process old delivery admits)
    · simp [Process.admits] at admits
    · rw [start_admits] at admits
      contradiction
    · rcases next_admits admits with before | ⟨succeeds, inbound, row, rest, rfl, created, -, rfl⟩ |
        ⟨succeeds, row, rest, rfl, claimed, rfl⟩
      · exact executed.nextDelivery_le (known.admits old (List.mem_of_getElem? here) delivery before)
      · simp only [Process.issues, succeeds, Process.statement, Bool.false_eq_true, if_false] at executed
        exact executed.nextDelivery_created created
      · obtain ⟨found, listed, -, -, rfl, -⟩ := claimQueuedWebhookDelivery_spec claimed
        exact executed.nextDelivery_le (known.numbered.below found listed)

def unreplayed (state : State) (delivery : Id) : Bool :=
  state.processes.all (fun process => !replayInserts delivery process) &&
    state.started.all fun entry => entry.1 ≠ .delivery delivery ||
      state.tables.runs.any fun row => row.id = entry.2 && row.webhookDeliveryId = some delivery

def Entry.isWorker : Entry → Bool
  | .worker _ => true
  | _ => false

/-- A worker claims the row of a replay only once its handler can no longer insert a run for it,
and it comes to create an issue or a task only for a run that is not settled. -/
def deliveriesUndisturbed (state : State) : Action → Bool
  | .advance index outside =>
      match state.processes[index]? with
      | some .claim =>
          match claimQueuedWebhookDelivery state.tables outside.picked with
          | some (_, delivery) => delivery.replayedFrom = none || unreplayed state delivery.id
          | none => true
      | some (.createIssue caller run) => !caller.entry.isWorker || !settled state.tables run.id
      | some (.createTask caller run) => !caller.entry.isWorker || !settled state.tables run.id
      | _ => true
  | _ => true

def DeliveredOnce (state : State) : Prop :=
  ∀ delivery, state.startedFor (.delivery delivery) ≤ 1 ∧ state.madeFor (.delivery delivery) ≤ 1

structure Once (state : State) : Prop where
  traced : Traced state
  known : Known state
  admits : ∀ process ∈ state.processes, ∀ delivery, process.admits = some delivery →
    Unreplayed state delivery
  inbound : ∀ row ∈ state.tables.deliveries, row.replayedFrom = none → Unreplayed state row.id
  started : ∀ delivery,
    state.startedFor (.delivery delivery) + state.processes.countP (replayInserts delivery) ≤ 1
  made : ∀ delivery,
    state.madeFor (.delivery delivery) + state.processes.countP (replayWorks delivery) ≤ 1

theorem unreplayed_spec (clear : unreplayed state delivery = true) : Unreplayed state delivery := by
  simp only [unreplayed, Bool.and_eq_true, List.all_eq_true, Bool.not_eq_true', Bool.or_eq_true,
    decide_eq_true_eq, List.any_eq_true] at clear
  constructor
  · rw [List.countP_eq_zero]
    intro process member inserts
    rw [clear.1 process member] at inserts
    contradiction
  · intro run member
    rcases clear.2 _ member with different | delivered
    · exact absurd rfl different
    · exact delivered

theorem Known.unstored (known : Known state) (traced : Traced state)
    (unstored : delivery = state.tables.nextDelivery) :
    Unreplayed state delivery ∧ state.startedFor (.delivery delivery) = 0 ∧
      state.processes.countP (replayWorks delivery) = 0 ∧ state.madeFor (.delivery delivery) = 0 := by
  have unstarted : ∀ run, (.delivery delivery, run) ∉ state.started := by
    intro run member
    have bound := known.started delivery run member
    rw [unstored] at bound
    exact absurd bound (Nat.lt_irrefl _)
  have uninserted : ∀ process ∈ state.processes, ∀ trigger,
      process.inserts ≠ some (.replay delivery trigger) := by
    intro process member trigger inserts
    have bound := known.inserts process member delivery trigger inserts
    rw [unstored] at bound
    exact absurd bound (Nat.lt_irrefl _)
  refine ⟨⟨?_, fun run member => absurd member (unstarted run)⟩, ?_, ?_, ?_⟩
  · rw [List.countP_eq_zero]
    intro process member inserting
    obtain ⟨trigger, inserts⟩ := replayInserts_iff.mp inserting
    exact uninserted process member trigger inserts
  · rw [State.startedFor, List.countP_eq_zero]
    rintro ⟨cause, run⟩ member same
    obtain rfl : cause = .delivery delivery := of_decide_eq_true same
    exact unstarted run member
  · rw [List.countP_eq_zero]
    intro process member working
    rcases replayWorks_iff.mp working with ⟨trigger, inserts⟩ | ⟨trigger, run, works⟩
    · exact uninserted process member trigger inserts
    · exact unstarted run (traced.works process member _ run works).started
  · rw [State.madeFor, List.countP_eq_zero]
    intro made member same
    have cause : made.cause = .delivery delivery := of_decide_eq_true same
    have started := (traced.made made member).1
    rw [cause] at started
    exact unstarted made.run started

theorem not_stores (bound : state.tables.nextDelivery > delivery)
    {outside : Outside} {process : Process} :
    ¬ StoresReplay state.tables outside process delivery := by
  rintro ⟨-, same, -⟩
  rw [same] at bound
  exact absurd bound (Nat.lt_irrefl _)

theorem Once.next_admits (once : Once state) (stepped : Stepped verifyHubSignature state action next)
    (allowed : deliveriesUndisturbed state action = true) {process : Process}
    (member : process ∈ next.processes) (admits : process.admits = some delivery) :
    Unreplayed next delivery := by
  rcases stepped.mem_processes member with old | rfl | ⟨call, rfl⟩ |
    ⟨index, outside, old, rfl, here, executed, rfl⟩
  · exact (once.admits process old delivery admits).step once.traced stepped fun _ _ _ _ _ =>
      not_stores (once.known.admits process old delivery admits)
  · simp [Process.admits] at admits
  · rw [start_admits] at admits
    contradiction
  · have listed := List.mem_of_getElem? here
    rcases Autopilots.next_admits admits with before | ⟨succeeds, inbound, row, rest, rfl, created, -, rfl⟩ |
      ⟨succeeds, row, rest, rfl, claimed, rfl⟩
    · exact (once.admits old listed delivery before).step once.traced stepped fun _ _ _ _ _ =>
        not_stores (once.known.admits old listed delivery before)
    · obtain ⟨-, rfl, -⟩ := createWebhookDelivery_spec created
      refine (once.known.unstored once.traced rfl).1.step once.traced stepped ?_
      rintro other outside process ⟨⟩ found ⟨-, -, original, autopilot, rfl, -⟩
      simp [here] at found
    · obtain ⟨found, stored, -, -, rfl, -⟩ := claimQueuedWebhookDelivery_spec claimed
      have clear : Unreplayed state found.id := by
        simp only [deliveriesUndisturbed, here, claimed, Bool.or_eq_true, decide_eq_true_eq] at allowed
        rcases allowed with inbound | clear
        · exact once.inbound found stored inbound
        · exact unreplayed_spec clear
      exact clear.step once.traced stepped fun _ _ _ _ _ =>
        not_stores (once.known.numbered.below found stored)

theorem issues_createDelivery {autopilots : Id → Autopilot} {outside : Outside} {process : Process}
    {new : NewDelivery} (issued : process.issues autopilots outside = .createDelivery new) :
    (∃ inbound, process = .createDelivery inbound) ∨
      ∃ original autopilot, process = .createReplay original autopilot ∧ new = replayOf original := by
  rw [Process.issues] at issued
  split at issued
  · simp at issued
  · cases process with
    | createTask caller run =>
        simp only [Process.statement] at issued
        split at issued <;> simp at issued
    | createReplay original autopilot =>
        exact Or.inr ⟨original, autopilot, rfl, (Statement.createDelivery.inj issued).symm⟩
    | _ => simp_all [Process.statement]

theorem Stepped.inbound_cases (stepped : Stepped verifyHubSignature state action next)
    {row : Delivery} (member : row ∈ next.tables.deliveries) (inbound : row.replayedFrom = none) :
    (∃ old ∈ state.tables.deliveries, old.Same row) ∨
      (row.id = state.tables.nextDelivery ∧ ∃ index outside inbound, action = .advance index outside ∧
        state.processes[index]? = some (.createDelivery inbound)) := by
  cases stepped with
  | advance here executed processes started made =>
      rename_i index outside process
      rcases executed.mem_deliveries.mp member with ⟨old, listed, rfl⟩ | stored
      · exact Or.inl ⟨old, listed, updates_same old⟩
      · obtain ⟨new, rest, issued, created⟩ := mem_delivers stored
        obtain ⟨-, rfl, -⟩ := createWebhookDelivery_spec created
        rcases issues_createDelivery issued with ⟨request, rfl⟩ | ⟨original, autopilot, rfl, rfl⟩
        · exact Or.inr ⟨rfl, index, outside, request, rfl, here⟩
        · contradiction
  | quiet executed processes started made silent =>
      rcases executed.mem_deliveries.mp member with ⟨old, listed, rfl⟩ | stored
      · exact Or.inl ⟨old, listed, updates_same old⟩
      · simp [Statement.delivers] at stored

theorem Once.next_inbound (once : Once state) (stepped : Stepped verifyHubSignature state action next)
    {row : Delivery} (member : row ∈ next.tables.deliveries) (inbound : row.replayedFrom = none) :
    Unreplayed next row.id := by
  rcases stepped.inbound_cases member inbound with ⟨old, listed, same⟩ | ⟨fresh, index, outside, request, rfl, here⟩
  · rw [same.id]
    exact (once.inbound old listed (same.replayedFrom.symm.trans inbound)).step once.traced stepped
      fun _ _ _ _ _ => not_stores (once.known.numbered.below old listed)
  · refine (once.known.unstored once.traced fresh).1.step once.traced stepped ?_
    rintro other outside process ⟨⟩ found ⟨-, -, original, autopilot, rfl, -⟩
    simp [here] at found

theorem Once.next_started (once : Once state) (stepped : Stepped verifyHubSignature state action next)
    (delivery : Id) :
    next.startedFor (.delivery delivery) + next.processes.countP (replayInserts delivery) ≤ 1 := by
  have before := once.started delivery
  cases stepped with
  | advance here executed processes started made =>
      rename_i index outside process
      have listed := List.mem_of_getElem? here
      have count := ListLib.countP_set (process.next state.autopilots state.tables outside)
        (replayInserts delivery) here
      rw [State.startedFor, started, processes, List.countP_append]
      rcases started_cases state.tables outside process with none | ⟨cause, new, row, starts, same⟩
      · rw [none, List.countP_nil]
        by_cases inserts : replayInserts delivery (process.next state.autopilots state.tables outside) = true
        · rcases next_replayInserts inserts with earlier | stores
          · rw [if_pos inserts, if_pos earlier] at count
            rw [State.startedFor] at before
            omega
          · obtain ⟨unreplayed, startedNone, -⟩ := once.known.unstored once.traced stores.2.1
            have idle := unreplayed.idle
            rw [if_pos inserts] at count
            rw [State.startedFor] at startedNone
            omega
        · rw [if_neg inserts] at count
          rw [State.startedFor] at before
          omega
      · have later : replayInserts delivery (process.next state.autopilots state.tables outside) = false := by
          rw [replayInserts, starts.next_inserts]
          rfl
        rw [if_neg (Bool.eq_false_iff.mp later)] at count
        rw [same, List.countP_singleton]
        by_cases sameCause : cause = .delivery delivery
        · subst sameCause
          rcases once.traced.starts_delivery listed starts with ⟨admits, delivered⟩ | inserts
          · have unreplayed := once.admits process listed delivery admits
            have idle := unreplayed.idle
            have startedNone : state.started.countP (fun entry => entry.1 = .delivery delivery) = 0 := by
              rw [List.countP_eq_zero]
              rintro ⟨cause, run⟩ member isCause
              obtain rfl : cause = .delivery delivery := of_decide_eq_true isCause
              obtain ⟨other, inTable, -, isDelivered⟩ := unreplayed.admitted run member
              have free := starts.row_eq.1
              simp only [runCollides, delivered, Run.deliveredFor, List.any_eq_false] at free
              have clash := free other inTable
              simp [isDelivered] at clash
            rw [startedNone, if_pos (decide_eq_true rfl)]
            omega
          · have inserting := replayInserts_iff.mpr inserts
            rw [if_pos inserting] at count
            rw [State.startedFor] at before
            rw [if_pos (decide_eq_true rfl)]
            omega
        · simp only [sameCause, decide_false, Bool.false_eq_true, if_false]
          rw [State.startedFor] at before
          omega
  | quiet executed processes started made silent =>
      have count : next.processes.countP (replayInserts delivery) ≤
          state.processes.countP (replayInserts delivery) :=
        Stepped.countP_le rfl start_replayInserts processes
      rw [State.startedFor, started]
      rw [State.startedFor] at before
      omega

theorem Once.same_run (once : Once state) {left right : Id}
    (leftMember : (.delivery delivery, left) ∈ state.started)
    (rightMember : (.delivery delivery, right) ∈ state.started) : left = right := by
  have atMost := once.started delivery
  rw [State.startedFor] at atMost
  have same := ListLib.eq_of_countP_le_one (Nat.le_of_add_right_le atMost) leftMember rightMember
    (by simp) (by simp)
  exact congrArg Prod.snd same

theorem Once.worker_first (once : Once state) {process : Process} (member : process ∈ state.processes)
    {claimed : Delivery} {run : Id} (works : process.works = some (.worker claimed, run))
    (unsettled : settled state.tables run = false) :
    state.madeFor (.delivery claimed.id) = 0 ∧
      state.processes.countP (replayWorks claimed.id) = 0 := by
  have worked := once.traced.works process member _ run works
  have started : (.delivery claimed.id, run) ∈ state.started := worked.started
  constructor
  · rw [State.madeFor, List.countP_eq_zero]
    intro made listed same
    have cause : made.cause = .delivery claimed.id := of_decide_eq_true same
    obtain ⟨recorded, settles⟩ := once.traced.made made listed
    rw [cause] at recorded
    rw [once.same_run recorded started, unsettled] at settles
    contradiction
  · rw [List.countP_eq_zero]
    intro other listed working
    rcases replayWorks_iff.mp working with inserts | ⟨trigger, second, second_works⟩
    · have inserting := List.countP_pos_iff.mpr ⟨other, listed, replayInserts_iff.mpr inserts⟩
      have counted : 0 < state.startedFor (.delivery claimed.id) :=
        List.countP_pos_iff.mpr ⟨_, started, by simp⟩
      have atMost := once.started claimed.id
      omega
    · have replayed := once.traced.works other listed _ second second_works
      obtain ⟨row, inTable, same, delivered⟩ := worked.delivered claimed rfl
      rw [once.same_run started replayed.started] at same
      rw [replayed.direct (by simp) row inTable same] at delivered
      contradiction

theorem unsettled_of_allowed {index : Nat} {outside : Outside} {process : Process} {made : Made}
    {claimed : Delivery} (here : state.processes[index]? = some process)
    (member : made ∈ process.made state.autopilots state.tables outside)
    (works : process.works = some (.worker claimed, made.run))
    (allowed : deliveriesUndisturbed state (.advance index outside) = true) :
    settled state.tables made.run = false := by
  obtain ⟨-, caller, run, -, sameRun, ⟨rfl, -⟩ | ⟨rfl, -⟩⟩ := mem_made member
  · have worker : caller.entry = .worker claimed := congrArg Prod.fst (Option.some.inj works)
    rw [sameRun]
    simpa [deliveriesUndisturbed, here, worker, Entry.isWorker] using allowed
  · have worker : caller.entry = .worker claimed := congrArg Prod.fst (Option.some.inj works)
    rw [sameRun]
    simpa [deliveriesUndisturbed, here, worker, Entry.isWorker] using allowed

theorem Once.next_made (once : Once state) (stepped : Stepped verifyHubSignature state action next)
    (allowed : deliveriesUndisturbed state action = true) (delivery : Id) :
    next.madeFor (.delivery delivery) + next.processes.countP (replayWorks delivery) ≤ 1 := by
  have before := once.made delivery
  rw [State.madeFor] at before
  cases stepped with
  | advance here executed processes started made =>
      rename_i index outside process
      have listed := List.mem_of_getElem? here
      have count := ListLib.countP_set (process.next state.autopilots state.tables outside)
        (replayWorks delivery) here
      rw [State.madeFor, made, processes, List.countP_append]
      rcases made_cases state.autopilots state.tables outside process with none | ⟨product, same⟩
      · rw [none, List.countP_nil]
        by_cases working : replayWorks delivery (process.next state.autopilots state.tables outside) = true
        · rcases next_replayWorks working with earlier | stores
          · rw [if_pos working, if_pos earlier] at count
            omega
          · obtain ⟨-, -, worksNone, madeNone⟩ := once.known.unstored once.traced stores.2.1
            rw [if_pos working] at count
            rw [State.madeFor] at madeNone
            omega
        · rw [if_neg working] at count
          omega
      · have member : product ∈ process.made state.autopilots state.tables outside := by simp [same]
        have later : replayWorks delivery (process.next state.autopilots state.tables outside) = false := by
          simp [replayWorks, replayInserts, next_of_made member]
        rw [later] at count
        rw [same, List.countP_singleton]
        by_cases sameCause : product.cause = .delivery delivery
        · obtain ⟨entry, works, isCause⟩ := works_of_made member
          rw [sameCause] at isCause
          cases entry with
          | worker claimed =>
              obtain rfl : delivery = claimed.id := Cause.delivery.inj isCause
              obtain ⟨madeNone, worksNone⟩ := once.worker_first listed works
                (unsettled_of_allowed here member works allowed)
              rw [State.madeFor] at madeNone
              rw [if_pos (by simp [sameCause])]
              simp at count
              omega
          | replay replayed trigger =>
              obtain rfl : delivery = replayed := Cause.delivery.inj isCause
              have working := replayWorks_iff.mpr (Or.inr ⟨trigger, _, works⟩)
              rw [if_pos working] at count
              rw [if_pos (by simp [sameCause])]
              simp at count
              omega
          | plan trigger plannedAt => contradiction
          | manual trigger => contradiction
        · rw [if_neg (by simp [sameCause])]
          simp at count
          omega
  | quiet executed processes started made silent =>
      have count : next.processes.countP (replayWorks delivery) ≤
          state.processes.countP (replayWorks delivery) :=
        Stepped.countP_le rfl start_replayWorks processes
      rw [State.madeFor, made]
      omega

theorem Once.step (once : Once state) (allowed : deliveriesUndisturbed state action = true) :
    Once (step verifyHubSignature state action) := by
  have stepped := step_stepped verifyHubSignature state action
  exact
    { traced := once.traced.step
      known := once.known.step once.traced stepped
      admits := fun _ member _ admits => once.next_admits stepped allowed member admits
      inbound := fun _ member inbound => once.next_inbound stepped member inbound
      started := once.next_started stepped
      made := once.next_made stepped allowed }

theorem once_initial (autopilots : Id → Autopilot) (secrets : Id → String) :
    Once (initial autopilots secrets) := by
  refine ⟨traced_initial autopilots secrets, ⟨⟨?_, ?_⟩, ?_, ?_, ?_⟩, ?_, ?_, ?_, ?_⟩ <;>
    simp [initial, noRows, State.startedFor, State.madeFor]

/-- While workers leave the rows of pending replays alone and do not create anything for a run
that another worker has settled, every delivery takes effect at most once. -/
theorem delivery_takes_effect_once (autopilots : Id → Autopilot) (secrets : Id → String)
    (actions : List Action)
    (undisturbed : Every (step verifyHubSignature)
      (fun state action => deliveriesUndisturbed state action = true)
      (initial autopilots secrets) actions) :
    Always (step verifyHubSignature) DeliveredOnce (initial autopilots secrets) actions := by
  have always := always_of_invariant (once_initial autopilots secrets)
    (fun _ _ once allowed => Once.step once allowed) undisturbed
  refine always.mono fun state once delivery => ?_
  have started := once.started delivery
  have made := once.made delivery
  exact ⟨by omega, by omega⟩

def racedReplay : List Action :=
  [.call (.webhook ⟨3, some "evt", "sha256=right", "body"⟩), .advance 0 {}, .call (.replay 0),
    .call .processNext, .advance 1 {}, .advance 1 {}, .advance 2 { picked := 1 }, .advance 2 {},
    .advance 2 {}, .advance 2 {}, .advance 1 {}]

theorem replay_starts_two_runs :
    ¬ Always (step signedBy) DeliveredOnce exampleStart racedReplay := by
  intro always
  have twice : (run (step signedBy) exampleStart racedReplay).startedFor (.delivery 1) = 2 := by decide
  have once := (always.last 1).1
  omega

def workedDelivery : List Action :=
  [.call (.webhook ⟨3, some "evt", "sha256=right", "body"⟩), .advance 0 {}, .advance 0 {},
    .call .processNext, .advance 1 {}, .advance 1 {}, .advance 0 {}, .advance 1 {}, .advance 1 {},
    .advance 1 {}, .advance 1 {}]

theorem worked_delivery_takes_effect_once :
    (run (step signedBy) exampleStart workedDelivery).madeFor (.delivery 0) = 1 ∧
      Always (step signedBy) DeliveredOnce exampleStart workedDelivery :=
  ⟨by decide, delivery_takes_effect_once _ _ _ (by decide)⟩

end System

end MulticaOS.Autopilots
