import MulticaOS.Autopilots.Tracing

/-!
How often a planned occurrence takes effect.  The unique index on `(trigger_id, planned_at)`
keeps its run single, but `RecoverPartialAutopilotRun` gives the slot away without looking
whether the run it was read from is still partial or its caller still at work.
-/

namespace MulticaOS.Autopilots

open RunLib

def dispatches (run : Id) (process : Process) : Bool := process.works.map Prod.snd = some run

def State.effort (state : State) (run : Id) : Nat :=
  state.processes.countP (dispatches run) + state.made.countP fun made => made.run = run

theorem dispatches_iff {run : Id} {process : Process} :
    dispatches run process = true ↔ ∃ entry, process.works = some (entry, run) := by
  simp [dispatches]

section Rows

variable {tables next : Tables} {statement : Statement} {trigger plannedAt : Nat}

theorem plannedFor_iff {row : Run} : row.plannedFor trigger plannedAt = true ↔
    row.triggerId = some trigger ∧ row.plannedAt = some plannedAt := by
  simp [Run.plannedFor]

theorem edits_plannedFor {row : Run} (planned : row.plannedFor trigger plannedAt = true) :
    (statement.edits tables row).plannedFor trigger plannedAt = true ∨ statement = .recover row.id := by
  rw [plannedFor_iff] at planned ⊢
  rcases edits_plannedAt row with kept | ⟨recovers, -⟩
  · rw [kept, (edits_same row).triggerId]
    exact Or.inl planned
  · exact Or.inr recovers

theorem plannedFor_of_edits {row : Run}
    (planned : (statement.edits tables row).plannedFor trigger plannedAt = true) :
    row.plannedFor trigger plannedAt = true := by
  rw [plannedFor_iff, (edits_same row).triggerId] at planned
  rw [plannedFor_iff]
  rcases edits_plannedAt row with kept | ⟨-, cleared⟩
  · rwa [kept] at planned
  · rw [cleared] at planned
    exact absurd planned.2 (by simp)

theorem Executed.slot (done : Executed tables statement next)
    (single : tables.runs.countP (Run.plannedFor trigger plannedAt) ≤ 1) :
    next.runs.countP (Run.plannedFor trigger plannedAt) ≤ 1 := by
  have kept : (tables.runs.map (statement.edits tables)).countP (Run.plannedFor trigger plannedAt) ≤
      tables.runs.countP (Run.plannedFor trigger plannedAt) :=
    TableLib.countP_map_le fun row _ planned => plannedFor_of_edits planned
  rw [done.runs, List.countP_append]
  cases inserted : statement.inserts tables with
  | nil =>
      rw [List.countP_nil]
      omega
  | cons row rest =>
      have length : (statement.inserts tables).length ≤ 1 := by
        cases statement with
        | createRun new =>
            simp only [Statement.inserts, Option.length_toList]
            split <;> simp
        | _ => simp [Statement.inserts]
      obtain ⟨new, after, -, created⟩ := mem_inserts (by rw [inserted]; exact List.mem_cons_self)
      obtain ⟨free, same, -⟩ := createAutopilotRun_spec created
      rw [inserted, List.length_cons] at length
      obtain rfl : rest = [] := List.length_eq_zero_iff.mp (by omega)
      rw [List.countP_singleton]
      by_cases planned : row.plannedFor trigger plannedAt = true
      · have none : tables.runs.countP (Run.plannedFor trigger plannedAt) = 0 := by
          rw [List.countP_eq_zero]
          intro other member taken
          rw [plannedFor_iff, same] at planned
          simp only [runCollides, List.any_eq_false] at free
          have clash := free other member
          simp [show new.triggerId = some trigger from planned.1,
            show new.plannedAt = some plannedAt from planned.2, taken] at clash
        rw [none] at kept
        rw [if_pos planned]
        omega
      · rw [if_neg planned]
        omega

end Rows

def HoldsSlot (tables : Tables) (trigger plannedAt run : Id) : Prop :=
  ∃ row ∈ tables.runs, row.id = run ∧ row.plannedFor trigger plannedAt = true

/-- A recovery finds its run without an issue or a task, and no caller on the way to make one. -/
def recoversAbandoned (state : State) : Action → Bool
  | .advance index outside =>
      match state.processes[index]? with
      | some (.recoverPartial _ existing) =>
          outside.fails || (!settled state.tables existing.id &&
            state.processes.all fun process => !dispatches existing.id process)
      | _ => true
  | _ => true

structure Planned (state : State) : Prop where
  traced : Traced state
  slot : ∀ trigger plannedAt, state.tables.runs.countP (Run.plannedFor trigger plannedAt) ≤ 1
  single : ∀ cause run, (cause, run) ∈ state.started → (∀ delivery, cause ≠ .delivery delivery) →
    state.effort run ≤ 1
  holds : ∀ trigger plannedAt run, (.occurrence trigger plannedAt, run) ∈ state.started →
    HoldsSlot state.tables trigger plannedAt run ∨ state.effort run = 0

section System

variable {verifyHubSignature : String → String → String → Bool} {state next : State} {action : Action}

theorem start_dispatches {run : Id} (call : Call) :
    dispatches run (Call.start verifyHubSignature state call) = false := by
  rw [dispatches, start_works]
  rfl

theorem Traced.effort_le (traced : Traced state)
    (stepped : Stepped verifyHubSignature state action next) {cause : Cause} {run : Id}
    (started : (cause, run) ∈ state.started) (other : ∀ delivery, cause ≠ .delivery delivery) :
    next.effort run ≤ state.effort run := by
  cases stepped with
  | advance here executed processes started' made =>
      rename_i index outside process
      have count := ListLib.countP_set (process.next state.autopilots state.tables outside)
        (dispatches run) here
      rw [State.effort, State.effort, processes, made, List.countP_append]
      rcases made_cases state.autopilots state.tables outside process with none | ⟨product, same⟩
      · rw [none, List.countP_nil]
        by_cases later : dispatches run (process.next state.autopilots state.tables outside) = true
        · have earlier : dispatches run process = true := by
            obtain ⟨entry, works⟩ := dispatches_iff.mp later
            have bound := traced.fresh started
            cases next_works works with
            | kept before => exact dispatches_iff.mpr ⟨entry, before⟩
            | found row =>
                have delivered := List.find?_some row
                simp only [Run.deliveredFor, decide_eq_true_eq] at delivered
                have admitted := traced.delivered _ (List.mem_of_find?_eq_some row) _ delivered
                exact absurd (traced.same_entry started admitted) (other _)
            | admitted succeeds created =>
                rw [(createAutopilotRun_spec created).2.1] at bound
                exact absurd bound (Nat.lt_irrefl _)
            | inserted succeeds created =>
                rw [(createAutopilotRun_spec created).2.1] at bound
                exact absurd bound (Nat.lt_irrefl _)
          rw [if_pos later, if_pos earlier] at count
          omega
        · rw [if_neg later] at count
          omega
      · have member : product ∈ process.made state.autopilots state.tables outside := by simp [same]
        have later : dispatches run (process.next state.autopilots state.tables outside) = false := by
          simp [dispatches, next_of_made member]
        rw [later] at count
        rw [same, List.countP_singleton]
        by_cases sameRun : product.run = run
        · obtain ⟨entry, works, -⟩ := works_of_made member
          rw [if_pos (dispatches_iff.mpr ⟨entry, sameRun ▸ works⟩)] at count
          rw [if_pos (by simp [sameRun])]
          simp at count
          omega
        · rw [if_neg (by simp [sameRun])]
          simp at count
          omega
  | quiet executed processes started' made silent =>
      have count : next.processes.countP (dispatches run) ≤ state.processes.countP (dispatches run) :=
        Stepped.countP_le rfl start_dispatches processes
      rw [State.effort, State.effort, made]
      omega

theorem Traced.no_effort (traced : Traced state) : state.effort state.tables.nextRun = 0 := by
  have unstarted : ∀ cause, (cause, state.tables.nextRun) ∉ state.started :=
    fun cause member => absurd (traced.fresh member) (Nat.lt_irrefl _)
  have idle : state.processes.countP (dispatches state.tables.nextRun) = 0 := by
    rw [List.countP_eq_zero]
    intro process member working
    obtain ⟨entry, works⟩ := dispatches_iff.mp working
    exact unstarted _ (traced.works process member entry _ works).started
  have unmade : (state.made.countP fun made => made.run = state.tables.nextRun) = 0 := by
    rw [List.countP_eq_zero]
    intro made member same
    have started := (traced.made made member).1
    rw [of_decide_eq_true same] at started
    exact unstarted _ started
  rw [State.effort, idle, unmade]

theorem Starts.made {process : Process} {outside : Outside} {tables : Tables} {cause : Cause}
    {new : NewRun} {row : Run} (starts : Starts tables outside process cause new row)
    (autopilots : Id → Autopilot) : process.made autopilots tables outside = [] := by
  have opens := starts.opens
  cases process with
  | admitInsert admitter => rfl
  | insertRun caller => rfl
  | _ => simp [Process.opens] at opens

theorem Traced.effort_started (traced : Traced state)
    (stepped : Stepped verifyHubSignature state action next) {index : Nat} {outside : Outside}
    {process : Process} {cause : Cause} {new : NewRun} {row : Run}
    (advances : action = .advance index outside) (here : state.processes[index]? = some process)
    (starts : Starts state.tables outside process cause new row) : next.effort row.id ≤ 1 := by
  subst advances
  cases stepped with
  | advance found executed processes started made =>
      obtain rfl := Option.some.inj (here.symm.trans found)
      have none := traced.no_effort
      have count := ListLib.countP_set (process.next state.autopilots state.tables outside)
        (dispatches row.id) here
      have same : row.id = state.tables.nextRun := by rw [starts.row_eq.2]; rfl
      rw [State.effort, ← same] at none
      rw [State.effort, processes, made, starts.made, List.append_nil]
      split at count <;> split at count <;> omega
  | quiet executed processes started made silent =>
      rw [silent index outside rfl] at here
      contradiction

theorem issues_recover {autopilots : Id → Autopilot} {outside : Outside} {process : Process}
    {run : Id} (issued : process.issues autopilots outside = .recover run) :
    outside.fails = false ∧ ∃ caller existing, process = .recoverPartial caller existing ∧
      existing.id = run := by
  rw [Process.issues] at issued
  split at issued
  · simp at issued
  · rename_i succeeds
    refine ⟨by simpa using succeeds, ?_⟩
    cases process with
    | recoverPartial caller existing =>
        exact ⟨caller, existing, rfl, Statement.recover.inj issued⟩
    | createTask caller run =>
        simp only [Process.statement] at issued
        split at issued <;> simp at issued
    | _ => simp_all [Process.statement]

theorem Traced.no_effort_of_allowed (traced : Traced state) {index : Nat} {outside : Outside}
    {caller : Caller} {existing : Run} (here : state.processes[index]? = some (.recoverPartial caller existing))
    (succeeds : outside.fails = false)
    (allowed : recoversAbandoned state (.advance index outside) = true) :
    state.effort existing.id = 0 := by
  simp only [recoversAbandoned, here, succeeds, Bool.false_or, Bool.and_eq_true, Bool.not_eq_true',
    List.all_eq_true] at allowed
  have idle : state.processes.countP (dispatches existing.id) = 0 := by
    rw [List.countP_eq_zero]
    intro process member working
    rw [allowed.2 process member] at working
    contradiction
  have unmade : (state.made.countP fun made => made.run = existing.id) = 0 := by
    rw [List.countP_eq_zero]
    intro made member same
    have settles := (traced.made made member).2
    rw [of_decide_eq_true same, allowed.1] at settles
    contradiction
  rw [State.effort, idle, unmade]

theorem Planned.next_holds (planned : Planned state)
    (stepped : Stepped verifyHubSignature state action next)
    (allowed : recoversAbandoned state action = true) {trigger plannedAt run : Id}
    (started : (.occurrence trigger plannedAt, run) ∈ state.started) :
    HoldsSlot next.tables trigger plannedAt run ∨ next.effort run = 0 := by
  have effort := planned.traced.effort_le stepped started (by simp)
  rcases planned.holds trigger plannedAt run started with ⟨row, member, rfl, slot⟩ | none
  · cases stepped with
    | advance here executed processes started made =>
        rcases edits_plannedFor slot with kept | recovers
        · exact Or.inl ⟨_, executed.keeps_run member, (edits_same row).id, kept⟩
        · obtain ⟨succeeds, caller, existing, rfl, same⟩ := issues_recover recovers
          have none := planned.traced.no_effort_of_allowed here succeeds allowed
          rw [same] at none
          exact Or.inr (by omega)
    | quiet executed processes started made silent =>
        exact Or.inl ⟨_, executed.keeps_run member, (edits_same row).id, slot⟩
  · exact Or.inr (by omega)

theorem Starts.holdsSlot {process : Process} {outside : Outside} {tables : Tables}
    {trigger plannedAt : Id} {new : NewRun} {row : Run}
    (starts : Starts tables outside process (.occurrence trigger plannedAt) new row) :
    row.plannedFor trigger plannedAt = true := by
  have opens := starts.opens
  rw [starts.row_eq.2]
  cases process with
  | admitInsert admitter => simp [Process.opens] at opens
  | insertRun caller =>
      simp only [Process.opens, Option.some.injEq, Prod.mk.injEq] at opens
      obtain ⟨same, rfl⟩ := opens
      cases entry : caller.entry with
      | plan planTrigger planTime =>
          rw [entry] at same
          obtain ⟨rfl, rfl⟩ := Cause.occurrence.inj same
          simp [plannedFor_iff, NewRun.row, Caller.newRun, entry, Entry.trigger, Entry.plannedAt]
      | worker delivery => rw [entry] at same; contradiction
      | replay delivery other => rw [entry] at same; contradiction
      | manual other => rw [entry] at same; contradiction
  | _ => simp [Process.opens] at opens

theorem Planned.step (planned : Planned state) (allowed : recoversAbandoned state action = true) :
    Planned (step verifyHubSignature state action) := by
  have stepped := step_stepped verifyHubSignature state action
  obtain ⟨statement, executed⟩ := stepped.executed
  refine ⟨planned.traced.step, fun trigger plannedAt => executed.slot (planned.slot trigger plannedAt),
    ?_, ?_⟩
  · intro cause run member other
    rcases stepped.mem_started member with old | ⟨index, outside, process, new, row, advances, here, starts, rfl, -⟩
    · exact Nat.le_trans (planned.traced.effort_le stepped old other) (planned.single cause run old other)
    · exact planned.traced.effort_started stepped advances here starts
  · intro trigger plannedAt run member
    rcases stepped.mem_started member with old | ⟨index, outside, process, new, row, -, -, starts, rfl, listed⟩
    · exact planned.next_holds stepped allowed old
    · exact Or.inl ⟨row, listed, rfl, starts.holdsSlot⟩

theorem planned_initial (autopilots : Id → Autopilot) (secrets : Id → String) :
    Planned (initial autopilots secrets) := by
  refine ⟨traced_initial autopilots secrets, ?_, ?_, ?_⟩ <;> simp [initial, noRows]

def OccurredOnce (state : State) : Prop :=
  ∀ trigger plannedAt, state.tables.runs.countP (Run.plannedFor trigger plannedAt) ≤ 1 ∧
    state.madeFor (.occurrence trigger plannedAt) ≤ 1

theorem Planned.occurredOnce (planned : Planned state) : OccurredOnce state := by
  intro trigger plannedAt
  refine ⟨planned.slot trigger plannedAt, ?_⟩
  have slotted : ∀ made ∈ state.made, made.cause = .occurrence trigger plannedAt →
      (.occurrence trigger plannedAt, made.run) ∈ state.started ∧
        HoldsSlot state.tables trigger plannedAt made.run := by
    intro made member cause
    have started := (planned.traced.made made member).1
    rw [cause] at started
    refine ⟨started, ?_⟩
    rcases planned.holds trigger plannedAt made.run started with slot | none
    · exact slot
    · have counted : 0 < state.made.countP fun other => other.run = made.run :=
        List.countP_pos_iff.mpr ⟨made, member, by simp⟩
      rw [State.effort] at none
      omega
  cases empty : state.madeFor (.occurrence trigger plannedAt) with
  | zero => omega
  | succ count =>
      have positive : 0 < state.madeFor (.occurrence trigger plannedAt) := by omega
      obtain ⟨made, member, cause⟩ := List.countP_pos_iff.mp positive
      obtain ⟨started, row, inTable, rowRun, rowSlot⟩ := slotted made member (of_decide_eq_true cause)
      have sameRun : ∀ other ∈ state.made, decide (other.cause = .occurrence trigger plannedAt) = true →
          decide (other.run = made.run) = true := by
        intro other listed otherCause
        obtain ⟨-, otherRow, otherIn, otherRun, otherSlot⟩ :=
          slotted other listed (of_decide_eq_true otherCause)
        have same := ListLib.eq_of_countP_le_one (planned.slot trigger plannedAt) inTable otherIn
          rowSlot otherSlot
        rw [decide_eq_true_eq, ← otherRun, ← rowRun, same]
      have below := List.countP_mono_left sameRun
      have single := planned.single _ made.run started (by simp)
      rw [State.effort] at single
      rw [State.madeFor] at empty
      omega

/-- A call that finds its occurrence dispatched, or loses the race for its run, returns without
changing a row. -/
def FoundUnchanged (verifyHubSignature : String → String → String → Bool) (state : State) :
    Action → Prop
  | .advance index outside =>
      ∀ trigger plannedAt autopilot,
        (∀ existing,
          state.processes[index]? = some (.lookupPlanned trigger plannedAt autopilot) →
          getAutopilotRunByTriggerAndPlanned state.tables trigger plannedAt = some existing →
          isAutopilotRunComplete existing = true →
          (step verifyHubSignature state (.advance index outside)).tables = state.tables ∧
            (step verifyHubSignature state (.advance index outside)).processes[index]? = some .returned) ∧
        (state.processes[index]? = some (.insertRun ⟨.plan trigger plannedAt, autopilot⟩) →
          (getAutopilotRunByTriggerAndPlanned state.tables trigger plannedAt).isSome = true →
          (step verifyHubSignature state (.advance index outside)).tables = state.tables ∧
            (step verifyHubSignature state (.advance index outside)).processes[index]? = some .returned)
  | _ => True

theorem step_processes {index : Nat} {outside : Outside} {process : Process}
    (here : state.processes[index]? = some process) :
    (step verifyHubSignature state (.advance index outside)).processes =
      state.processes.set index (process.next state.autopilots state.tables outside) := by
  simp only [step, here]

theorem found_unchanged (state : State) (action : Action) :
    FoundUnchanged verifyHubSignature state action := by
  cases action with
  | advance index outside =>
      intro trigger plannedAt autopilot
      constructor
      · intro existing here found complete
        have bound := (List.getElem?_eq_some_iff.mp here).1
        constructor
        · simp [step, here, Process.statement, execute]
        · rw [step_processes here, List.getElem?_set_self bound]
          simp [Process.next, found, complete]
      · intro here found
        have bound := (List.getElem?_eq_some_iff.mp here).1
        obtain ⟨existing, found⟩ := Option.isSome_iff_exists.mp found
        have taken : createAutopilotRun state.tables
            (Caller.newRun ⟨.plan trigger plannedAt, autopilot⟩ outside.skip) = none := by
          rw [createAutopilotRun, if_pos]
          simp only [runCollides, Caller.newRun, Entry.plannedAt, Entry.trigger, Bool.or_false]
          exact List.any_eq_true.mpr ⟨existing, List.mem_of_find?_eq_some found, List.find?_some found⟩
        constructor
        · simp [step, here, Process.statement, execute, taken]
        · rw [step_processes here, List.getElem?_set_self bound]
          simp [Process.next, taken, returnNoRun]
  | _ => trivial

/-- While recoveries meet only runs that nobody is at work on and nothing was made for, every
planned occurrence takes effect at most once. -/
theorem occurrence_takes_effect_once (autopilots : Id → Autopilot) (secrets : Id → String)
    (actions : List Action)
    (recoveries : Every (step verifyHubSignature)
      (fun state action => recoversAbandoned state action = true)
      (initial autopilots secrets) actions) :
    Always (step verifyHubSignature) OccurredOnce (initial autopilots secrets) actions ∧
      Every (step verifyHubSignature) (FoundUnchanged verifyHubSignature)
        (initial autopilots secrets) actions := by
  have always := always_of_invariant (planned_initial autopilots secrets)
    (fun _ _ planned allowed => Planned.step planned allowed) recoveries
  refine ⟨always.mono fun _ planned => planned.occurredOnce, ?_⟩
  exact every_of_preserved (traced_initial autopilots secrets) (fun _ _ traced => traced.step)
    (fun state action _ => found_unchanged state action) actions

def supersededCall : List Action :=
  [.call (.plan 3 100), .advance 0 {}, .advance 0 {}, .call (.plan 3 100), .advance 1 {},
    .advance 1 {}, .advance 1 {}, .advance 1 {}, .advance 0 {}]

theorem superseded_call_makes_two_tasks :
    ¬ Always (step signedBy) OccurredOnce exampleStart supersededCall := by
  intro always
  have twice : (run (step signedBy) exampleStart supersededCall).madeFor (.occurrence 3 100) = 2 := by
    decide
  have once := (always.last 3 100).2
  omega

def crashedCall : List Action :=
  [.call (.plan 3 100), .advance 0 {}, .advance 0 {}, .crash 0, .call (.plan 3 100), .advance 1 {},
    .advance 1 {}, .advance 1 {}, .advance 1 {}, .advance 1 {}, .call (.plan 3 100), .advance 2 {}]

theorem crashed_call_takes_effect_once :
    (run (step signedBy) exampleStart crashedCall).madeFor (.occurrence 3 100) = 1 ∧
      Always (step signedBy) OccurredOnce exampleStart crashedCall :=
  ⟨by decide, (occurrence_takes_effect_once _ _ _ (by decide)).1⟩

end System

end MulticaOS.Autopilots
