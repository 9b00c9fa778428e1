import MulticaOS.Lib.Endless
import MulticaOS.Snapshots.Steps

/-!
What was enqueued is fetched.  While an address is owed its holder goes from phase to phase
towards the fetch, and every phase is nearer to it than the one before, save when a worker
finds the installation limited.
-/

namespace MulticaOS.Snapshots

open EndlessLib

def Phase.rank (capacity : Nat) : Phase → Nat
  | .fetching _ => capacity + 6
  | .ended _ => capacity + 5
  | .deferred _ _ => capacity + 5
  | .sending _ _ => capacity + 4
  | .took _ => 3
  | .cleared _ => 2
  | .jittering _ => 1
  | _ => 0

def Standing (manager : Manager) (address : Address) (rank : Nat) : Prop :=
  (∃ (index : Nat) (phase : Phase), manager.goroutines[index]? = some phase ∧
    phase.held = some address ∧ phase.rank manager.capacity = rank) ∨
  ∃ front back, manager.queue = front ++ address :: back ∧ front.length + 4 = rank

/-- The latest word on the address is no longer that it was enqueued, or the pipeline shuts down. -/
def Settled (manager : Manager) (address : Address) : Prop :=
  manager.cancelled = true ∨ pending address manager.history = false

section Ranks

variable {manager next : Manager} {index : Nat} {phase later : Phase} {address : Address}

theorem Sound.standing (sound : Sound manager) (active : manager.active address = true) :
    ∃ rank, Standing manager address rank := by
  have single := (sound.fits address).single
  rw [active, Bool.toNat_true] at single
  by_cases queued : address ∈ manager.queue
  · obtain ⟨front, back, stored⟩ := List.append_of_mem queued
    exact ⟨_, Or.inr ⟨front, back, stored, rfl⟩⟩
  · rw [List.count_eq_zero_of_not_mem queued, Nat.zero_add] at single
    have positive : 0 < count Phase.held manager address := by omega
    obtain ⟨phase, member, held⟩ := List.countP_pos_iff.mp positive
    obtain ⟨index, here⟩ := List.mem_iff_getElem?.mp member
    exact ⟨_, Or.inl ⟨index, phase, here, by simpa using held, rfl⟩⟩

theorem takes_rank {front back : List Address} (stored : manager.queue = front ++ address :: back)
    (takes : Takes manager next) : ∃ lower, lower < front.length + 4 ∧ Standing next address lower := by
  obtain ⟨index, head, others, same, here, rfl⟩ := takes
  rw [stored] at same
  cases front with
  | nil =>
      obtain ⟨rfl, -⟩ := List.cons_eq_cons.mp same
      have bound := (List.getElem?_eq_some_iff.mp here).1
      exact ⟨3, by simp, Or.inl ⟨index, .took address, List.getElem?_set_self bound, rfl, rfl⟩⟩
  | cons first front =>
      obtain ⟨-, rfl⟩ := List.cons_eq_cons.mp same
      exact ⟨front.length + 4, by simp, Or.inr ⟨front, back, rfl, rfl⟩⟩

theorem leads_rank (sound : Sound manager) (here : manager.goroutines[index]? = some phase)
    (holds : phase.held = some address) (unsettled : ¬Settled manager address)
    (capacity : next.capacity = manager.capacity) (there : next.goroutines[index]? = some later)
    (eased : phase = .took address → later ≠ .idle) (leads : Leads manager next phase later) :
    Settled next address ∨ ∃ lower, lower < phase.rank manager.capacity ∧ Standing next address lower := by
  have running : manager.cancelled ≠ true := fun stops => unsettled (Or.inl stops)
  have waits : pending address manager.history = true := by
    by_contra silent
    exact unsettled (Or.inr (by simpa using silent))
  have nearer : later.held = some address → later.rank next.capacity < phase.rank manager.capacity →
      ∃ lower, lower < phase.rank manager.capacity ∧ Standing next address lower :=
    fun holds lower => ⟨_, lower, Or.inl ⟨index, later, there, holds, rfl⟩⟩
  rw [capacity] at nearer
  cases leads with
  | take stored left => contradiction
  | stop stops => contradiction
  | clear => exact Or.inr (nearer holds (by simp [Phase.rank]))
  | hold limited =>
      obtain rfl := Option.some.inj holds
      exact absurd rfl (eased rfl)
  | mark => exact Or.inr (nearer holds (by simp [Phase.rank]))
  | fetch said =>
      obtain rfl := Option.some.inj holds
      exact Or.inl (Or.inr (by rw [said]; exact if_pos rfl))
  | wake stops => exact absurd stops running
  | respond => exact Or.inr (nearer holds (by simp [Phase.rank]))
  | again edge => exact Or.inr (nearer holds (by simp [Phase.rank]))
  | finish edge =>
      obtain rfl := Option.some.inj holds
      rcases (sound.fits _).owed waits with stops | ⟨-, set | landed⟩
      · exact absurd stops running
      · rw [edge] at set
        contradiction
      · have began := count_pos Phase.spent here rfl
        omega
  | send room stored =>
      obtain rfl := Option.some.inj holds
      refine Or.inr ⟨manager.queue.length + 4, by simpa [Phase.rank] using room, Or.inr ?_⟩
      exact ⟨manager.queue, [], stored, rfl⟩
  | full => exact Or.inr (nearer holds (by simp [Phase.rank]))
  | @release _ worker full said =>
      obtain rfl := Option.some.inj holds
      cases full with
      | true => exact Or.inl (Or.inr (by rw [said rfl]; exact if_pos rfl))
      | false => exact absurd (sound.silent worker _ (List.mem_of_getElem? here)) running
  | fire => exact Or.inr (nearer holds (by simp [Phase.rank]))
  | abandon stops => exact absurd stops running
  | retry => contradiction

def Phase.work : Phase → Option Nat
  | .idle => some 0
  | .releasing true _ _ => some 1
  | .sending true _ => some 2
  | .ended _ => some 3
  | .fetching _ => some 4
  | .jittering _ => some 5
  | .cleared _ => some 6
  | .took _ => some 7
  | _ => none

theorem leads_work {rank : Nat} (running : manager.cancelled ≠ true) (works : phase.work = some rank)
    (leads : Leads manager next phase later) :
    (∃ head others, manager.queue = head :: others ∧ next.queue = others ∧ later.work = some 7) ∨
      ∃ lower, lower < rank ∧ later.work = some lower := by
  have nearer : ∀ {higher lower : Nat}, some higher = some rank → lower < higher →
      later.work = some lower → ∃ lower, lower < rank ∧ later.work = some lower := by
    rintro higher lower same below still
    obtain rfl := Option.some.inj same
    exact ⟨lower, below, still⟩
  cases leads with
  | @take address others stored left => exact Or.inl ⟨address, others, stored, left, rfl⟩
  | stop stops => exact absurd stops running
  | clear => exact Or.inr (nearer works (by decide) rfl)
  | hold limited => exact Or.inr (nearer works (by decide) rfl)
  | mark => exact Or.inr (nearer works (by decide) rfl)
  | fetch said => exact Or.inr (nearer works (by decide) rfl)
  | wake stops => exact absurd stops running
  | respond => exact Or.inr (nearer works (by decide) rfl)
  | again edge => exact Or.inr (nearer works (by decide) rfl)
  | finish edge => exact Or.inr (nearer works (by decide) rfl)
  | @send _ worker room stored =>
      cases worker with
      | true => exact Or.inr (nearer works (by decide) rfl)
      | false => contradiction
  | @full _ worker =>
      cases worker with
      | true => exact Or.inr (nearer works (by decide) rfl)
      | false => contradiction
  | @release _ worker full said =>
      cases worker with
      | true => exact Or.inr (nearer works (by decide) rfl)
      | false => contradiction
  | fire => contradiction
  | abandon stops => contradiction
  | retry => contradiction

end Ranks

def ready (manager : Manager) : Phase → Bool
  | .idle => !manager.queue.isEmpty
  | .deferred due _ => due ≤ manager.now
  | .retrying due _ => due ≤ manager.now
  | .returned => false
  | _ => true

section Endless

variable (capacity concurrency : Nat) (actions : Nat → Action)

def managers (time : Nat) : Manager := states step (start capacity concurrency) actions time

/-- What the pipeline relies on: no goroutine that can take a step is passed over for ever, time
goes on, and no address is turned away for ever because its installation is limited. -/
structure Fair : Prop where
  scheduled : ∀ (index : Nat) (phase : Phase) (time : Nat), ∃ later, time ≤ later ∧
    ¬((managers capacity concurrency actions later).goroutines[index]? = some phase ∧
      ready (managers capacity concurrency actions later) phase = true)
  clock : ∀ seconds, ∃ time, seconds ≤ (managers capacity concurrency actions time).now
  eased : ∀ address, ∃ time, ∀ later index : Nat, time ≤ later →
    (managers capacity concurrency actions later).goroutines[index]? = some (.took address) →
    (managers capacity concurrency actions (later + 1)).goroutines[index]? ≠ some .idle

variable {capacity concurrency actions}

theorem managers_sound (time : Nat) : Sound (managers capacity concurrency actions time) :=
  states_invariant (start_sound capacity concurrency) (fun _ action sound => step_sound action sound) time

theorem managers_capacity (time : Nat) : (managers capacity concurrency actions time).capacity = capacity := by
  induction time with
  | zero => rfl
  | succ time ih => exact (step_effect _ (actions time)).frame.capacity.trans ih

theorem managers_now {time later : Nat} (order : time ≤ later) :
    (managers capacity concurrency actions time).now ≤ (managers capacity concurrency actions later).now := by
  induction order with
  | refl => exact Nat.le_refl _
  | @step last _ ih => exact Nat.le_trans ih (step_effect _ (actions last)).frame.now

theorem managers_work (positive : 0 < concurrency) (time : Nat) :
    (managers capacity concurrency actions time).cancelled = true ∨
      ∃ phase rank, (managers capacity concurrency actions time).goroutines[0]? = some phase ∧
        phase.work = some rank := by
  induction time with
  | zero =>
      refine Or.inr ⟨.idle, 0, ?_, rfl⟩
      show (List.replicate concurrency Phase.idle)[0]? = some .idle
      rw [List.getElem?_replicate, if_pos positive]
  | succ time ih =>
      rcases ih with stops | ⟨phase, rank, here, works⟩
      · exact Or.inl ((step_effect _ (actions time)).frame.cancelled stops)
      · by_cases stops : (managers capacity concurrency actions time).cancelled = true
        · exact Or.inl ((step_effect _ (actions time)).frame.cancelled stops)
        · right
          rcases step_leads (actions time) here with same | ⟨later, there, leads⟩
          · exact ⟨phase, rank, same, works⟩
          · rcases leads_work stops works leads with ⟨-, -, -, -, works⟩ | ⟨lower, -, works⟩
            · exact ⟨later, 7, there, works⟩
            · exact ⟨later, lower, there, works⟩

theorem Fair.moves (fair : Fair capacity concurrency actions) {kept : Nat → Prop} {index time since : Nat}
    {phase : Phase} (here : (managers capacity concurrency actions time).goroutines[index]? = some phase)
    (keeps : kept time)
    (able : ∀ later, since ≤ later → kept later →
      ready (managers capacity concurrency actions later) phase = true) :
    ∃ last, time ≤ last ∧ (managers capacity concurrency actions last).goroutines[index]? = some phase ∧
      kept last ∧
      ¬((managers capacity concurrency actions (last + 1)).goroutines[index]? = some phase ∧
        kept (last + 1)) := by
  obtain ⟨later, after, stuck⟩ := fair.scheduled index phase (max time since)
  have ends : ¬((managers capacity concurrency actions later).goroutines[index]? = some phase ∧
      kept later) :=
    fun both => stuck ⟨both.1, able later (by omega) both.2⟩
  obtain ⟨last, order, through, left⟩ := @leaves (fun time =>
    (managers capacity concurrency actions time).goroutines[index]? = some phase ∧ kept time)
    time later (by omega) ⟨here, keeps⟩ ends
  obtain ⟨there, keeps⟩ := through last order (Nat.le_refl last)
  exact ⟨last, order, there, keeps, left⟩

def Working (manager : Manager) (rank : Nat) : Prop :=
  manager.queue ≠ [] ∧
    ∃ phase : Phase, manager.goroutines[0]? = some phase ∧ phase.work = some rank

theorem working_falls (fair : Fair capacity concurrency actions) {time rank : Nat}
    (works : Working (managers capacity concurrency actions time) rank) :
    ∃ later, time ≤ later ∧ (((managers capacity concurrency actions later).cancelled = true ∨
      Takes (managers capacity concurrency actions later)
        (managers capacity concurrency actions (later + 1))) ∨
      ∃ lower, lower < rank ∧ Working (managers capacity concurrency actions later) lower) := by
  obtain ⟨stored, phase, here, works⟩ := works
  have able : ∀ later, 0 ≤ later → (managers capacity concurrency actions later).queue ≠ [] →
      ready (managers capacity concurrency actions later) phase = true := by
    intro later _ stored
    cases phase with
    | idle => simpa [ready] using stored
    | deferred due address => contradiction
    | retrying due address => contradiction
    | returned => contradiction
    | _ => rfl
  obtain ⟨last, order, here, stored, left⟩ := fair.moves here stored able
  rcases (step_effect (managers capacity concurrency actions last) (actions last)).queue with ⟨extra, grown⟩ | takes
  · have grown : (managers capacity concurrency actions (last + 1)).queue =
        (managers capacity concurrency actions last).queue ++ extra := grown
    have storedNext : (managers capacity concurrency actions (last + 1)).queue ≠ [] := by
      rw [grown]
      exact List.append_ne_nil_of_left_ne_nil stored extra
    by_cases stops : (managers capacity concurrency actions last).cancelled = true
    · exact ⟨last, order, Or.inl (Or.inl stops)⟩
    · rcases step_leads (actions last) here with same | ⟨later, there, leads⟩
      · exact absurd ⟨same, storedNext⟩ left
      · rcases leads_work stops works leads with ⟨head, others, same, taken, -⟩ | ⟨lower, below, works⟩
        · have taken : (managers capacity concurrency actions (last + 1)).queue = others := taken
          rw [grown, same] at taken
          have lengths := congrArg List.length taken
          simp only [List.length_append, List.length_cons] at lengths
          omega
        · exact ⟨last + 1, by omega, Or.inr ⟨lower, below, storedNext, later, there, works⟩⟩
  · exact ⟨last, order, Or.inl (Or.inr takes)⟩

theorem received (positive : 0 < concurrency) (fair : Fair capacity concurrency actions) {time : Nat}
    (stored : (managers capacity concurrency actions time).queue ≠ []) :
    ∃ later, time ≤ later ∧ ((managers capacity concurrency actions later).cancelled = true ∨
      Takes (managers capacity concurrency actions later)
        (managers capacity concurrency actions (later + 1))) := by
  rcases managers_work positive time with stops | ⟨phase, rank, here, works⟩
  · exact ⟨time, Nat.le_refl time, Or.inl stops⟩
  · have works : Working (managers capacity concurrency actions time) rank := ⟨stored, phase, here, works⟩
    exact eventually_of_falls (fun _ _ works => working_falls fair works) works

theorem held_falls (fair : Fair capacity concurrency actions) {time rank index : Nat} {phase : Phase}
    {address : Address} (eased : ∀ later index : Nat, time ≤ later →
      (managers capacity concurrency actions later).goroutines[index]? = some (.took address) →
      (managers capacity concurrency actions (later + 1)).goroutines[index]? ≠ some .idle)
    (here : (managers capacity concurrency actions time).goroutines[index]? = some phase)
    (holds : phase.held = some address) (same : phase.rank capacity = rank) :
    ∃ later, time ≤ later ∧ (Settled (managers capacity concurrency actions later) address ∨
      ∃ lower, lower < rank ∧ Standing (managers capacity concurrency actions later) address lower) := by
  obtain ⟨since, able⟩ : ∃ since, ∀ later, since ≤ later → True →
      ready (managers capacity concurrency actions later) phase = true := by
    cases phase with
    | deferred due address =>
        obtain ⟨since, due⟩ := fair.clock due
        exact ⟨since, fun later after _ => decide_eq_true (Nat.le_trans due (managers_now after))⟩
    | idle => contradiction
    | retrying due address => contradiction
    | returned => contradiction
    | _ => exact ⟨0, fun _ _ _ => rfl⟩
  obtain ⟨last, order, here, -, left⟩ := fair.moves here trivial able
  by_cases settled : Settled (managers capacity concurrency actions last) address
  · exact ⟨last, order, Or.inl settled⟩
  · rcases step_leads (actions last) here with unmoved | ⟨later, there, leads⟩
    · exact absurd ⟨unmoved, trivial⟩ left
    · refine ⟨last + 1, by omega, ?_⟩
      have ranked := leads_rank (managers_sound last) here holds settled
        ((managers_capacity (last + 1)).trans (managers_capacity last).symm) there
        (fun took turned => eased last index order (by rw [here, took]) (by rw [← turned]; exact there)) leads
      rw [managers_capacity, same] at ranked
      exact ranked

theorem queued_falls (positive : 0 < concurrency) (fair : Fair capacity concurrency actions)
    {time : Nat} {address : Address} {front back : List Address}
    (stored : (managers capacity concurrency actions time).queue = front ++ address :: back) :
    ∃ later, time ≤ later ∧ (Settled (managers capacity concurrency actions later) address ∨
      ∃ lower, lower < front.length + 4 ∧
        Standing (managers capacity concurrency actions later) address lower) := by
  obtain ⟨last, order, stops | takes⟩ := received positive fair (by rw [stored]; simp : _ ≠ [])
  · exact ⟨last, order, Or.inl (Or.inl stops)⟩
  · by_contra none
    have through : ∀ later, time ≤ later →
        ∃ back, (managers capacity concurrency actions later).queue = front ++ address :: back := by
      intro later after
      induction after with
      | refl => exact ⟨back, stored⟩
      | @step later after ih =>
          obtain ⟨back, stored⟩ := ih
          rcases (step_effect (managers capacity concurrency actions later) (actions later)).queue with
            ⟨extra, grown⟩ | takes
          · exact ⟨back ++ extra, grown.trans (by rw [stored]; simp)⟩
          · exact absurd ⟨later + 1, Nat.le_succ_of_le after, Or.inr (takes_rank stored takes)⟩ none
    obtain ⟨back, stored⟩ := through last order
    exact none ⟨last + 1, by omega, Or.inr (takes_rank stored takes)⟩

theorem eventually_settled (positive : 0 < concurrency) (fair : Fair capacity concurrency actions)
    (address : Address) (time : Nat) :
    ∃ later, time ≤ later ∧ Settled (managers capacity concurrency actions later) address := by
  obtain ⟨calm, eased⟩ := fair.eased address
  by_cases settled : Settled (managers capacity concurrency actions (max time calm)) address
  · exact ⟨max time calm, by omega, settled⟩
  · have waits : pending address (managers capacity concurrency actions (max time calm)).history = true := by
      by_contra silent
      exact settled (Or.inr (by simpa using silent))
    rcases ((managers_sound (max time calm)).fits address).owed waits with stops | ⟨active, -⟩
    · exact absurd (Or.inl stops) settled
    · obtain ⟨rank, stands⟩ := (managers_sound (max time calm)).standing active
      have falls : ∀ time rank, (calm ≤ time ∧ Standing (managers capacity concurrency actions time) address rank) →
          ∃ later, time ≤ later ∧ (Settled (managers capacity concurrency actions later) address ∨
            ∃ lower, lower < rank ∧ calm ≤ later ∧
              Standing (managers capacity concurrency actions later) address lower) := by
        rintro time rank ⟨after, ⟨index, phase, here, holds, same⟩ | ⟨front, back, stored, rfl⟩⟩
        · rw [managers_capacity] at same
          obtain ⟨later, order, settled | ⟨lower, below, stands⟩⟩ := held_falls fair
            (fun later index still => eased later index (Nat.le_trans after still)) here holds same
          · exact ⟨later, order, Or.inl settled⟩
          · exact ⟨later, order, Or.inr ⟨lower, below, by omega, stands⟩⟩
        · obtain ⟨later, order, settled | ⟨lower, below, stands⟩⟩ := queued_falls positive fair stored
          · exact ⟨later, order, Or.inl settled⟩
          · exact ⟨later, order, Or.inr ⟨lower, below, by omega, stands⟩⟩
      obtain ⟨later, order, settled⟩ := eventually_of_falls falls ⟨by omega, stands⟩
      exact ⟨later, by omega, settled⟩

/-- Every call of `Enqueue` for the address is followed by a fetch that starts after it, or by a
report that the queue was full. -/
def Followed (address : Address) (history : List Event) : Prop :=
  ∀ later earlier, history = later ++ .enqueued address :: earlier →
    .fetched address ∈ later ∨ .dropped address ∈ later

theorem followed_of_pending {address : Address} {history : List Event}
    (silent : pending address history = false) : Followed address history := by
  intro later earlier same
  induction later generalizing history with
  | nil =>
      subst same
      rw [List.nil_append, pending, if_pos rfl] at silent
      contradiction
  | cons event later ih =>
      subst same
      have tail : (pending address (later ++ .enqueued address :: earlier) = false) →
          .fetched address ∈ event :: later ∨ .dropped address ∈ event :: later := fun silent =>
        (ih silent rfl).imp (List.mem_cons_of_mem event) (List.mem_cons_of_mem event)
      rw [List.cons_append] at silent
      cases event with
      | enqueued other =>
          rw [pending] at silent
          split at silent
          · contradiction
          · exact tail silent
      | fetched other =>
          rw [pending] at silent
          split at silent
          · rename_i same
            exact Or.inl (by simp [same])
          · exact tail silent
      | dropped other =>
          rw [pending] at silent
          split at silent
          · rename_i same
            exact Or.inr (by simp [same])
          · exact tail silent

/-- The claim on an address in one state: at most one goroutine is between the start and the
finish of its fetch, exactly the active addresses have a holder, which is the only one, and
what no fetch or report has followed is owed. -/
structure Kept (manager : Manager) (address : Address) : Prop where
  inFlight : count Phase.flying manager address ≤ 1
  held : manager.queue.count address + count Phase.held manager address =
    (manager.active address).toNat
  owed : manager.cancelled = true ∨ Followed address manager.history ∨ Owed manager address

theorem Sound.kept {manager : Manager} (sound : Sound manager) (address : Address) :
    Kept manager address := by
  have fits := sound.fits address
  refine ⟨?_, fits.single, ?_⟩
  · rw [fits.flights]
    exact Bool.toNat_le _
  · cases waits : pending address manager.history with
    | false => exact Or.inr (Or.inl (followed_of_pending waits))
    | true => exact (fits.owed waits).imp (fun stops => stops) Or.inr

/-- In every run an address has at most one fetch and one holder, and what is enqueued stays owed
until it is fetched; in a fair run it is fetched. -/
theorem refresh_keeps_trailing_edge (capacity concurrency : Nat) (actions : Nat → Action)
    (address : Address) :
    (∀ time, Kept (managers capacity concurrency actions time) address) ∧
    (0 < concurrency → Fair capacity concurrency actions → ∀ time, ∃ later, time ≤ later ∧
      ((managers capacity concurrency actions later).cancelled = true ∨
        Followed address (managers capacity concurrency actions later).history)) := by
  refine ⟨fun time => (managers_sound time).kept address, fun positive fair time => ?_⟩
  obtain ⟨later, order, settled⟩ := eventually_settled positive fair address time
  exact ⟨later, order, settled.imp (fun stops => stops) followed_of_pending⟩

end Endless

def oneRefresh (address : Address) : Nat → Action
  | 0 => .enqueue address
  | 1 => .proceed 1
  | 6 => .respond 0 .settled
  | time => if time < 8 then .proceed 0 else .tick 1

def pullRequest : Address := ⟨7, "octo", "repo", 42⟩

theorem oneRefresh_late (address : Address) (time : Nat) : oneRefresh address (8 + time) = .tick 1 := by
  unfold oneRefresh
  split
  · omega
  · omega
  · omega
  · exact if_neg (by omega)

theorem oneRefresh_quiet (time : Nat) :
    (managers 2048 1 (oneRefresh pullRequest) (8 + time)).goroutines = [.idle, .returned] ∧
      (managers 2048 1 (oneRefresh pullRequest) (8 + time)).queue = [] ∧
      (managers 2048 1 (oneRefresh pullRequest) (8 + time)).now = time := by
  induction time with
  | zero => exact ⟨by decide, by decide, by decide⟩
  | succ time ih =>
      obtain ⟨goroutines, queue, now⟩ := ih
      have ticks : managers 2048 1 (oneRefresh pullRequest) (8 + (time + 1)) =
          step (managers 2048 1 (oneRefresh pullRequest) (8 + time)) (.tick 1) := by
        rw [← oneRefresh_late pullRequest time]
        rfl
      rw [ticks]
      exact ⟨goroutines, queue, congrArg (· + 1) now⟩

theorem oneRefresh_fair : Fair 2048 1 (oneRefresh pullRequest) := by
  constructor
  · intro index phase time
    refine ⟨8 + time, by omega, ?_⟩
    rintro ⟨here, able⟩
    obtain ⟨goroutines, queue, -⟩ := oneRefresh_quiet time
    rw [goroutines] at here
    rcases List.mem_pair.mp (List.mem_of_getElem? here) with rfl | rfl
    · simp [ready, queue] at able
    · simp [ready] at able
  · intro seconds
    exact ⟨8 + seconds, Nat.le_of_eq (oneRefresh_quiet seconds).2.2.symm⟩
  · intro address
    refine ⟨8, fun later index after here => ?_⟩
    obtain ⟨extra, rfl⟩ := Nat.exists_eq_add_of_le after
    rw [(oneRefresh_quiet extra).1] at here
    rcases List.mem_pair.mp (List.mem_of_getElem? here) with same | same
    · contradiction
    · contradiction

theorem refresh_keeps_trailing_edge_oneRefresh :
    ∃ later, 1 ≤ later ∧ ((managers 2048 1 (oneRefresh pullRequest) later).cancelled = true ∨
      Followed pullRequest (managers 2048 1 (oneRefresh pullRequest) later).history) :=
  (refresh_keeps_trailing_edge 2048 1 (oneRefresh pullRequest) pullRequest).2 (by decide) oneRefresh_fair 1

def InPlace (manager : Manager) (address : Address) : Bool :=
  address ∈ manager.queue || manager.inFlight address || manager.goroutines.any fun phase =>
    match phase with
    | .deferred _ other => other = address
    | _ => false

theorem active_between_places : ¬∀ (actions : Nat → Action) (time : Nat) (address : Address),
    (managers 2048 12 actions time).active address = InPlace (managers 2048 12 actions time) address := by
  intro everywhere
  have between := everywhere (fun _ => .enqueue pullRequest) 1 pullRequest
  revert between
  decide

end MulticaOS.Snapshots
