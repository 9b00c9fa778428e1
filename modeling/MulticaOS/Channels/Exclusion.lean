import MulticaOS.Channels.Connections

/-!
Mutual exclusion of the connections of an installation, over every run in which no
connection outlives the lease that it was last granted; and the run in which one does.
-/

namespace MulticaOS.Channels.Engine

/-- No live connection outlives its last grant, none is opened on a grant that is over, and no lease call
that its goroutine has given up takes effect while that goroutine counts on a grant. -/
def timely (world : World) : Action → Bool
  | .wait time => world.supervisions.all fun supervision =>
      (world.lastGrant supervision).all fun granted => decide (world.clock + time ≤ granted)
  | .build index built =>
      match world.supervisions[index]? with
      | none => true
      | some supervision =>
          match supervision.stage with
          | .building expiresAt =>
              !built || ended world.replicas supervision || decide (world.clock ≤ expiresAt)
          | _ => true
  | .stray index _ =>
      match world.strays[index]? with
      | none => true
      | some stray =>
          match world.supervisions[stray.issuer]? with
          | none => true
          | some supervision => (world.grantsOf supervision).isEmpty
  | _ => true

def SingleConnection (world : World) : Prop :=
  ∀ (left right : Nat) (one other : Supervision), world.supervisions[left]? = some one →
    world.supervisions[right]? = some other → world.live one = true → world.live other = true → left = right

structure ReleasesFenced (config : Config) (world : World) : Prop where
  inTime : ∀ (issuer holder started : Nat) (one other : Supervision), issuer ≠ holder →
    world.supervisions[issuer]? = some one → world.supervisions[holder]? = some other →
    one.stage = .releasing false →
    (world.installation.lease.any fun lease => decide (lease.token = tokenOf world.replicas other)) = true →
    (step config world (.execute issuer started)).installation = world.installation
  late : ∀ (index issuer holder started : Nat) (other : Supervision), issuer ≠ holder →
    world.strays[index]? = some (.release issuer) → world.supervisions[holder]? = some other →
    (world.installation.lease.any fun lease => decide (lease.token = tokenOf world.replicas other)) = true →
    (step config world (.stray index started)).installation = world.installation

section Runs

variable {config : Config} {world : World}

theorem initial_coherent : Coherent config initial := by
  constructor <;> simp [initial]

theorem initial_held : Held initial := by
  constructor
  · rintro token granted ⟨supervision, member, -⟩
    cases member
  · rintro granted ⟨supervision, member, -⟩
    cases member

theorem on_kept (coherent : Coherent config world) (index : Nat) {act : Supervision → World}
    {allowed : Prop} (each : ∀ supervision, world.supervisions[index]? = some supervision →
      Coherent config (act supervision) ∧ (allowed → Held world → Held (act supervision))) :
    Coherent config (world.on index act) ∧ (allowed → Held world → Held (world.on index act)) := by
  unfold World.on
  cases found : world.supervisions[index]? with
  | none => exact ⟨coherent, fun _ => id⟩
  | some supervision => exact each supervision found

theorem step_kept (coherent : Coherent config world) (action : Action) :
    Coherent config (step config world action) ∧
      (timely world action = true → Held world → Held (step config world action)) := by
  have replicas : ∀ (index : Nat) (change : Replica → Replica),
      (∀ replica, (change replica).nodeID = replica.nodeID) →
      (∀ replica, replica.supervisorGen ≤ (change replica).supervisorGen) →
      (∀ replica, replica.cancelled = true → (change replica).cancelled = true) →
      Coherent config (world.updateReplica index change) ∧
        (Held world → Held (world.updateReplica index change)) :=
    fun index change node gen cancelled => ⟨coherent.updateReplica index node gen cancelled,
      fun held => held.quiet (quiet_updateReplica coherent index node gen cancelled)⟩
  have cancels : ∀ index, Coherent config (world.cancelEntry index) ∧
      (Held world → Held (world.cancelEntry index)) :=
    fun index => ⟨coherent.cancelEntry index, fun held => held.quiet (quiet_cancelEntry coherent index)⟩
  cases action with
  | boot nodeID =>
      simp only [step]
      split
      · exact ⟨coherent, fun _ => id⟩
      · rename_i fresh
        have booted := @Coherent.boot config world coherent nodeID (by simpa using fresh)
        refine ⟨booted, fun _ held => held.quiet (quiet_of_derived coherent rfl rfl ?_
          fun supervision member => Or.inr ⟨supervision, member, rfl, rfl, id⟩)⟩
        intro index replica found
        have inside := (List.getElem?_eq_some_iff.mp found).1
        exact ⟨replica, by rw [List.getElem?_append_left inside]; exact found, rfl, Nat.le_refl _, id⟩
  | shutdown index =>
      have kept := replicas index (fun replica => { replica with cancelled := true }) (fun _ => rfl)
        (fun _ => Nat.le_refl _) (fun _ _ => rfl)
      exact ⟨kept.1, fun _ => kept.2⟩
  | cancelAll index =>
      simp only [step]
      split
      · obtain ⟨cancelled, held⟩ := cancels index
        refine ⟨cancelled.updateReplica index (fun _ => rfl) (fun _ => Nat.le_refl _) fun _ => id,
          fun _ before => (held before).quiet (quiet_updateReplica cancelled index (fun _ => rfl)
            (fun _ => Nat.le_refl _) fun _ => id)⟩
      · exact ⟨coherent, fun _ => id⟩
  | superviseOther index =>
      have kept := replicas index (fun replica => { replica with supervisorGen := replica.supervisorGen + 1 })
        (fun _ => rfl) (fun _ => Nat.le_succ _) (fun _ => id)
      exact ⟨kept.1, fun _ => kept.2⟩
  | maybeRestartOnRotation index fingerprint =>
      simp only [step, maybeRestartOnRotation]
      split
      · exact ⟨coherent, fun _ => id⟩
      · split
        · exact ⟨coherent, fun _ => id⟩
        · split
          · exact ⟨coherent, fun _ => id⟩
          · exact ⟨(cancels index).1, fun _ => (cancels index).2⟩
  | startSupervisor index fingerprint =>
      exact ⟨coherent.startSupervisor index fingerprint,
        fun _ held => held.quiet (quiet_startSupervisor coherent index fingerprint)⟩
  | reap index => exact ⟨(cancels index).1, fun _ => (cancels index).2⟩
  | proceed index =>
      exact on_kept coherent index fun supervision found =>
        ⟨(proceed_kept coherent).1, fun _ held => (proceed_kept coherent).2 held found⟩
  | execute index started =>
      exact on_kept coherent index fun supervision found =>
        ⟨(execute_kept coherent (Nat.min_le_right _ _) found).1,
          fun _ => (execute_kept coherent (Nat.min_le_right _ _) found).2⟩
  | answer index =>
      exact on_kept coherent index fun supervision found =>
        ⟨(answer_kept coherent found).1, fun _ => (answer_kept coherent found).2⟩
  | fail index late =>
      exact on_kept coherent index fun supervision found =>
        ⟨(fail_kept coherent found).1, fun _ => (fail_kept coherent found).2⟩
  | build index built =>
      refine on_kept coherent index fun supervision found =>
        ⟨(build_kept coherent found).1, fun allowed => (build_kept coherent found).2 ?_⟩
      intro expiresAt stage opens awake
      simpa [timely, found, stage, opens, awake] using allowed
  | tick index =>
      exact on_kept coherent index fun supervision found =>
        ⟨(tick_kept coherent found).1, fun _ => (tick_kept coherent found).2⟩
  | leave index late =>
      exact on_kept coherent index fun supervision found =>
        ⟨(leave_kept coherent found).1, fun _ => (leave_kept coherent found).2⟩
  | stray index started =>
      refine ⟨(land_kept coherent (Nat.min_le_right _ _)).1,
        fun allowed => (land_kept coherent (Nat.min_le_right _ _)).2 ?_⟩
      intro stray supervision found issued
      simpa [timely, found, issued] using allowed
  | administer active =>
      exact ⟨⟨coherent.nodes, coherent.gens, coherent.keys, coherent.stages⟩,
        fun _ held => ⟨held.leased, held.current⟩⟩
  | wait time =>
      refine ⟨⟨coherent.nodes, coherent.gens, coherent.keys, fun supervision member =>
        (coherent.stages supervision member).mono (by dsimp only [step]; omega)⟩, fun allowed held => ?_⟩
      refine ⟨fun token granted claims lasts => ?_, ?_⟩
      · exact held.leased token granted claims (Nat.le_trans (Nat.le_add_right _ _) lasts)
      · rintro granted ⟨supervision, member, runs⟩
        have each := List.all_eq_true.mp allowed supervision member
        have runs : world.lastGrant supervision = some granted := runs
        have inside : world.clock + time ≤ granted := by simpa [runs] using each
        exact inside

theorem Coherent.index_injective (coherent : Coherent config world) {left right : Nat}
    {supervision : Supervision} (here : world.supervisions[left]? = some supervision)
    (there : world.supervisions[right]? = some supervision) : left = right := by
  have keyed : ∀ index : Nat, world.supervisions[index]? = some supervision →
      (world.supervisions.map Supervision.key)[index]? = some supervision.key := by
    intro index found
    rw [List.getElem?_map, found, Option.map_some]
  obtain ⟨inside, -⟩ := List.getElem?_eq_some_iff.mp (keyed left here)
  exact (List.getElem?_inj inside coherent.keys).mp ((keyed left here).trans (keyed right there).symm)

theorem claims_of_lastGrant {supervision : Supervision} {granted : Nat}
    (runs : world.lastGrant supervision = some granted) : granted ∈ world.grantsOf supervision := by
  unfold World.lastGrant at runs
  unfold World.grantsOf
  split at runs
  · cases runs
  · rename_i awake
    rw [if_neg awake]
    cases stage : supervision.stage with
    | connected expiresAt runCancelled nextTick renewal =>
        rw [stage] at runs
        cases runCancelled with
        | true => cases runs
        | false =>
            obtain rfl : expiresAt = granted := by simpa [Stage.lastGrant] using runs
            rcases renewal with - | ⟨renewed, - | (- | -)⟩ <;> simp [Stage.grants]
    | _ =>
        rw [stage] at runs
        cases runs

theorem Held.single (held : Held world) (coherent : Coherent config world) : SingleConnection world := by
  intro left right one other foundOne foundOther liveOne liveOther
  obtain ⟨oneGrant, oneRuns⟩ := (live_iff world one).mp liveOne
  obtain ⟨otherGrant, otherRuns⟩ := (live_iff world other).mp liveOther
  have oneListed := List.mem_of_getElem? foundOne
  have otherListed := List.mem_of_getElem? foundOther
  obtain ⟨lease, found, oneToken, -⟩ := held.leased _ oneGrant
    ⟨one, oneListed, rfl, claims_of_lastGrant oneRuns⟩ (held.current _ ⟨one, oneListed, oneRuns⟩)
  obtain ⟨same, again, otherToken, -⟩ := held.leased _ otherGrant
    ⟨other, otherListed, rfl, claims_of_lastGrant otherRuns⟩ (held.current _ ⟨other, otherListed, otherRuns⟩)
  obtain rfl := Option.some.inj (found.symm.trans again)
  have equal := coherent.token_injective oneListed otherListed (oneToken.symm.trans otherToken)
  subst equal
  exact coherent.index_injective foundOne foundOther

theorem Coherent.fenced (coherent : Coherent config world) : ReleasesFenced config world := by
  have kept : ∀ (issuer holder : Nat) (one other : Supervision), issuer ≠ holder →
      world.supervisions[issuer]? = some one → world.supervisions[holder]? = some other →
      (world.installation.lease.any fun lease => decide (lease.token = tokenOf world.replicas other)) = true →
      world.installation.release (tokenOf world.replicas one) = world.installation := by
    intro issuer holder one other different foundOne foundOther holds
    cases leased : world.installation.lease with
    | none => simp [Installation.release, leased]
    | some lease =>
        have token : lease.token = tokenOf world.replicas other := by simpa [leased] using holds
        have foreign : lease.token ≠ tokenOf world.replicas one := by
          intro mine
          have equal := coherent.token_injective (List.mem_of_getElem? foundOne)
            (List.mem_of_getElem? foundOther) (mine.symm.trans token)
          subst equal
          exact different (coherent.index_injective foundOne foundOther)
        simp [Installation.release, leased, foreign]
  refine ⟨?_, ?_⟩
  · intro issuer holder started one other different foundOne foundOther stage holds
    simp only [step, World.on, foundOne, execute, stage]
    exact kept issuer holder one other different foundOne foundOther holds
  · intro index issuer holder started other different stray foundOther holds
    simp only [step, land, stray]
    cases foundOne : world.supervisions[issuer]? with
    | none => rfl
    | some one => exact kept issuer holder one other different foundOne foundOther holds

/-- In a timely run no two connections of the installation are ever live at once. In every run a release
leaves the lease of a successor alone. -/
theorem connections_single (config : Config) (actions : List Action) :
    (RunLib.Every (step config) (fun world action => timely world action = true) initial actions →
      RunLib.Always (step config) SingleConnection initial actions) ∧
      RunLib.Always (step config) (ReleasesFenced config) initial actions := by
  constructor
  · intro every
    have kept := RunLib.always_of_invariant ⟨initial_coherent, initial_held⟩
      (fun (world : World) action (both : Coherent config world ∧ Held world) allowed =>
        And.intro (step_kept both.1 action).1 ((step_kept both.1 action).2 allowed both.2)) every
    exact kept.mono fun world both => both.2.single both.1
  · have kept := RunLib.always_of_preserved initial_coherent
      (fun (world : World) action (coherent : Coherent config world) => (step_kept coherent action).1) actions
    exact kept.mono fun world coherent => coherent.fenced

end Runs

def defaultConfig : Config := ⟨90, 30, by decide⟩

def openingRun : List Action :=
  [.boot "a", .boot "b", .startSupervisor 0 "f", .startSupervisor 1 "f", .proceed 0, .execute 0 0, .answer 0,
    .build 0 true]

def renewedRun : List Action :=
  openingRun ++ [.wait 30, .tick 0, .execute 0 30, .answer 0, .wait 90, .proceed 1, .execute 1 120, .answer 1]

theorem connections_single_renewed :
    RunLib.Always (step defaultConfig) SingleConnection initial renewedRun ∧
      ((RunLib.run (step defaultConfig) initial renewedRun).supervisions.map
        (RunLib.run (step defaultConfig) initial renewedRun).live) = [true, false] :=
  ⟨(connections_single defaultConfig renewedRun).1 (by decide +kernel), by decide +kernel⟩

def expiredRun : List Action :=
  openingRun ++ [.wait 30, .tick 0, .fail 0 false, .wait 30, .tick 0, .fail 0 false, .wait 30, .tick 0,
    .fail 0 false, .wait 1, .proceed 1, .execute 1 91, .answer 1, .build 1 true]

theorem expiredRun_double :
    ¬∀ config actions, RunLib.Always (step config) SingleConnection initial actions := by
  intro single
  have last := (single defaultConfig expiredRun).last
  have same := last 0 1 _ _ rfl rfl (by decide +kernel) (by decide +kernel)
  cases same

end MulticaOS.Channels.Engine
