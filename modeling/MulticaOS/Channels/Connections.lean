import MulticaOS.Channels.Coherence

/-!
At most one live connection: who holds the lease of an installation, which grants are still
counted on, and what keeps a connection from outliving its lease.
-/

namespace MulticaOS.Channels.Engine

def Claims (world : World) (token : String) (granted : Nat) : Prop :=
  ∃ supervision ∈ world.supervisions,
    tokenOf world.replicas supervision = token ∧ granted ∈ world.grantsOf supervision

def Running (world : World) (granted : Nat) : Prop :=
  ∃ supervision ∈ world.supervisions, world.lastGrant supervision = some granted

structure Held (world : World) : Prop where
  leased : ∀ token granted, Claims world token granted → world.clock ≤ granted →
    ∃ lease, world.installation.lease = some lease ∧ lease.token = token ∧ granted ≤ lease.expiresAt
  current : ∀ granted, Running world granted → world.clock ≤ granted

structure Quiet (world next : World) : Prop where
  clock : next.clock = world.clock
  lease : next.installation.lease = world.installation.lease
  claims : ∀ token granted, Claims next token granted → Claims world token granted
  running : ∀ granted, Running next granted → Running world granted

section Grants

variable {config : Config} {world next : World}

theorem Held.quiet (held : Held world) (quiet : Quiet world next) : Held next := by
  refine ⟨?_, ?_⟩
  · intro token granted claims lasts
    rw [quiet.lease]
    exact held.leased token granted (quiet.claims token granted claims) (quiet.clock ▸ lasts)
  · intro granted running
    rw [quiet.clock]
    exact held.current granted (quiet.running granted running)

theorem quiet_of_derived (coherent : Coherent config world) (clock : next.clock = world.clock)
    (lease : next.installation.lease = world.installation.lease)
    (keeps : Keeps world.replicas next.replicas)
    (derived : ∀ supervision ∈ next.supervisions, supervision.stage = .looping ∨
      ∃ old ∈ world.supervisions, supervision.key = old.key ∧ supervision.stage = old.stage ∧
        (supervision.cancelled = false → old.cancelled = false)) : Quiet world next := by
  have origin : ∀ supervision ∈ next.supervisions, ended next.replicas supervision = false →
      supervision.stage = .looping ∨ ∃ old ∈ world.supervisions, supervision.stage = old.stage ∧
        tokenOf next.replicas supervision = tokenOf world.replicas old ∧
        ended world.replicas old = false := by
    intro supervision member awake
    rcases derived supervision member with fresh | ⟨old, listed, key, stage, cancelled⟩
    · exact Or.inl fresh
    · obtain ⟨place, number⟩ := Prod.ext_iff.mp key
      dsimp only [Supervision.key] at place number
      have same : replicaOf next.replicas supervision = replicaOf next.replicas old := by
        rw [replicaOf, replicaOf, place]
      obtain ⟨token, lasting⟩ := coherent.kept keeps listed
      obtain ⟨own, process⟩ := Bool.or_eq_false_iff.mp awake
      refine Or.inr ⟨old, listed, stage, ?_, lasting ?_⟩
      · rw [← token, tokenOf, tokenOf, same, number]
      · rw [ended, cancelled own, Bool.false_or, ← same]
        exact process
  refine ⟨clock, lease, ?_, ?_⟩
  · rintro token granted ⟨supervision, member, rfl, grants⟩
    unfold World.grantsOf at grants
    split at grants
    · cases grants
    · rename_i awake
      rcases origin supervision member (by simpa using awake) with fresh | ⟨old, listed, stage, same, before⟩
      · rw [fresh] at grants
        cases grants
      · exact ⟨old, listed, same.symm, by rwa [World.grantsOf, before, ← stage]⟩
  · rintro granted ⟨supervision, member, runs⟩
    unfold World.lastGrant at runs
    split at runs
    · cases runs
    · rename_i awake
      rcases origin supervision member (by simpa using awake) with fresh | ⟨old, listed, stage, same, before⟩
      · rw [fresh] at runs
        cases runs
      · exact ⟨old, listed, by rwa [World.lastGrant, before, ← stage]⟩

theorem quiet_updateReplica (coherent : Coherent config world) (index : Nat) {change : Replica → Replica}
    (node : ∀ replica, (change replica).nodeID = replica.nodeID)
    (gen : ∀ replica, replica.supervisorGen ≤ (change replica).supervisorGen)
    (cancelled : ∀ replica, replica.cancelled = true → (change replica).cancelled = true) :
    Quiet world (world.updateReplica index change) :=
  quiet_of_derived coherent rfl rfl (Keeps.modify _ index node gen cancelled)
    fun supervision member => Or.inr ⟨supervision, member, rfl, rfl, id⟩

theorem Quiet.refl (world : World) : Quiet world world :=
  ⟨rfl, rfl, fun _ _ => id, fun _ => id⟩

theorem quiet_cancelEntry (coherent : Coherent config world) (index : Nat) :
    Quiet world (world.cancelEntry index) := by
  unfold World.cancelEntry
  cases found : world.replicas[index]? with
  | none => exact Quiet.refl world
  | some replica =>
      dsimp only
      cases replica.entry with
      | none => exact Quiet.refl world
      | some entry =>
          dsimp only
          rw [set_eq_modify (fun replica => { replica with entry := none }) found]
          refine quiet_of_derived coherent rfl rfl
            (Keeps.modify _ index (fun _ => rfl) (fun _ => Nat.le_refl _) fun _ => id) ?_
          intro supervision member
          obtain ⟨old, listed, rfl⟩ := List.mem_map.mp member
          refine Or.inr ⟨old, listed, ?_⟩
          split
          · exact ⟨rfl, rfl, fun never => by cases never⟩
          · exact ⟨rfl, rfl, id⟩

theorem quiet_startSupervisor (coherent : Coherent config world) (index : Nat) (fingerprint : String) :
    Quiet world (startSupervisor world index fingerprint) := by
  unfold startSupervisor
  cases found : world.replicas[index]? with
  | none => exact Quiet.refl world
  | some replica =>
      dsimp only
      split
      · exact Quiet.refl world
      · rw [set_eq_modify (fun replica : Replica => { replica with
          supervisorGen := replica.supervisorGen + 1
          entry := some ⟨fingerprint, replica.supervisorGen + 1⟩ }) found]
        refine quiet_of_derived coherent rfl rfl
          (Keeps.modify _ index (fun _ => rfl) (fun _ => Nat.le_succ _) fun _ => id) ?_
        intro supervision member
        rcases List.mem_append.mp member with old | fresh
        · exact Or.inr ⟨supervision, old, rfl, rfl, id⟩
        · obtain rfl := List.mem_singleton.mp fresh
          exact Or.inl rfl

theorem claims_setStage {index : Nat} {stage : Stage} {installation : Installation} {strays : List Stray}
    {token : String} {granted : Nat} (claims : Claims { world.setStage index stage with
      installation := installation, strays := strays } token granted) :
    Claims world token granted ∨ ∃ supervision, world.supervisions[index]? = some supervision ∧
      tokenOf world.replicas supervision = token ∧ ended world.replicas supervision = false ∧
      granted ∈ stage.grants := by
  obtain ⟨supervision, member, same, grants⟩ := claims
  rcases ListLib.mem_modify member with old | ⟨old, found, rfl⟩
  · exact Or.inl ⟨supervision, old, same, grants⟩
  · refine Or.inr ⟨old, found, same, ?_⟩
    by_cases awake : ended world.replicas old = true
    · rw [World.grantsOf, if_pos (by exact awake)] at grants
      cases grants
    · rw [World.grantsOf, if_neg (by exact awake)] at grants
      exact ⟨by simpa using awake, grants⟩

theorem running_setStage {index : Nat} {stage : Stage} {installation : Installation} {strays : List Stray}
    {granted : Nat} (running : Running { world.setStage index stage with
      installation := installation, strays := strays } granted) :
    Running world granted ∨ ∃ supervision, world.supervisions[index]? = some supervision ∧
      ended world.replicas supervision = false ∧ stage.lastGrant = some granted := by
  obtain ⟨supervision, member, runs⟩ := running
  rcases ListLib.mem_modify member with old | ⟨old, found, rfl⟩
  · exact Or.inl ⟨supervision, old, runs⟩
  · refine Or.inr ⟨old, found, ?_⟩
    by_cases awake : ended world.replicas old = true
    · rw [World.lastGrant, if_pos (by exact awake)] at runs
      cases runs
    · rw [World.lastGrant, if_neg (by exact awake)] at runs
      exact ⟨by simpa using awake, runs⟩

theorem Held.setStage (held : Held world) {index : Nat} {supervision : Supervision} {stage : Stage}
    (found : world.supervisions[index]? = some supervision)
    (grants : ∀ granted ∈ stage.grants, granted ∈ supervision.stage.grants)
    (current : ended world.replicas supervision = false → ∀ granted, stage.lastGrant = some granted →
      world.clock ≤ granted) (strays : List Stray) :
    Held { world.setStage index stage with strays := strays } := by
  refine ⟨?_, ?_⟩
  · intro token granted claims lasts
    refine held.leased token granted ?_ lasts
    rcases claims_setStage claims with old | ⟨same, here, own, awake, member⟩
    · exact old
    · obtain rfl := Option.some.inj (found.symm.trans here)
      exact ⟨supervision, List.mem_of_getElem? found, own, by
        rw [World.grantsOf, awake]
        exact grants granted member⟩
  · intro granted running
    rcases running_setStage running with old | ⟨same, here, awake, runs⟩
    · exact held.current granted old
    · obtain rfl := Option.some.inj (found.symm.trans here)
      exact current awake granted runs

theorem Held.acquired (held : Held world) {token : String} {expiresAt started : Nat}
    (past : started ≤ world.clock) (clock : next.clock = world.clock)
    (installation : next.installation = world.installation.acquire token expiresAt started)
    (claims : ∀ other granted, Claims next other granted → Claims world other granted ∨
      other = token ∧ granted = expiresAt ∧ world.installation.admits token started = true)
    (own : ∀ granted, Claims world token granted → granted ≤ expiresAt)
    (running : ∀ granted, Running next granted → Running world granted) : Held next := by
  refine ⟨?_, fun granted runs => clock ▸ held.current granted (running granted runs)⟩
  intro other granted claimed lasts
  rw [clock] at lasts
  rw [installation, Installation.acquire]
  by_cases admits : world.installation.admits token started = true
  · rw [if_pos admits]
    refine ⟨⟨token, expiresAt⟩, rfl, ?_⟩
    rcases claims other granted claimed with before | ⟨rfl, rfl, -⟩
    · obtain ⟨lease, found, same, covers⟩ := held.leased other granted before lasts
      simp only [Installation.admits, found, Bool.and_eq_true, Bool.or_eq_true, decide_eq_true_eq] at admits
      rcases admits.2 with expired | mine
      · omega
      · obtain rfl : token = other := mine.symm.trans same
        exact ⟨rfl, own granted before⟩
    · exact ⟨rfl, Nat.le_refl _⟩
  · rw [if_neg admits]
    rcases claims other granted claimed with before | ⟨-, -, admitted⟩
    · exact held.leased other granted before lasts
    · exact absurd admitted admits

theorem Held.released (held : Held world) {token : String} (clock : next.clock = world.clock)
    (installation : next.installation = world.installation.release token)
    (claims : ∀ other granted, Claims next other granted → Claims world other granted)
    (own : ∀ granted, ¬Claims world token granted)
    (running : ∀ granted, Running next granted → Running world granted) : Held next := by
  refine ⟨?_, fun granted runs => clock ▸ held.current granted (running granted runs)⟩
  intro other granted claimed lasts
  rw [clock] at lasts
  have before := claims other granted claimed
  obtain ⟨lease, found, same, covers⟩ := held.leased other granted before lasts
  have foreign : lease.token ≠ token := by
    intro mine
    exact own granted (by rw [← mine, same]; exact before)
  refine ⟨lease, ?_, same, covers⟩
  rw [installation, Installation.release, found]
  simp [foreign, found]

theorem Coherent.claims_own (coherent : Coherent config world) {supervision : Supervision} {granted : Nat}
    (member : supervision ∈ world.supervisions)
    (claims : Claims world (tokenOf world.replicas supervision) granted) :
    granted ∈ world.grantsOf supervision := by
  obtain ⟨other, listed, same, grants⟩ := claims
  rwa [coherent.token_injective listed member same] at grants

theorem grants_of_grantsOf {supervision : Supervision} {granted : Nat}
    (member : granted ∈ world.grantsOf supervision) : granted ∈ supervision.stage.grants := by
  unfold World.grantsOf at member
  split at member
  · cases member
  · exact member

theorem Held.executeAcquire (held : Held world) (coherent : Coherent config world) {index started : Nat}
    {supervision : Supervision} {stage : Stage} {expiresAt : Nat} (past : started ≤ world.clock)
    (found : world.supervisions[index]? = some supervision)
    (grants : ∀ granted ∈ stage.grants, granted ∈ supervision.stage.grants ∨ granted = expiresAt ∧
      world.installation.admits (tokenOf world.replicas supervision) started = true)
    (own : ∀ granted ∈ supervision.stage.grants, granted ≤ expiresAt)
    (same : stage.lastGrant = supervision.stage.lastGrant) (strays : List Stray) :
    Held { world.setStage index stage with
      installation := world.installation.acquire (tokenOf world.replicas supervision) expiresAt started
      strays := strays } := by
  have listed := List.mem_of_getElem? found
  refine held.acquired past rfl rfl ?_ ?_ ?_
  · intro other granted claims
    rcases claims_setStage claims with old | ⟨it, here, mine, awake, member⟩
    · exact Or.inl old
    · obtain rfl := Option.some.inj (found.symm.trans here)
      rcases grants granted member with before | ⟨rfl, admits⟩
      · exact Or.inl ⟨supervision, listed, mine, by rwa [World.grantsOf, awake]⟩
      · exact Or.inr ⟨mine.symm, rfl, admits⟩
  · intro granted claims
    exact own granted (grants_of_grantsOf (coherent.claims_own listed claims))
  · intro granted running
    rcases running_setStage running with old | ⟨it, here, awake, runs⟩
    · exact old
    · obtain rfl := Option.some.inj (found.symm.trans here)
      exact ⟨supervision, listed, by rwa [World.lastGrant, awake, ← same]⟩

end Grants

section Steps

variable {config : Config} {world : World}

theorem exit_kept (coherent : Coherent config world) (index : Nat) (supervision : Supervision) :
    Coherent config (exit world index supervision) ∧
      (Held world → world.supervisions[index]? = some supervision → Held (exit world index supervision)) := by
  have left : Coherent config (world.setStage index .exited) :=
    coherent.setStage index .exited trivial world.installation world.strays
  have node : ∀ replica : Replica, (if replica.entry.any fun entry => decide (entry.gen = supervision.gen) then
      { replica with entry := none } else replica).nodeID = replica.nodeID := by
    intro replica
    split <;> rfl
  have gen : ∀ replica : Replica, replica.supervisorGen ≤
      (if replica.entry.any fun entry => decide (entry.gen = supervision.gen) then
        { replica with entry := none } else replica).supervisorGen := by
    intro replica
    split <;> exact Nat.le_refl _
  have cancelled : ∀ replica : Replica, replica.cancelled = true →
      (if replica.entry.any fun entry => decide (entry.gen = supervision.gen) then
        { replica with entry := none } else replica).cancelled = true := by
    intro replica done
    split <;> exact done
  refine ⟨left.updateReplica _ node gen cancelled, fun held found => ?_⟩
  have stays : Held (world.setStage index .exited) :=
    held.setStage found (by simp [Stage.grants]) (by simp [Stage.lastGrant]) world.strays
  exact stays.quiet (quiet_updateReplica left _ node gen cancelled)

theorem proceed_kept (coherent : Coherent config world) {index : Nat} {supervision : Supervision} :
    Coherent config (proceed config world index supervision) ∧
      (Held world → world.supervisions[index]? = some supervision →
        Held (proceed config world index supervision)) := by
  unfold proceed
  cases stage : supervision.stage with
  | looping =>
      dsimp only
      split
      · exact exit_kept coherent index supervision
      · refine ⟨coherent.setStage index (.acquiring (acquireLease config world)) (Nat.le_refl _) world.installation world.strays, fun held found => ?_⟩
        exact held.setStage found (by simp [Stage.grants, acquireLease])
          (by simp [Stage.lastGrant]) world.strays
  | sleeping =>
      dsimp only
      split
      · exact exit_kept coherent index supervision
      · refine ⟨coherent.setStage index .looping trivial world.installation world.strays, fun held found => ?_⟩
        exact held.setStage found (by simp [Stage.grants]) (by simp [Stage.lastGrant]) world.strays
  | _ => exact ⟨coherent, fun held _ => held⟩

theorem execute_kept (coherent : Coherent config world) {index started : Nat} {supervision : Supervision}
    (past : started ≤ world.clock) (found : world.supervisions[index]? = some supervision) :
    Coherent config (execute world index started supervision) ∧
      (Held world → Held (execute world index started supervision)) := by
  have listed := List.mem_of_getElem? found
  have bounded := coherent.stages supervision listed
  unfold execute
  cases stage : supervision.stage with
  | acquiring call =>
      rw [stage] at bounded
      dsimp only
      split
      · exact ⟨coherent, id⟩
      · rename_i fresh
        refine ⟨coherent.setStage index (.acquiring (call.settle _)) bounded _ _, fun held => ?_⟩
        refine held.executeAcquire coherent past found ?_ ?_ (by simp [stage, Stage.lastGrant]) world.strays
        · intro granted member
          cases admits : world.installation.admits (tokenOf world.replicas supervision) started with
          | false => simp [LeaseCall.settle, admits, Stage.grants] at member
          | true =>
              simp only [LeaseCall.settle, admits, Stage.grants, List.mem_singleton] at member
              exact Or.inr ⟨member, rfl⟩
        · intro granted member
          obtain ⟨expiresAt, outcome⟩ := call
          cases outcome with
          | none => simp [stage, Stage.grants] at member
          | some outcome => simp at fresh
  | connected expiresAt runCancelled nextTick renewal =>
      cases renewal with
      | none => exact ⟨coherent, id⟩
      | some call =>
          rw [stage] at bounded
          dsimp only
          split
          · exact ⟨coherent, id⟩
          · rename_i fresh
            refine ⟨coherent.setStage index (.connected expiresAt runCancelled nextTick (some (call.settle _)))
              bounded _ _, fun held => ?_⟩
            refine held.executeAcquire coherent past found ?_ ?_ (by
              cases runCancelled <;> simp [stage, Stage.lastGrant]) world.strays
            · intro granted member
              obtain ⟨renewed, outcome⟩ := call
              cases runCancelled with
              | true => simp [Stage.grants] at member
              | false =>
                  cases admits : world.installation.admits (tokenOf world.replicas supervision) started with
                  | false =>
                      simp only [LeaseCall.settle, admits, Stage.grants, List.mem_singleton] at member
                      left
                      cases outcome with
                      | none => simpa [stage, Stage.grants] using member
                      | some outcome => simp at fresh
                  | true =>
                      simp only [LeaseCall.settle, admits, Stage.grants, List.mem_cons,
                        List.not_mem_nil, or_false] at member
                      rcases member with old | new
                      · left
                        cases outcome with
                        | none => simpa [stage, Stage.grants] using old
                        | some outcome => simp at fresh
                      · exact Or.inr ⟨new, rfl⟩
            · intro granted member
              obtain ⟨renewed, outcome⟩ := call
              cases outcome with
              | none =>
                  cases runCancelled with
                  | true => simp [stage, Stage.grants] at member
                  | false =>
                      obtain rfl : granted = expiresAt := by simpa [stage, Stage.grants] using member
                      exact bounded.1
              | some outcome => simp at fresh
  | releasing executed =>
      cases executed with
      | true => exact ⟨coherent, id⟩
      | false =>
          refine ⟨coherent.setStage index (.releasing true) trivial _ _, fun held => ?_⟩
          refine held.released rfl rfl ?_ ?_ ?_
          · intro other granted claims
            rcases claims_setStage claims with old | ⟨_, _, _, _, member⟩
            · exact old
            · cases member
          · intro granted claims
            have member := grants_of_grantsOf (coherent.claims_own listed claims)
            rw [stage] at member
            cases member
          · intro granted running
            rcases running_setStage running with old | ⟨_, _, _, runs⟩
            · exact old
            · cases runs
  | _ => exact ⟨coherent, id⟩

theorem answer_kept (coherent : Coherent config world) {index : Nat} {supervision : Supervision}
    (found : world.supervisions[index]? = some supervision) :
    Coherent config (answer world index supervision) ∧
      (Held world → Held (answer world index supervision)) := by
  have listed := List.mem_of_getElem? found
  have bounded := coherent.stages supervision listed
  have move : ∀ stage : Stage, stage.Bounded (world.clock + config.leaseTTL) →
      (∀ granted ∈ stage.grants, granted ∈ supervision.stage.grants) →
      (Held world → ended world.replicas supervision = false → ∀ granted,
        stage.lastGrant = some granted → world.clock ≤ granted) →
      Coherent config (world.setStage index stage) ∧ (Held world → Held (world.setStage index stage)) :=
    fun stage inside grants current => ⟨coherent.setStage index stage inside _ _,
      fun held => held.setStage found grants (current held) world.strays⟩
  unfold answer
  cases stage : supervision.stage with
  | acquiring call =>
      rw [stage] at bounded
      obtain ⟨expiresAt, outcome⟩ := call
      cases outcome with
      | none => exact ⟨coherent, id⟩
      | some granted =>
          cases granted with
          | true =>
              refine move (.building expiresAt) bounded ?_ (by simp [Stage.lastGrant])
              rw [stage]
              exact fun granted member => member
          | false => exact move .sleeping trivial (by simp [Stage.grants]) (by simp [Stage.lastGrant])
  | connected expiresAt runCancelled nextTick renewal =>
      rw [stage] at bounded
      cases renewal with
      | none => exact ⟨coherent, id⟩
      | some call =>
          obtain ⟨renewed, outcome⟩ := call
          cases outcome with
          | none => exact ⟨coherent, id⟩
          | some granted =>
              cases granted with
              | true =>
                  refine move (.connected renewed runCancelled nextTick none) bounded.2 ?_ ?_
                  · rw [stage]
                    cases runCancelled <;> simp [Stage.grants]
                  · intro held awake granted runs
                    cases runCancelled with
                    | true => cases runs
                    | false =>
                        obtain rfl : renewed = granted := by simpa [Stage.lastGrant] using runs
                        have before := held.current expiresAt
                          ⟨supervision, listed, by rw [World.lastGrant, awake, stage]; rfl⟩
                        exact Nat.le_trans before bounded.1
              | false =>
                  exact move (.connected expiresAt true nextTick none)
                    (Nat.le_trans bounded.1 bounded.2) (by simp [Stage.grants]) (by simp [Stage.lastGrant])
  | releasing executed =>
      cases executed with
      | true => exact move .sleeping trivial (by simp [Stage.grants]) (by simp [Stage.lastGrant])
      | false => exact ⟨coherent, id⟩
  | _ => exact ⟨coherent, id⟩

theorem fail_kept (coherent : Coherent config world) {index : Nat} {late : Bool} {supervision : Supervision}
    (found : world.supervisions[index]? = some supervision) :
    Coherent config (fail world index late supervision) ∧
      (Held world → Held (fail world index late supervision)) := by
  have listed := List.mem_of_getElem? found
  have bounded := coherent.stages supervision listed
  unfold fail
  cases stage : supervision.stage with
  | acquiring call =>
      refine ⟨coherent.setStage index .sleeping trivial _ _, fun held => ?_⟩
      exact held.setStage found (by simp [Stage.grants]) (by simp [Stage.lastGrant]) _
  | connected expiresAt runCancelled nextTick renewal =>
      rw [stage] at bounded
      cases renewal with
      | none => exact ⟨coherent, id⟩
      | some call =>
          refine ⟨coherent.setStage index (.connected expiresAt runCancelled nextTick none)
            (Nat.le_trans bounded.1 bounded.2) _ _, fun held => ?_⟩
          refine held.setStage found ?_ ?_ _
          · rw [stage]
            obtain ⟨renewed, outcome⟩ := call
            cases runCancelled with
            | true => simp [Stage.grants]
            | false => rcases outcome with - | (- | -) <;> simp [Stage.grants]
          · intro awake granted runs
            refine held.current granted ⟨supervision, listed, ?_⟩
            rw [World.lastGrant, awake, stage]
            cases runCancelled <;> exact runs
  | releasing executed =>
      refine ⟨coherent.setStage index .sleeping trivial _ _, fun held => ?_⟩
      exact held.setStage found (by simp [Stage.grants]) (by simp [Stage.lastGrant]) _
  | _ => exact ⟨coherent, id⟩

theorem tick_kept (coherent : Coherent config world) {index : Nat} {supervision : Supervision}
    (found : world.supervisions[index]? = some supervision) :
    Coherent config (tick config world index supervision) ∧
      (Held world → Held (tick config world index supervision)) := by
  have listed := List.mem_of_getElem? found
  have bounded := coherent.stages supervision listed
  unfold tick
  split
  · rename_i expiresAt nextTick stage
    rw [stage] at bounded
    split
    · exact ⟨coherent, id⟩
    · refine ⟨coherent.setStage index (.connected expiresAt false _ (some (acquireLease config world)))
        ⟨bounded, Nat.le_refl _⟩ _ _, fun held => ?_⟩
      refine held.setStage found ?_ ?_ world.strays
      · rw [stage]
        exact fun granted member => member
      · intro awake granted runs
        exact held.current granted ⟨supervision, listed, by rw [World.lastGrant, awake, stage]; exact runs⟩
  · exact ⟨coherent, id⟩

theorem leave_kept (coherent : Coherent config world) {index : Nat} {late : Bool} {supervision : Supervision}
    (found : world.supervisions[index]? = some supervision) :
    Coherent config (leave world index late supervision) ∧
      (Held world → Held (leave world index late supervision)) := by
  unfold leave
  split
  · refine ⟨coherent.setStage index (.releasing false) trivial _ _, fun held => ?_⟩
    exact held.setStage found (by simp [Stage.grants]) (by simp [Stage.lastGrant]) _
  · exact ⟨coherent, id⟩

theorem build_kept (coherent : Coherent config world) {index : Nat} {built : Bool}
    {supervision : Supervision} (found : world.supervisions[index]? = some supervision) :
    Coherent config (build config world index built supervision) ∧
      ((∀ expiresAt, supervision.stage = .building expiresAt → built = true →
          ended world.replicas supervision = false → world.clock ≤ expiresAt) →
        Held world → Held (build config world index built supervision)) := by
  have bounded := coherent.stages supervision (List.mem_of_getElem? found)
  unfold build
  cases stage : supervision.stage with
  | building expiresAt =>
      rw [stage] at bounded
      dsimp only
      split
      · rename_i opens
        refine ⟨coherent.setStage index (.connected expiresAt false _ none) bounded _ _, fun timely held => ?_⟩
        refine held.setStage found ?_ ?_ world.strays
        · rw [stage]
          exact fun granted member => member
        · intro awake granted runs
          obtain rfl : expiresAt = granted := by simpa [Stage.lastGrant] using runs
          exact timely expiresAt rfl opens awake
      · refine ⟨coherent.setStage index (.releasing false) trivial _ _, fun _ held => ?_⟩
        exact held.setStage found (by simp [Stage.grants]) (by simp [Stage.lastGrant]) world.strays
  | _ => exact ⟨coherent, fun _ => id⟩

def Stray.issuer : Stray → Nat
  | .acquire issuer _ => issuer
  | .release issuer => issuer

theorem land_kept (coherent : Coherent config world) {index started : Nat} (past : started ≤ world.clock) :
    Coherent config (land world index started) ∧
      ((∀ stray supervision, world.strays[index]? = some stray →
          world.supervisions[stray.issuer]? = some supervision → world.grantsOf supervision = []) →
        Held world → Held (land world index started)) := by
  have same : ∀ (installation : Installation) (strays : List Stray), Coherent config
      { world with installation := installation, strays := strays } :=
    fun _ _ => ⟨coherent.nodes, coherent.gens, coherent.keys, coherent.stages⟩
  unfold land
  cases found : world.strays[index]? with
  | none => exact ⟨coherent, fun _ => id⟩
  | some stray =>
      have quiet : Held world → Held { world with strays := world.strays.eraseIdx index } :=
        fun held => ⟨held.leased, held.current⟩
      cases stray with
      | acquire issuer expiresAt =>
          dsimp only
          cases issued : world.supervisions[issuer]? with
          | none => exact ⟨same _ _, fun _ => quiet⟩
          | some supervision =>
              refine ⟨same _ _, fun free held => held.acquired past rfl rfl (fun _ _ => Or.inl) ?_
                fun _ => id⟩
              intro granted claims
              have member := coherent.claims_own (List.mem_of_getElem? issued) claims
              rw [free _ supervision rfl issued] at member
              cases member
      | release issuer =>
          dsimp only
          cases issued : world.supervisions[issuer]? with
          | none => exact ⟨same _ _, fun _ => quiet⟩
          | some supervision =>
              refine ⟨same _ _, fun free held => held.released rfl rfl (fun _ _ => id) ?_ fun _ => id⟩
              intro granted claims
              have member := coherent.claims_own (List.mem_of_getElem? issued) claims
              rw [free _ supervision rfl issued] at member
              cases member

end Steps

end MulticaOS.Channels.Engine
