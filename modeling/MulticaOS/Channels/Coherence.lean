import MulticaOS.Lib.Lists
import MulticaOS.Channels.Supervisors

/-!
What holds of the supervisors in every state, however late their lease calls are: each
goroutine has a lease token of its own, and its calls are later than its grants.
-/

namespace MulticaOS.Channels.Engine

theorem leaseToken_injective {left right : String} {gen other : Nat}
    (same : leaseToken left gen = leaseToken right other) : left = right ∧ gen = other := by
  have digits : ∀ value : Nat, '-' ∉ (toString value).toList := by
    intro value member
    have digit : '-'.isDigit = true := by
      apply Nat.isDigit_of_mem_toDigits (n := value) (b := 10) (by decide) (by decide)
      simpa using member
    exact absurd digit (by decide)
  have characters := congrArg String.toList same
  simp only [leaseToken, String.toList_append] at characters
  have shape : ∀ (node : String) (value : Nat), node.toList ++ "-g".toList ++ (toString value).toList =
      node.toList ++ '-' :: ('g' :: (toString value).toList) := by
    intro node value
    simp
  rw [shape, shape] at characters
  have clean : ∀ value : Nat, '-' ∉ 'g' :: (toString value).toList := by
    intro value member
    rcases List.mem_cons.mp member with dash | member
    · exact absurd dash (by decide)
    · exact digits value member
  obtain ⟨nodes, gens⟩ := ListLib.last_separator (clean gen) (clean other) characters
  refine ⟨String.toList_inj.mp nodes, ?_⟩
  have values := (List.cons_eq_cons.mp gens).2
  have numbers := congrArg (fun digits => Nat.ofDigitChars 10 digits 0) values
  simpa using numbers

/-- The expiries that a stage counts on: of the grants that the goroutine has, or is about to learn of, for
a connection that is not cancelled. -/
def Stage.grants : Stage → List Nat
  | .acquiring ⟨expiresAt, some true⟩ => [expiresAt]
  | .building expiresAt => [expiresAt]
  | .connected expiresAt false _ (some ⟨renewed, some true⟩) => [expiresAt, renewed]
  | .connected expiresAt false _ _ => [expiresAt]
  | _ => []

def Stage.lastGrant : Stage → Option Nat
  | .connected expiresAt false _ _ => some expiresAt
  | _ => none

def World.grantsOf (world : World) (supervision : Supervision) : List Nat :=
  if ended world.replicas supervision then [] else supervision.stage.grants

def World.lastGrant (world : World) (supervision : Supervision) : Option Nat :=
  if ended world.replicas supervision then none else supervision.stage.lastGrant

theorem live_iff (world : World) (supervision : Supervision) :
    world.live supervision = true ↔ ∃ expiresAt, world.lastGrant supervision = some expiresAt := by
  unfold World.live World.lastGrant
  cases supervision.stage with
  | connected expiresAt runCancelled nextTick renewal =>
      cases runCancelled <;> cases ended world.replicas supervision <;> simp [Stage.lastGrant]
  | _ => simp [Stage.lastGrant]

def Stage.Bounded (limit : Nat) : Stage → Prop
  | .acquiring call => call.expiresAt ≤ limit
  | .building expiresAt => expiresAt ≤ limit
  | .connected expiresAt _ _ none => expiresAt ≤ limit
  | .connected expiresAt _ _ (some call) => expiresAt ≤ call.expiresAt ∧ call.expiresAt ≤ limit
  | _ => True

theorem Stage.Bounded.mono {limit more : Nat} {stage : Stage} (bounded : stage.Bounded limit)
    (le : limit ≤ more) : stage.Bounded more := by
  cases stage with
  | acquiring call => exact Nat.le_trans bounded le
  | building expiresAt => exact Nat.le_trans bounded le
  | connected expiresAt runCancelled nextTick renewal =>
      cases renewal with
      | none => exact Nat.le_trans bounded le
      | some call => exact ⟨bounded.1, Nat.le_trans bounded.2 le⟩
  | _ => trivial

def Supervision.key (supervision : Supervision) : Nat × Nat := (supervision.replica, supervision.gen)

structure Coherent (config : Config) (world : World) : Prop where
  nodes : (world.replicas.map Replica.nodeID).Nodup
  gens : ∀ supervision ∈ world.supervisions, ∃ replica,
    world.replicas[supervision.replica]? = some replica ∧ supervision.gen ≤ replica.supervisorGen
  keys : (world.supervisions.map Supervision.key).Nodup
  stages : ∀ supervision ∈ world.supervisions, supervision.stage.Bounded (world.clock + config.leaseTTL)

def Keeps (replicas later : List Replica) : Prop :=
  ∀ (index : Nat) (replica : Replica), replicas[index]? = some replica → ∃ next, later[index]? = some next ∧
    next.nodeID = replica.nodeID ∧ replica.supervisorGen ≤ next.supervisorGen ∧
    (replica.cancelled = true → next.cancelled = true)

section Coherence

variable {config : Config} {world next : World}

theorem Keeps.refl (replicas : List Replica) : Keeps replicas replicas :=
  fun _ replica found => ⟨replica, found, rfl, Nat.le_refl _, id⟩

theorem Keeps.modify (replicas : List Replica) (index : Nat) {change : Replica → Replica}
    (node : ∀ replica, (change replica).nodeID = replica.nodeID)
    (gen : ∀ replica, replica.supervisorGen ≤ (change replica).supervisorGen)
    (cancelled : ∀ replica, replica.cancelled = true → (change replica).cancelled = true) :
    Keeps replicas (replicas.modify index change) := by
  intro position replica found
  rw [List.getElem?_modify, found]
  by_cases same : index = position
  · exact ⟨change replica, by simp [same], node replica, gen replica, cancelled replica⟩
  · exact ⟨replica, by simp [same], rfl, Nat.le_refl _, id⟩

theorem Coherent.replica_of (coherent : Coherent config world) {supervision : Supervision}
    (member : supervision ∈ world.supervisions) :
    world.replicas[supervision.replica]? = some (replicaOf world.replicas supervision) := by
  obtain ⟨replica, found, -⟩ := coherent.gens supervision member
  rw [replicaOf, List.getD_eq_getElem?_getD, found, Option.getD_some]

theorem Coherent.kept (coherent : Coherent config world) {later : List Replica}
    (keeps : Keeps world.replicas later) {supervision : Supervision}
    (member : supervision ∈ world.supervisions) :
    tokenOf later supervision = tokenOf world.replicas supervision ∧
      (ended later supervision = false → ended world.replicas supervision = false) := by
  obtain ⟨kept, found, node, -, cancelled⟩ := keeps _ _ (coherent.replica_of member)
  have same : replicaOf later supervision = kept := by
    rw [replicaOf, List.getD_eq_getElem?_getD, found, Option.getD_some]
  refine ⟨by rw [tokenOf, tokenOf, same, node], ?_⟩
  unfold ended
  rw [same]
  intro running
  obtain ⟨own, process⟩ := Bool.or_eq_false_iff.mp running
  rw [own, Bool.false_or]
  by_contra done
  rw [cancelled (by simpa using done)] at process
  cases process

theorem Coherent.token_injective (coherent : Coherent config world) {left right : Supervision}
    (leftMember : left ∈ world.supervisions) (rightMember : right ∈ world.supervisions)
    (same : tokenOf world.replicas left = tokenOf world.replicas right) : left = right := by
  obtain ⟨nodes, gens⟩ := leaseToken_injective same
  have leftAt := coherent.replica_of leftMember
  have rightAt := coherent.replica_of rightMember
  have replicas : left.replica = right.replica := by
    have leftNode : (world.replicas.map Replica.nodeID)[left.replica]? =
        some (replicaOf world.replicas left).nodeID := by rw [List.getElem?_map, leftAt, Option.map_some]
    have rightNode : (world.replicas.map Replica.nodeID)[right.replica]? =
        some (replicaOf world.replicas left).nodeID := by
      rw [List.getElem?_map, rightAt, Option.map_some, nodes]
    obtain ⟨inside, -⟩ := List.getElem?_eq_some_iff.mp leftNode
    exact (List.getElem?_inj inside coherent.nodes).mp (leftNode.trans rightNode.symm)
  exact List.inj_on_of_nodup_map coherent.keys leftMember rightMember (Prod.ext replicas gens)

theorem Coherent.moved (coherent : Coherent config world) (clock : world.clock ≤ next.clock)
    (nodes : (next.replicas.map Replica.nodeID).Nodup) (keeps : Keeps world.replicas next.replicas)
    (keys : next.supervisions.map Supervision.key = world.supervisions.map Supervision.key)
    (stages : ∀ supervision ∈ next.supervisions,
      supervision.stage.Bounded (world.clock + config.leaseTTL)) : Coherent config next := by
  refine ⟨nodes, ?_, by rw [keys]; exact coherent.keys, ?_⟩
  · intro supervision member
    have listed : supervision.key ∈ world.supervisions.map Supervision.key := by
      rw [← keys]
      exact List.mem_map_of_mem member
    obtain ⟨old, known, same⟩ := List.mem_map.mp listed
    obtain ⟨place, number⟩ := Prod.ext_iff.mp same
    obtain ⟨replica, found, bounded⟩ := coherent.gens old known
    obtain ⟨kept, there, -, more, -⟩ := keeps _ _ found
    dsimp only [Supervision.key] at place number
    exact ⟨kept, by rw [← place]; exact there, by rw [← number]; exact Nat.le_trans bounded more⟩
  · intro supervision member
    exact (stages supervision member).mono (by omega)

theorem keys_modify (supervisions : List Supervision) (index : Nat) (stage : Stage) :
    (supervisions.modify index fun supervision => { supervision with stage := stage }).map
      Supervision.key = supervisions.map Supervision.key := by
  apply List.ext_getElem?
  intro position
  rw [List.getElem?_map, List.getElem?_modify, List.getElem?_map]
  cases supervisions[position]? with
  | none => rfl
  | some supervision => by_cases same : index = position <;> simp [same, Supervision.key]

theorem nodes_modify (replicas : List Replica) (index : Nat) {change : Replica → Replica}
    (node : ∀ replica, (change replica).nodeID = replica.nodeID) :
    (replicas.modify index change).map Replica.nodeID = replicas.map Replica.nodeID := by
  apply List.ext_getElem?
  intro position
  rw [List.getElem?_map, List.getElem?_modify, List.getElem?_map]
  cases replicas[position]? with
  | none => rfl
  | some replica => by_cases same : index = position <;> simp [same, node]

theorem nodup_modify {replicas : List Replica} {index : Nat} {change : Replica → Replica}
    (nodup : (replicas.map Replica.nodeID).Nodup)
    (node : ∀ replica, (change replica).nodeID = replica.nodeID) :
    ((replicas.modify index change).map Replica.nodeID).Nodup := by
  rw [nodes_modify replicas index node]
  exact nodup

theorem Coherent.setStage (coherent : Coherent config world) (index : Nat) (stage : Stage)
    (bounded : stage.Bounded (world.clock + config.leaseTTL)) (installation : Installation)
    (strays : List Stray) :
    Coherent config { world.setStage index stage with installation := installation, strays := strays } := by
  refine coherent.moved (Nat.le_refl _) coherent.nodes (Keeps.refl _) (keys_modify _ _ _) ?_
  intro supervision member
  rcases ListLib.mem_modify member with old | ⟨old, -, rfl⟩
  · exact coherent.stages supervision old
  · exact bounded

theorem Coherent.updateReplica (coherent : Coherent config world) (index : Nat)
    {change : Replica → Replica} (node : ∀ replica, (change replica).nodeID = replica.nodeID)
    (gen : ∀ replica, replica.supervisorGen ≤ (change replica).supervisorGen)
    (cancelled : ∀ replica, replica.cancelled = true → (change replica).cancelled = true) :
    Coherent config (world.updateReplica index change) := by
  refine coherent.moved (Nat.le_refl _) ?_ (Keeps.modify _ index node gen cancelled) rfl coherent.stages
  exact nodup_modify coherent.nodes node

theorem set_eq_modify {replicas : List Replica} {index : Nat} {replica : Replica} (change : Replica → Replica)
    (found : replicas[index]? = some replica) :
    replicas.set index (change replica) = replicas.modify index change := by
  apply List.ext_getElem?
  intro position
  rw [List.getElem?_set, List.getElem?_modify]
  by_cases same : index = position
  · subst same
    obtain ⟨inside, here⟩ := List.getElem?_eq_some_iff.mp found
    simp [inside, here]
  · simp [same]

theorem Coherent.cancelEntry (coherent : Coherent config world) (index : Nat) :
    Coherent config (world.cancelEntry index) := by
  unfold World.cancelEntry
  cases found : world.replicas[index]? with
  | none => exact coherent
  | some replica =>
      dsimp only
      cases replica.entry with
      | none => exact coherent
      | some entry =>
          dsimp only
          rw [set_eq_modify (fun replica => { replica with entry := none }) found]
          refine coherent.moved (Nat.le_refl _) ?_ (Keeps.modify _ index (fun _ => rfl) (fun _ => Nat.le_refl _) fun _ => id)
            ?_ ?_
          · exact nodup_modify coherent.nodes fun _ => rfl
          · rw [List.map_map]
            refine List.map_congr_left fun supervision _ => ?_
            dsimp only [Function.comp]
            split <;> rfl
          · intro supervision member
            obtain ⟨old, listed, rfl⟩ := List.mem_map.mp member
            have bounded := coherent.stages old listed
            split
            · exact bounded
            · exact bounded

theorem Coherent.startSupervisor (coherent : Coherent config world) (index : Nat) (fingerprint : String) :
    Coherent config (startSupervisor world index fingerprint) := by
  unfold Engine.startSupervisor
  cases found : world.replicas[index]? with
  | none => exact coherent
  | some replica =>
      dsimp only
      split
      · exact coherent
      · rename_i starts
        have moved := set_eq_modify (fun replica : Replica => { replica with
          supervisorGen := replica.supervisorGen + 1
          entry := some ⟨fingerprint, replica.supervisorGen + 1⟩ }) found
        have keeps : Keeps world.replicas (world.replicas.modify index fun replica => { replica with
            supervisorGen := replica.supervisorGen + 1
            entry := some ⟨fingerprint, replica.supervisorGen + 1⟩ }) :=
          Keeps.modify _ index (fun _ => rfl) (fun _ => Nat.le_succ _) fun _ => id
        rw [moved]
        have fresh : (index, replica.supervisorGen + 1) ∉ world.supervisions.map Supervision.key := by
          intro member
          obtain ⟨old, listed, same⟩ := List.mem_map.mp member
          obtain ⟨place, number⟩ := Prod.ext_iff.mp same
          obtain ⟨known, there, bounded⟩ := coherent.gens old listed
          dsimp only [Supervision.key] at place number
          rw [place, found] at there
          obtain rfl := Option.some.inj there
          omega
        refine ⟨nodup_modify coherent.nodes fun _ => rfl, ?_, ?_, ?_⟩
        · intro supervision member
          rcases List.mem_append.mp member with old | new
          · obtain ⟨replica, there, bounded⟩ := coherent.gens supervision old
            obtain ⟨kept, here, -, more, -⟩ := keeps _ _ there
            exact ⟨kept, here, Nat.le_trans bounded more⟩
          · obtain rfl := List.mem_singleton.mp new
            refine ⟨{ replica with supervisorGen := replica.supervisorGen + 1
                                   entry := some ⟨fingerprint, replica.supervisorGen + 1⟩ }, ?_, Nat.le_refl _⟩
            simp [found]
        · rw [List.map_append, List.nodup_append]
          refine ⟨coherent.keys, by simp, ?_⟩
          intro key old other new same
          obtain rfl : other = (index, replica.supervisorGen + 1) := by simpa [Supervision.key] using new
          exact fresh (same ▸ old)
        · intro supervision member
          rcases List.mem_append.mp member with old | new
          · exact coherent.stages supervision old
          · obtain rfl := List.mem_singleton.mp new
            trivial

theorem Coherent.boot (coherent : Coherent config world) {nodeID : String}
    (fresh : nodeID ∉ world.replicas.map Replica.nodeID) :
    Coherent config { world with replicas := world.replicas ++ [⟨nodeID, false, false, 0, none⟩] } := by
  refine coherent.moved (Nat.le_refl _) ?_ ?_ rfl coherent.stages
  · rw [List.map_append, List.nodup_append]
    refine ⟨coherent.nodes, by simp, ?_⟩
    intro node old other new same
    obtain rfl : other = nodeID := by simpa using new
    exact fresh (same ▸ old)
  · intro index replica found
    have inside := (List.getElem?_eq_some_iff.mp found).1
    exact ⟨replica, by rw [List.getElem?_append_left inside]; exact found, rfl, Nat.le_refl _, id⟩

end Coherence

end MulticaOS.Channels.Engine
