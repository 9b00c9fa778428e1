import MulticaOS.Lib.Runs

/-!
Supervisors of one channel installation on any number of replicas: the lease row with its
two statements, the sweeps that start and cancel supervisors, and the goroutine of each of
them, whose lease calls may fail before or after they take effect, or take effect late.
-/

namespace MulticaOS.Channels.Engine

structure Config where
  leaseTTL : Nat
  leaseRenewInterval : Nat
  valid : 0 < leaseRenewInterval ∧ leaseRenewInterval < leaseTTL

structure Lease where
  token : String
  expiresAt : Nat
  deriving DecidableEq

/-- The row of `channel_installation`. Its lease columns are set and cleared together. -/
structure Installation where
  active : Bool
  lease : Option Lease
  deriving DecidableEq

/-- The predicate of `AcquireChannelWSLease`, whose `now()` is the start of the statement. -/
def Installation.admits (installation : Installation) (token : String) (started : Nat) : Bool :=
  installation.active &&
    match installation.lease with
    | none => true
    | some lease => decide (lease.expiresAt < started) || decide (lease.token = token)

def Installation.acquire (installation : Installation) (token : String) (expiresAt started : Nat) :
    Installation :=
  if installation.admits token started then { installation with lease := some ⟨token, expiresAt⟩ }
  else installation

def Installation.release (installation : Installation) (token : String) : Installation :=
  if installation.lease.any fun lease => decide (lease.token = token) then
    { installation with lease := none }
  else installation

def leaseToken (nodeID : String) (gen : Nat) : String := nodeID ++ "-g" ++ toString gen

structure Entry where
  fingerprint : String
  gen : Nat
  deriving DecidableEq

/-- A process: `cancelled` is the state of the context of `Run`, `entry` is the installation's entry in the
`supervisors` map. -/
structure Replica where
  nodeID : String
  cancelled : Bool
  stopped : Bool
  supervisorGen : Nat
  entry : Option Entry
  deriving DecidableEq

structure LeaseCall where
  expiresAt : Nat
  outcome : Option Bool
  deriving DecidableEq

inductive Stage
  | looping
  | acquiring (call : LeaseCall)
  | building (expiresAt : Nat)
  | connected (expiresAt : Nat) (runCancelled : Bool) (nextTick : Nat) (renewal : Option LeaseCall)
  | releasing (executed : Bool)
  | sleeping
  | exited
  deriving DecidableEq

/-- The goroutine of `supervise`. `cancelled` is set by the `cancel` of its map entry. -/
structure Supervision where
  replica : Nat
  gen : Nat
  cancelled : Bool
  stage : Stage
  deriving DecidableEq

inductive Stray
  | acquire (issuer expiresAt : Nat)
  | release (issuer : Nat)
  deriving DecidableEq

structure World where
  clock : Nat
  installation : Installation
  replicas : List Replica
  supervisions : List Supervision
  strays : List Stray
  deriving DecidableEq

def replicaOf (replicas : List Replica) (supervision : Supervision) : Replica :=
  replicas.getD supervision.replica ⟨"", true, true, 0, none⟩

def tokenOf (replicas : List Replica) (supervision : Supervision) : String :=
  leaseToken (replicaOf replicas supervision).nodeID supervision.gen

def ended (replicas : List Replica) (supervision : Supervision) : Bool :=
  supervision.cancelled || (replicaOf replicas supervision).cancelled

def World.live (world : World) (supervision : Supervision) : Bool :=
  match supervision.stage with
  | .connected _ runCancelled _ _ => !runCancelled && !ended world.replicas supervision
  | _ => false

inductive Action
  | boot (nodeID : String)
  | shutdown (replica : Nat)
  | cancelAll (replica : Nat)
  | superviseOther (replica : Nat)
  | maybeRestartOnRotation (replica : Nat) (fingerprint : String)
  | startSupervisor (replica : Nat) (fingerprint : String)
  | reap (replica : Nat)
  | proceed (index : Nat)
  | execute (index started : Nat)
  | answer (index : Nat)
  | fail (index : Nat) (late : Bool)
  | build (index : Nat) (built : Bool)
  | tick (index : Nat)
  | leave (index : Nat) (late : Bool)
  | stray (index started : Nat)
  | administer (active : Bool)
  | wait (time : Nat)

def World.updateReplica (world : World) (index : Nat) (change : Replica → Replica) : World :=
  { world with replicas := world.replicas.modify index change }

def World.setStage (world : World) (index : Nat) (stage : Stage) : World :=
  { world with supervisions := world.supervisions.modify index fun supervision =>
      { supervision with stage := stage } }

def World.cancelEntry (world : World) (index : Nat) : World :=
  match world.replicas[index]? with
  | none => world
  | some replica =>
      match replica.entry with
      | none => world
      | some entry =>
          { world with
            replicas := world.replicas.set index { replica with entry := none }
            supervisions := world.supervisions.map fun supervision =>
              if supervision.replica = index ∧ supervision.gen = entry.gen then
                { supervision with cancelled := true }
              else supervision }

def maybeRestartOnRotation (world : World) (index : Nat) (fingerprint : String) : World :=
  match world.replicas[index]? with
  | none => world
  | some replica =>
      match replica.entry with
      | none => world
      | some entry => if entry.fingerprint = fingerprint then world else world.cancelEntry index

def startSupervisor (world : World) (index : Nat) (fingerprint : String) : World :=
  match world.replicas[index]? with
  | none => world
  | some replica =>
      if replica.stopped || replica.entry.isSome then world
      else
        let gen := replica.supervisorGen + 1
        { world with
          replicas := world.replicas.set index
            { replica with supervisorGen := gen, entry := some ⟨fingerprint, gen⟩ }
          supervisions := world.supervisions ++ [⟨index, gen, false, .looping⟩] }

def exit (world : World) (index : Nat) (supervision : Supervision) : World :=
  let left := world.setStage index .exited
  left.updateReplica supervision.replica fun replica =>
    if replica.entry.any fun entry => decide (entry.gen = supervision.gen) then
      { replica with entry := none }
    else replica

def acquireLease (config : Config) (world : World) : LeaseCall := ⟨world.clock + config.leaseTTL, none⟩

def proceed (config : Config) (world : World) (index : Nat) (supervision : Supervision) : World :=
  match supervision.stage with
  | .looping =>
      if ended world.replicas supervision then exit world index supervision
      else world.setStage index (.acquiring (acquireLease config world))
  | .sleeping =>
      if ended world.replicas supervision then exit world index supervision else world.setStage index .looping
  | _ => world

def LeaseCall.settle (call : LeaseCall) (granted : Bool) : LeaseCall := { call with outcome := some granted }

def execute (world : World) (index started : Nat) (supervision : Supervision) : World :=
  let token := tokenOf world.replicas supervision
  let granted := world.installation.admits token started
  match supervision.stage with
  | .acquiring call =>
      if call.outcome.isSome then world
      else
        { world.setStage index (.acquiring (call.settle granted)) with
          installation := world.installation.acquire token call.expiresAt started }
  | .connected expiresAt runCancelled nextTick (some call) =>
      if call.outcome.isSome then world
      else
        { world.setStage index (.connected expiresAt runCancelled nextTick (some (call.settle granted))) with
          installation := world.installation.acquire token call.expiresAt started }
  | .releasing false =>
      { world.setStage index (.releasing true) with installation := world.installation.release token }
  | _ => world

def answer (world : World) (index : Nat) (supervision : Supervision) : World :=
  match supervision.stage with
  | .acquiring ⟨expiresAt, some true⟩ => world.setStage index (.building expiresAt)
  | .acquiring ⟨_, some false⟩ => world.setStage index .sleeping
  | .connected _ runCancelled nextTick (some ⟨renewed, some true⟩) =>
      world.setStage index (.connected renewed runCancelled nextTick none)
  | .connected expiresAt _ nextTick (some ⟨_, some false⟩) =>
      world.setStage index (.connected expiresAt true nextTick none)
  | .releasing true => world.setStage index .sleeping
  | _ => world

def LeaseCall.leave (call : LeaseCall) (index : Nat) (late : Bool) : List Stray :=
  if late && call.outcome.isNone then [.acquire index call.expiresAt] else []

def fail (world : World) (index : Nat) (late : Bool) (supervision : Supervision) : World :=
  match supervision.stage with
  | .acquiring call =>
      { world.setStage index .sleeping with strays := call.leave index late ++ world.strays }
  | .connected expiresAt runCancelled nextTick (some call) =>
      { world.setStage index (.connected expiresAt runCancelled nextTick none) with
        strays := call.leave index late ++ world.strays }
  | .releasing executed =>
      { world.setStage index .sleeping with
        strays := (if late && !executed then [.release index] else []) ++ world.strays }
  | _ => world

def build (config : Config) (world : World) (index : Nat) (built : Bool) (supervision : Supervision) :
    World :=
  match supervision.stage with
  | .building expiresAt =>
      if built then
        world.setStage index (.connected expiresAt false (world.clock + config.leaseRenewInterval) none)
      else world.setStage index (.releasing false)
  | _ => world

def tick (config : Config) (world : World) (index : Nat) (supervision : Supervision) : World :=
  match supervision.stage with
  | .connected expiresAt false nextTick none =>
      if ended world.replicas supervision || decide (world.clock < nextTick) then world
      else
        world.setStage index (.connected expiresAt false (nextTick + config.leaseRenewInterval)
          (some (acquireLease config world)))
  | _ => world

/-- `Connect` returns. The run context is cancelled and a renewal under way ends with it. -/
def leave (world : World) (index : Nat) (late : Bool) (supervision : Supervision) : World :=
  match supervision.stage with
  | .connected _ _ _ renewal =>
      { world.setStage index (.releasing false) with
        strays := (renewal.toList.flatMap fun call => call.leave index late) ++ world.strays }
  | _ => world

def land (world : World) (index started : Nat) : World :=
  match world.strays[index]? with
  | none => world
  | some stray =>
      let left := { world with strays := world.strays.eraseIdx index }
      match stray with
      | .acquire issuer expiresAt =>
          match world.supervisions[issuer]? with
          | none => left
          | some supervision =>
              { left with installation :=
                  world.installation.acquire (tokenOf world.replicas supervision) expiresAt started }
      | .release issuer =>
          match world.supervisions[issuer]? with
          | none => left
          | some supervision =>
              { left with installation := world.installation.release (tokenOf world.replicas supervision) }

def World.on (world : World) (index : Nat) (act : Supervision → World) : World :=
  match world.supervisions[index]? with
  | none => world
  | some supervision => act supervision

/-- One step. The mutexed sections of a sweep (`maybeRestartOnRotation`, `startSupervisor`, `reap`) are
steps of their own, with whatever row the sweep has listed. -/
def step (config : Config) (world : World) : Action → World
  | .boot nodeID =>
      -- node ids are random, so that no two replicas share one
      if (world.replicas.map Replica.nodeID).contains nodeID then world
      else { world with replicas := world.replicas ++ [⟨nodeID, false, false, 0, none⟩] }
  | .shutdown index => world.updateReplica index fun replica => { replica with cancelled := true }
  | .cancelAll index =>
      if world.replicas[index]?.any Replica.cancelled then
        (world.cancelEntry index).updateReplica index fun replica => { replica with stopped := true }
      else world
  | .superviseOther index => world.updateReplica index fun replica =>
      { replica with supervisorGen := replica.supervisorGen + 1 }
  | .maybeRestartOnRotation index fingerprint => maybeRestartOnRotation world index fingerprint
  | .startSupervisor index fingerprint => startSupervisor world index fingerprint
  | .reap index => world.cancelEntry index
  | .proceed index => world.on index (proceed config world index)
  | .execute index started => world.on index (execute world index (min started world.clock))
  | .answer index => world.on index (answer world index)
  | .fail index late => world.on index (fail world index late)
  | .build index built => world.on index (build config world index built)
  | .tick index => world.on index (tick config world index)
  | .leave index late => world.on index (leave world index late)
  | .stray index started => land world index (min started world.clock)
  | .administer active => { world with installation := { world.installation with active := active } }
  | .wait time => { world with clock := world.clock + time }

def initial : World :=
  { clock := 0, installation := ⟨true, none⟩, replicas := [], supervisions := [], strays := [] }

end MulticaOS.Channels.Engine
