import MulticaOS.Lib.Threads
import MulticaOS.Realtime.Hub

/-!
The goroutines of a server node: what each critical section of the hub and of the relay
does to the shared state, and the steps that start and advance goroutines.
-/

namespace MulticaOS.Realtime

open ChannelLib ThreadLib

inductive Owner
  | run
  | reader (client : ClientId)
  | caller
  deriving DecidableEq

inductive Panic
  | sendOnClosedChannel
  | closeOfClosedChannel
  deriving DecidableEq

inductive Transition
  | first
  | last
  deriving DecidableEq

structure State where
  object : ClientId → Client
  clients : List ClientId
  rooms : ScopeKey → Option (List ClientId)
  callbacks : Bool
  consumers : List ScopeKey
  stopping : Bool
  cancelled : Bool
  published : List Envelope
  threads : List (Thread Owner Op)
  panicked : Option Panic
  transition : ScopeKey → Transition

def initial (callbacks : Bool) : State :=
  { object := fun _ => noClient, clients := [], rooms := fun _ => none, callbacks := callbacks,
    consumers := [], stopping := false, cancelled := false, published := [], threads := [],
    panicked := none, transition := fun _ => .last }

def State.setObject (state : State) (client : ClientId) (object : Client) : State :=
  { state with object := Function.update state.object client object }

def State.members (state : State) (key : ScopeKey) : List ClientId := (state.rooms key).getD []

def arranged {α : Type} [DecidableEq α] (order items : List α) : List α :=
  order.filter (fun item => item ∈ items) ++ items.filter fun item => item ∉ order

def Op.holdsReadLock : Op → Bool
  | .visit _ _ _ => true
  | .put _ _ _ _ => true
  | _ => false

def State.readLocked (state : State) : Bool := (operations state.threads).any Op.holdsReadLock

/-- What the run of a goroutine leaves open: the order of map walks, and whether `XADD` succeeds. -/
structure Choice where
  clients : List ClientId
  keys : List ScopeKey
  added : Bool

def enroll (state : State) (client : ClientId) : State :=
  { state.setObject client { state.object client with stage := .enrolled } with
    clients := if client ∈ state.clients then state.clients else state.clients ++ [client] }

def onFirstSubscriber (state : State) (key : ScopeKey) : List Op :=
  if state.callbacks then [.startConsumer key] else []

def onLastSubscriber (state : State) (keys : List ScopeKey) : List Op :=
  if state.callbacks then keys.map .stopConsumer else []

def subscribeLocked (state : State) (client : ClientId) (key : ScopeKey) : State × List Op :=
  let object := state.object client
  if client ∉ state.clients then (state, [])
  else if key ∈ object.subscriptions then (state, [])
  else
    let subscribed := state.setObject client
      { object with subscriptions := object.subscriptions ++ [key] }
    match state.rooms key with
    | none =>
        ({ subscribed with
            rooms := Function.update state.rooms key (some [client])
            transition := Function.update state.transition key .first },
          onFirstSubscriber state key)
    | some room =>
        ({ subscribed with rooms := Function.update state.rooms key (some (room ++ [client])) }, [])

/-- Takes the client out of the rooms of the given keys, and lists the rooms that this empties. -/
def leaveRooms (client : ClientId) : List ScopeKey → State → State × List ScopeKey
  | [], state => (state, [])
  | key :: rest, state =>
      match state.rooms key with
      | none => leaveRooms client rest state
      | some room =>
          let others := room.filter (· ≠ client)
          if others.isEmpty then
            let left := leaveRooms client rest
              { state with
                rooms := Function.update state.rooms key none
                transition := Function.update state.transition key .last }
            (left.1, key :: left.2)
          else
            leaveRooms client rest
              { state with rooms := Function.update state.rooms key (some others) }

def unsubscribeLocked (state : State) (client : ClientId) (key : ScopeKey) : State × List Op :=
  let object := state.object client
  if client ∉ state.clients then (state, [])
  else if key ∉ object.subscriptions then (state, [])
  else
    let left := leaveRooms client [key]
      (state.setObject client { object with subscriptions := object.subscriptions.filter (· ≠ key) })
    (left.1, onLastSubscriber state left.2)

def dropClient (order : List ScopeKey) (state : State) (client : ClientId) : State × List ScopeKey :=
  if client ∉ state.clients then (state, [])
  else
    let object := state.object client
    let left := leaveRooms client (arranged order object.subscriptions)
      { state with clients := state.clients.filter (· ≠ client) }
    match close object.send with
    | none => ({ left.1 with panicked := some .closeOfClosedChannel }, [])
    | some closed => (left.1.setObject client { object with subscriptions := [], send := closed }, left.2)

def dropAll (order : List ScopeKey) : List ClientId → State → State × List ScopeKey
  | [], state => (state, [])
  | client :: rest, state =>
      let dropped := dropClient order state client
      let later := dropAll order rest dropped.1
      (later.1, dropped.2 ++ later.2)

def startConsumer (state : State) (key : ScopeKey) : State :=
  if state.stopping ∨ state.cancelled then state
  else if key ∈ state.consumers then state
  else { state with consumers := state.consumers ++ [key] }

def stopConsumer (state : State) (key : ScopeKey) : State :=
  { state with consumers := state.consumers.filter (· ≠ key) }

def Fanout.audience (fan : Fanout) (state : State) : List ClientId :=
  match fan.room with
  | some key => state.members key
  | none => state.clients

def Fanout.excludes (fan : Fanout) (client : Client) : Bool :=
  fan.excludeWorkspace ≠ "" ∧ client.workspaceID = fan.excludeWorkspace

def visit (state : State) (fan : Fanout) : List ClientId → List ClientId → State × List Op
  | [], slow => (state, if slow.isEmpty then [] else [.evictSlow slow])
  | client :: remaining, slow =>
      if fan.excludes (state.object client) then (state, [.visit fan remaining slow])
      else
        match markSeen (state.object client) fan.eventID with
        | none => (state, [.visit fan remaining slow])
        | some marked => (state.setObject client marked, [.put fan client remaining slow])

def delivering (object : Client) (send : Chan Message sendCapacity) (message : Message) : Client :=
  { object with send := send, delivered := object.delivered ++ [message] }

def put (state : State) (fan : Fanout) (client : ClientId) (remaining slow : List ClientId) :
    State × List Op :=
  let message := Message.event fan.eventID fan.message
  match trySend (state.object client).send message with
  | .sent send =>
      (state.setObject client (delivering (state.object client) send message),
        [.visit fan remaining slow])
  | .full => (state, [.visit fan remaining (slow ++ [client])])
  | .panic => ({ state with panicked := some .sendOnClosedChannel }, [])

def sendJSON (state : State) (client : ClientId) (reply : Reply) : State :=
  let message := Message.reply reply
  match trySend (state.object client).send message with
  | .sent send => state.setObject client (delivering (state.object client) send message)
  | .full => state
  | .panic => { state with panicked := some .sendOnClosedChannel }

/-- One operation of a goroutine, and the operations that it leads to. A writer of the hub waits
while a fan-out reads. -/
def execute (state : State) (choice : Choice) : Op → Option (State × List Op)
  | .enroll client => if state.readLocked then none else some (enroll state client, [])
  | .subscribe client key => if state.readLocked then none else some (subscribeLocked state client key)
  | .unsubscribe client key =>
      if state.readLocked then none else some (unsubscribeLocked state client key)
  | .removeClient client =>
      if state.readLocked then none
      else
        let dropped := dropClient choice.keys state client
        some (dropped.1, onLastSubscriber state dropped.2)
  | .evictSlow slow =>
      if state.readLocked then none
      else
        let dropped := dropAll choice.keys slow state
        some (dropped.1, onLastSubscriber state dropped.2)
  | .clearCallbacks =>
      if state.readLocked then none else some ({ state with callbacks := false }, [.stopRelay])
  | .startConsumer key => some (startConsumer state key, [])
  | .stopConsumer key => some (stopConsumer state key, [])
  | .stopRelay => some ({ state with stopping := true }, [])
  | .fanout fan => some (state, [.visit fan (arranged choice.clients (fan.audience state)) []])
  | .visit fan remaining slow => some (visit state fan remaining slow)
  | .put fan client remaining slow => some (put state fan client remaining slow)
  | .sendJSON client reply => some (sendJSON state client reply, [])
  | .publish envelope =>
      some (if choice.added then { state with published := state.published ++ [envelope] } else state, [])

inductive Action
  | dial (client : ClientId) (userID workspaceID : String)
  | register (client : ClientId)
  | frame (client : ClientId) (inbound : InboundFrame) (authorization : Authorization)
  | unregister (client : ClientId)
  | writePump (client : ClientId)
  | hubBroadcast (call : Call)
  | dualWrite (id : String) (call : Call)
  | publishElsewhere (envelope : Envelope)
  | deliver (relay : Relay) (position : Nat)
  | stop
  | cancel
  | advance (index : Nat) (choice : Choice)

def State.start (state : State) (owner : Owner) (todo : List Op) : State :=
  { state with threads := spawn owner todo state.threads }

def implicitScopes (client : ClientId) (object : Client) : List Op :=
  subscribe client scopeWorkspace object.workspaceID ++
    if object.userID = "" then [] else subscribe client scopeUser object.userID

/-- The event loop and each reader do one thing at a time; a broadcast of the hub goes through the
event loop only when it is for everyone. -/
def act (state : State) : Action → State
  | .dial client userID workspaceID =>
      if (state.object client).stage = .absent then
        state.setObject client
          { noClient with userID := userID, workspaceID := workspaceID, stage := .dialed }
      else state
  | .register client =>
      let object := state.object client
      if object.stage = .dialed ∧ idle state.threads .run then
        (state.setObject client { object with stage := .handed, reading := true }).start .run
          (.enroll client :: implicitScopes client object)
      else state
  | .frame client inbound authorization =>
      let object := state.object client
      if object.reading ∧ idle state.threads (.reader client) then
        state.start (.reader client) (handleFrame client object inbound authorization)
      else state
  | .unregister client =>
      let object := state.object client
      if object.reading ∧ idle state.threads (.reader client) ∧ idle state.threads .run then
        (state.setObject client { object with reading := false }).start .run [.removeClient client]
      else state
  | .writePump client =>
      let object := state.object client
      match receive object.send with
      | some (_, send) => state.setObject client { object with send := send }
      | none => state
  | .hubBroadcast call =>
      match call with
      | .broadcast _ => if idle state.threads .run then state.start .run (hubCall "" call) else state
      | _ => state.start .caller (hubCall "" call)
  | .dualWrite id call => state.start .caller (dualWrite id call)
  | .publishElsewhere envelope => { state with published := state.published ++ [envelope] }
  | .deliver relay position =>
      match state.published[position]? with
      | some envelope => state.start .caller (deliverMessage relay envelope)
      | none => state
  | .stop => state.start .caller [.clearCallbacks]
  | .cancel => { state with cancelled := state.stopping || state.cancelled }
  | .advance index choice =>
      match current state.threads index with
      | none => state
      | some op =>
          match execute state choice op with
          | none => state
          | some (after, next) => { after with threads := proceed state.threads index next }

def step (state : State) (action : Action) : State :=
  if state.panicked.isSome then state else act state action

end MulticaOS.Realtime
