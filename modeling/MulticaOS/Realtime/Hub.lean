import MulticaOS.Lib.Channels
import MulticaOS.Lib.Windows

/-!
The realtime hub of one server node: its clients and rooms, the frames that it sends and
reads, and the operations that its critical sections carry out.
-/

namespace MulticaOS.Realtime

open ChannelLib

structure ScopeKey where
  type : String
  id : String
  deriving DecidableEq

abbrev ClientId := Nat

def scopeWorkspace : String := "workspace"
def scopeUser : String := "user"
def scopeTask : String := "task"
def scopeChat : String := "chat"
def scopeDaemonRuntime : String := "daemon_runtime"

inductive Frame
  | text (bytes : String)
  | object (fields : List (String × String))
  deriving DecidableEq

def injectEventID (frame : Frame) (eventID : String) : Frame :=
  match frame with
  | .text bytes => .text bytes
  | .object fields =>
      if eventID = "" ∨ fields.any fun field => field.1 = "event_id" then .object fields
      else .object (fields ++ [("event_id", eventID)])

structure Reply where
  type : String
  payload : List (String × String)
  deriving DecidableEq

/-- What goes into a client's send channel. An event carries the key it is deduplicated by. -/
inductive Message
  | event (eventID : String) (frame : Frame)
  | reply (reply : Reply)
  deriving DecidableEq

inductive Stage
  | absent
  | dialed
  | handed
  | enrolled
  deriving DecidableEq

def sendCapacity : Nat := 256

def dedupCapacity : Nat := 128

/-- A connection. `stage`, `accepted` and `delivered` are history: how far its registration has
come, the events its filter let through and everything put on its send channel. -/
structure Client where
  userID : String
  workspaceID : String
  subscriptions : List ScopeKey
  send : Chan Message sendCapacity
  seenIDs : List String
  seenList : List String
  reading : Bool
  stage : Stage
  accepted : List String
  delivered : List Message

def noClient : Client :=
  { userID := "", workspaceID := "", subscriptions := [], send := ChannelLib.empty, seenIDs := [],
    seenList := [], reading := false, stage := .absent, accepted := [], delivered := [] }

def markSeen (client : Client) (eventID : String) : Option Client :=
  if eventID = "" then some client
  else if eventID ∈ client.seenIDs then none
  else
    let seenIDs := client.seenIDs ++ [eventID]
    let seenList := client.seenList ++ [eventID]
    let accepted := client.accepted ++ [eventID]
    if dedupCapacity < seenList.length then
      some { client with
        seenIDs := match seenList.head? with
          | some drop => seenIDs.erase drop
          | none => seenIDs
        seenList := seenList.tail
        accepted := accepted }
    else some { client with seenIDs := seenIDs, seenList := seenList, accepted := accepted }

structure Fanout where
  room : Option ScopeKey
  excludeWorkspace : String
  message : Frame
  eventID : String
  deriving DecidableEq

structure Envelope where
  eventID : String
  scope : String
  scopeID : String
  workspaceID : String
  payload : Frame
  deriving DecidableEq

/-- What is left to do of a call. Each is one critical section or one channel operation. -/
inductive Op
  | enroll (client : ClientId)
  | subscribe (client : ClientId) (key : ScopeKey)
  | unsubscribe (client : ClientId) (key : ScopeKey)
  | removeClient (client : ClientId)
  | evictSlow (slow : List ClientId)
  | clearCallbacks
  | startConsumer (key : ScopeKey)
  | stopConsumer (key : ScopeKey)
  | stopRelay
  | fanout (fan : Fanout)
  | visit (fan : Fanout) (remaining slow : List ClientId)
  | put (fan : Fanout) (client : ClientId) (remaining slow : List ClientId)
  | sendJSON (client : ClientId) (reply : Reply)
  | publish (envelope : Envelope)
  deriving DecidableEq

def subscribe (client : ClientId) (scopeType scopeID : String) : List Op :=
  if scopeType = "" ∨ scopeID = "" then [] else [.subscribe client ⟨scopeType, scopeID⟩]

def unsubscribe (client : ClientId) (scopeType scopeID : String) : List Op :=
  if scopeType = "" ∨ scopeID = "" then [] else [.unsubscribe client ⟨scopeType, scopeID⟩]

def broadcastToScopeDedup (scopeType scopeID : String) (message : Frame) (eventID : String) : List Op :=
  if scopeType = "" ∨ scopeID = "" then []
  else [.fanout ⟨some ⟨scopeType, scopeID⟩, "", message, eventID⟩]

def fanoutAllDedup (message : Frame) (excludeWorkspace eventID : String) : List Op :=
  [.fanout ⟨none, excludeWorkspace, message, eventID⟩]

def fanoutUser (userID : String) (message : Frame) (excludeWorkspace eventID : String) : List Op :=
  [.fanout ⟨some ⟨scopeUser, userID⟩, excludeWorkspace, message, eventID⟩]

inductive Call
  | broadcastToScope (scopeType scopeID : String) (message : Frame)
  | sendToUser (userID : String) (message : Frame) (excludeWorkspace : String)
  | broadcast (message : Frame)
  deriving DecidableEq

def hubCall (eventID : String) : Call → List Op
  | .broadcastToScope scopeType scopeID message =>
      broadcastToScopeDedup scopeType scopeID message eventID
  | .sendToUser userID message excludeWorkspace =>
      fanoutUser userID message excludeWorkspace eventID
  | .broadcast message => fanoutAllDedup message "" eventID

/-- The local fan-out of the stamped frame, then the write of the original one to the stream. -/
def dualWrite (id : String) : Call → List Op
  | .broadcastToScope scopeType scopeID message =>
      broadcastToScopeDedup scopeType scopeID (injectEventID message id) id ++
        [.publish ⟨id, scopeType, scopeID, "", message⟩]
  | .sendToUser userID message excludeWorkspace =>
      fanoutUser userID (injectEventID message id) excludeWorkspace id ++
        [.publish ⟨id, scopeUser, userID, excludeWorkspace, message⟩]
  | .broadcast message =>
      fanoutAllDedup (injectEventID message id) "" id ++ [.publish ⟨id, "global", "all", "", message⟩]

def deliverEnvelope (envelope : Envelope) : List Op :=
  if envelope.payload = .text "" then []
  else
    let frame := injectEventID envelope.payload envelope.eventID
    if envelope.scope = scopeDaemonRuntime then []
    else if envelope.scope = "global" then fanoutAllDedup frame "" envelope.eventID
    else if envelope.scope = scopeUser then
      fanoutUser envelope.scopeID frame envelope.workspaceID envelope.eventID
    else broadcastToScopeDedup envelope.scope envelope.scopeID frame envelope.eventID

/-- The two relays: one stream for each scope, or a fixed number of shards. -/
inductive Relay
  | redis (scopeType scopeID : String)
  | shardedStream
  deriving DecidableEq

def deliverMessage (relay : Relay) (envelope : Envelope) : List Op :=
  match relay with
  | .redis scopeType scopeID =>
      deliverEnvelope { envelope with
        scope := if envelope.scope = "" then scopeType else envelope.scope
        scopeID := if envelope.scopeID = "" then scopeID else envelope.scopeID }
  | .shardedStream =>
      if envelope.scope = "" ∨ envelope.scopeID = "" then [] else deliverEnvelope envelope

/-- An inbound frame after decoding: `payload` is what its fields decode to, and whether that
succeeded. -/
inductive InboundFrame
  | invalid
  | decoded (type : String) (scope id : String) (valid : Bool)
  deriving DecidableEq

inductive Authorization
  | unset
  | lookupFailed
  | denied
  | allowed
  deriving DecidableEq

def subscribeError (scope id error : String) : Reply :=
  ⟨"subscribe_error", [("scope", scope), ("id", id), ("error", error)]⟩

def handleSubscribe (client : ClientId) (identity : Client) (scope id : String)
    (authorization : Authorization) : List Op :=
  let acknowledge : Op := .sendJSON client ⟨"subscribe_ack", [("scope", scope), ("id", id)]⟩
  if scope = scopeWorkspace ∨ scope = scopeUser then
    if scope = scopeWorkspace ∧ id ≠ identity.workspaceID ∨ scope = scopeUser ∧ id ≠ identity.userID then
      [.sendJSON client (subscribeError scope id "forbidden")]
    else subscribe client scope id ++ [acknowledge]
  else if scope = scopeTask ∨ scope = scopeChat then
    match authorization with
    | .lookupFailed => [.sendJSON client (subscribeError scope id "lookup_failed")]
    | .denied => [.sendJSON client (subscribeError scope id "forbidden")]
    | .unset | .allowed => subscribe client scope id ++ [acknowledge]
  else [.sendJSON client (subscribeError scope id "unknown_scope")]

def handleUnsubscribe (client : ClientId) (scope id : String) : List Op :=
  unsubscribe client scope id ++ [.sendJSON client ⟨"unsubscribe_ack", [("scope", scope), ("id", id)]⟩]

def handleFrame (client : ClientId) (identity : Client) (frame : InboundFrame)
    (authorization : Authorization) : List Op :=
  match frame with
  | .invalid => []
  | .decoded type scope id valid =>
      if type = "subscribe" ∨ type = "unsubscribe" then
        if valid = false ∨ scope = "" ∨ id = "" then
          [.sendJSON client
            ⟨type ++ "_error", [("scope", scope), ("id", id), ("error", "invalid payload")]⟩]
        else if type = "subscribe" then handleSubscribe client identity scope id authorization
        else handleUnsubscribe client scope id
      else if type = "ping" then [.sendJSON client ⟨"pong", []⟩]
      else []

end MulticaOS.Realtime
