import MulticaOS.Lib.Channels
import MulticaOS.Lib.Lists
import MulticaOS.Lib.Runs

/-!
The daemon's requests over its WebSocket connection, translated from `wsrpc.go` and the
sender and writer of `wakeup.go`.  A call is named by its request id.  Each critical
section and each channel operation is one action; whether a response body fits the
caller's type is the parameter `decodes`.
-/

namespace MulticaOS.Daemon

open ChannelLib

structure RPCResponsePayload where
  requestId : Nat
  status : Int
  body : String
  error : String
  deriving DecidableEq

/-- `wsOutbound`; `written` says that the writer has handed the frame to the socket. -/
structure Outbound where
  sent : Bool
  canceled : Bool
  written : Bool
  deriving DecidableEq

def Outbound.beginWrite (outbound : Outbound) : Bool × Outbound :=
  if outbound.canceled then (false, outbound) else (true, { outbound with sent := true })

def Outbound.cancel (outbound : Outbound) : Bool × Outbound :=
  if outbound.sent then (false, outbound) else (true, { outbound with canceled := true })

inductive SendError where
  | unavailable
  | writeBufferFull
  deriving DecidableEq

inductive CallError where
  | marshal
  | unavailable
  | send (error : SendError)
  | uncertain
  | timeout
  | decode (response : RPCResponsePayload)
  | refused (response : RPCResponsePayload) (message : String)
  | contextDone
  deriving DecidableEq

inductive Result where
  | ok (response : RPCResponsePayload)
  | failed (error : CallError)
  deriving DecidableEq

inductive GivenUp where
  | detached
  | timedOut
  | contextDone
  deriving DecidableEq

inductive Phase where
  | starting
  | registered (connection : Nat)
  | waiting
  | givingUp (why : GivenUp)
  | finishing (result : Result)
  | returned (result : Result)
  deriving DecidableEq

/-- A call of the client; `pending` says that its request id is in the map, `queued` that its
frame has been put on a write queue. -/
structure Call where
  phase : Phase
  requireRPCV1 : Bool
  respBody : Bool
  pending : Bool
  channel : Chan RPCResponsePayload 1
  outbound : Outbound
  queued : Bool
  cancelledContext : Bool

inductive Writer where
  | idle
  | holding (item : Option Nat)
  | writing (item : Option Nat)
  | draining
  deriving DecidableEq

/-- An item of the write queue is the frame of a call, or `none` for a heartbeat. -/
structure Connection where
  capacity : Nat
  queue : List (Option Nat)
  sendClosed : Bool
  writer : Writer

structure Client where
  calls : List Call
  connections : List Connection
  sendFrame : Option Nat
  rpcV1Supported : Bool
  generation : Nat
  panicked : Bool

def initial : Client := ⟨[], [], none, false, 0, false⟩

def changeCall (client : Client) (id : Nat) (change : Call → Call) : Client :=
  { client with calls := client.calls.modify id change }

def changeConnection (client : Client) (index : Nat) (change : Connection → Connection) : Client :=
  { client with connections := client.connections.modify index change }

def newCall (requireRPCV1 respBody : Bool) : Call :=
  ⟨.starting, requireRPCV1, respBody, false, empty, ⟨false, false, false⟩, false, false⟩

def finish (result : Result) (call : Call) : Call := { call with phase := .finishing result }

def closesTwice (call : Call) : Bool := call.pending && call.channel.closed

def failPending (call : Call) : Call :=
  if call.pending then
    { call with channel := { call.channel with closed := true }, pending := false }
  else call

def attach (client : Client) (sendFrame : Option Nat) : Client :=
  { client with
    calls := client.calls.map failPending
    sendFrame := sendFrame
    rpcV1Supported := false
    generation := client.generation + 1
    panicked := client.panicked || client.calls.any closesTwice }

def markRPCV1Supported (client : Client) (generation : Nat) : Client :=
  if client.sendFrame.isSome ∧ client.generation = generation then
    { client with rpcV1Supported := true }
  else client

def capture (client : Client) (marshals : Bool) (call : Call) : Call :=
  match call.phase with
  | .starting =>
      if !marshals then { call with phase := .returned (.failed .marshal) }
      else
        match client.sendFrame with
        | none => { call with phase := .returned (.failed .unavailable) }
        | some connection =>
            if call.requireRPCV1 && !client.rpcV1Supported then
              { call with phase := .returned (.failed .unavailable) }
            else { call with phase := .registered connection, pending := true }
  | _ => call

def sendFrame (connection : Connection) (item : Option Nat) : Except SendError Connection :=
  if connection.sendClosed then .error .unavailable
  else if connection.queue.length < connection.capacity then
    .ok { connection with queue := connection.queue ++ [item] }
  else .error .writeBufferFull

def send (client : Client) (id : Nat) : Client :=
  match client.calls[id]? with
  | none => client
  | some call =>
      match call.phase with
      | .registered index =>
          match client.connections[index]? with
          | none => client
          | some connection =>
              match sendFrame connection (some id) with
              | .error error => changeCall client id (finish (.failed (.send error)))
              | .ok sent =>
                  changeConnection
                    (changeCall client id fun call => { call with phase := .waiting, queued := true })
                    index fun _ => sent
      | _ => client

def succeeded (response : RPCResponsePayload) : Bool := 200 ≤ response.status && response.status < 300

def refusal (response : RPCResponsePayload) : String :=
  if response.error = "" then "ws rpc status " ++ toString response.status else response.error

def respond (decodes : String → Bool) (call : Call) (response : RPCResponsePayload) : Result :=
  if succeeded response then
    if call.respBody && response.body ≠ "" && !decodes response.body then .failed (.decode response)
    else .ok response
  else .failed (.refused response (refusal response))

def receive (decodes : String → Bool) (call : Call) : Call :=
  match call.phase with
  | .waiting =>
      match ChannelLib.receive call.channel with
      | some (response, rest) => finish (respond decodes call response) { call with channel := rest }
      | none => if call.channel.closed then { call with phase := .givingUp .detached } else call
  | _ => call

def timeOut (call : Call) : Call :=
  match call.phase with
  | .waiting => { call with phase := .givingUp .timedOut }
  | _ => call

def contextDone (call : Call) : Call :=
  match call.phase with
  | .waiting => if call.cancelledContext then { call with phase := .givingUp .contextDone } else call
  | _ => call

def givenUp : GivenUp → Bool → CallError
  | .detached, canceled => if canceled then .unavailable else .uncertain
  | .timedOut, canceled => if canceled then .timeout else .uncertain
  | .contextDone, _ => .contextDone

def giveUp (call : Call) : Call :=
  match call.phase with
  | .givingUp why =>
      let cancelled := call.outbound.cancel
      finish (.failed (givenUp why cancelled.1)) { call with outbound := cancelled.2 }
  | _ => call

def cleanUp (call : Call) : Call :=
  match call.phase with
  | .finishing result => { call with phase := .returned result, pending := false }
  | _ => call

def deliver (client : Client) (response : RPCResponsePayload) : Client :=
  match client.calls[response.requestId]? with
  | none => client
  | some call =>
      if call.pending then
        match trySend call.channel response with
        | .sent channel => changeCall client response.requestId fun call => { call with channel := channel }
        | .full => client
        | .panic => { client with panicked := true }
      else client

def take (connection : Connection) : Connection :=
  match connection.queue, connection.writer with
  | item :: rest, .idle => { connection with queue := rest, writer := .holding item }
  | _ :: rest, .draining => { connection with queue := rest }
  | _, _ => connection

def begin (client : Client) (index : Nat) : Client :=
  match client.connections[index]? with
  | some { writer := .holding (some id), .. } =>
      match client.calls[id]? with
      | none => client
      | some call =>
          let begun := call.outbound.beginWrite
          changeConnection (changeCall client id fun call => { call with outbound := begun.2 }) index
            fun connection =>
              { connection with writer := if begun.1 then .writing (some id) else .idle }
  | some { writer := .holding none, .. } =>
      changeConnection client index fun connection => { connection with writer := .writing none }
  | _ => client

def write (client : Client) (index : Nat) (succeeds : Bool) : Client :=
  match client.connections[index]? with
  | some { writer := .writing item, .. } =>
      let written := changeConnection client index fun connection =>
        { connection with writer := if succeeds then .idle else .draining }
      match item with
      | none => written
      | some id => changeCall written id fun call =>
          { call with outbound := { call.outbound with written := true } }
  | _ => client

def heartbeat (connection : Connection) : Connection :=
  if connection.queue.length < connection.capacity then
    { connection with queue := connection.queue ++ [none] }
  else connection

inductive Action where
  | call (requireRPCV1 respBody : Bool)
  | capture (id : Nat) (marshals : Bool)
  | send (id : Nat)
  | receive (id : Nat)
  | timeOut (id : Nat)
  | cancelContext (id : Nat)
  | contextDone (id : Nat)
  | giveUp (id : Nat)
  | cleanUp (id : Nat)
  | attach (capacity : Nat)
  | detach
  | markRPCV1Supported (generation : Nat)
  | closeSend (connection : Nat)
  | heartbeat (connection : Nat)
  | take (connection : Nat)
  | begin (connection : Nat)
  | write (connection : Nat) (succeeds : Bool)
  | deliver (response : RPCResponsePayload)
  deriving DecidableEq

def step (decodes : String → Bool) (client : Client) : Action → Client
  | .call requireRPCV1 respBody =>
      { client with calls := client.calls ++ [newCall requireRPCV1 respBody] }
  | .capture id marshals => changeCall client id (capture client marshals)
  | .send id => send client id
  | .receive id => changeCall client id (receive decodes)
  | .timeOut id => changeCall client id timeOut
  | .cancelContext id => changeCall client id fun call => { call with cancelledContext := true }
  | .contextDone id => changeCall client id contextDone
  | .giveUp id => changeCall client id giveUp
  | .cleanUp id => changeCall client id cleanUp
  | .attach capacity =>
      attach { client with connections := client.connections ++ [⟨capacity, [], false, .idle⟩] }
        (some client.connections.length)
  | .detach => attach client none
  | .markRPCV1Supported generation => markRPCV1Supported client generation
  | .closeSend index => changeConnection client index fun connection =>
      { connection with sendClosed := true }
  | .heartbeat index => changeConnection client index heartbeat
  | .take index => changeConnection client index take
  | .begin index => begin client index
  | .write index succeeds => write client index succeeds
  | .deliver response => deliver client response

inductive Claim where
  | tasks (response : RPCResponsePayload)
  | skipped
  | http
  deriving DecidableEq

def claimTasksWSFirst : Result → Claim
  | .ok response => .tasks response
  | .failed error => if error = .uncertain then .skipped else .http

end MulticaOS.Daemon
