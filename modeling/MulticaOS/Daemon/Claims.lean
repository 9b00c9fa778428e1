import MulticaOS.Daemon.Calls

/-!
When a claim goes over one transport only.  Whatever the connections, the writers and the
server do, a claim that is repeated over HTTP is not on the socket, unless a success came
back with a body that the caller cannot read.
-/

namespace MulticaOS.Daemon

open ChannelLib
open RunLib

def Marked (flag : Call → Bool) (calls : List Call) (id : Nat) : Prop :=
  ∃ call, calls[id]? = some call ∧ flag call = true

structure Connection.Sound (calls : List Call) (connection : Connection) : Prop where
  queue : ∀ id, some id ∈ connection.queue → Marked Call.queued calls id
  holding : ∀ id, connection.writer = .holding (some id) → Marked Call.queued calls id
  writing : ∀ id, connection.writer = .writing (some id) → Marked (fun call => call.outbound.sent) calls id

structure Sound (client : Client) : Prop where
  calls : ∀ (id : Nat) (call : Call), client.calls[id]? = some call → call.Sound id
  connections : ∀ connection ∈ client.connections, connection.Sound client.calls
  running : client.panicked = false

def Onward (calls later : List Call) : Prop :=
  ∀ (id : Nat) (call : Call), calls[id]? = some call →
    ∃ next, later[id]? = some next ∧ call.Onward next

structure Kept (client next : Client) : Prop where
  sound : Sound next
  onward : Onward client.calls next.calls

section Clients

variable {client next : Client} {calls later : List Call} {connection : Connection} {id index : Nat}

theorem Onward.queued (onward : Onward calls later) (marked : Marked Call.queued calls id) :
    Marked Call.queued later id := by
  obtain ⟨call, found, queued⟩ := marked
  obtain ⟨next, here, moved⟩ := onward id call found
  exact ⟨next, here, moved.queued queued⟩

theorem Onward.sent (onward : Onward calls later)
    (marked : Marked (fun call => call.outbound.sent) calls id) :
    Marked (fun call => call.outbound.sent) later id := by
  obtain ⟨call, found, sent⟩ := marked
  obtain ⟨next, here, moved⟩ := onward id call found
  exact ⟨next, here, moved.sent sent⟩

theorem Connection.Sound.onward (sound : connection.Sound calls) (onward : Onward calls later) :
    connection.Sound later :=
  ⟨fun id member => onward.queued (sound.queue id member),
    fun id held => onward.queued (sound.holding id held),
    fun id writes => onward.sent (sound.writing id writes)⟩

theorem onward_append (call : Call) : Onward calls (calls ++ [call]) := fun id old found =>
  ⟨old, by rw [List.getElem?_append_left (List.getElem?_eq_some_iff.mp found).1]; exact found,
    .of_frame rfl fun _ returned => returned⟩

theorem onward_map (change : Call → Call) (each : ∀ call : Call, call.Onward (change call)) :
    Onward calls (calls.map change) := fun id call found =>
  ⟨change call, by rw [List.getElem?_map, found]; rfl, each call⟩

theorem onward_modify {change : Call → Call}
    (each : ∀ call : Call, calls[id]? = some call → call.Onward (change call)) :
    Onward calls (calls.modify id change) := by
  intro position call found
  by_cases same : id = position
  · subst same
    exact ⟨change call, by rw [List.getElem?_modify_eq, found]; rfl, each call found⟩
  · exact ⟨call, by rw [List.getElem?_modify_ne change calls same]; exact found, .of_frame rfl fun _ returned => returned⟩

theorem onward_refl : Onward calls calls := fun _ call found =>
  ⟨call, found, .of_frame rfl fun _ returned => returned⟩

theorem Onward.trans {last : List Call} (first : Onward calls later) (second : Onward later last) :
    Onward calls last := by
  intro id call found
  obtain ⟨middle, here, moved⟩ := first id call found
  obtain ⟨final, there, further⟩ := second id middle here
  exact ⟨final, there, fun was => further.queued (moved.queued was),
    fun was => further.sent (moved.sent was), fun result was =>
    further.returned result (moved.returned result was)⟩

theorem Sound.kept (sound : Sound client) : Kept client client := ⟨sound, onward_refl⟩

theorem changeCall_kept {change : Call → Call} (kept : Kept client next)
    (each : ∀ call : Call, next.calls[id]? = some call → call.Sound id →
      (change call).Sound id ∧ call.Onward (change call)) : Kept client (changeCall next id change) := by
  obtain ⟨sound, earlier⟩ := kept
  have onward : Onward next.calls (next.calls.modify id change) :=
    onward_modify fun call found => (each call found (sound.calls id call found)).2
  refine ⟨⟨?_, ?_, sound.running⟩, earlier.trans onward⟩
  · intro position call found
    have found : (next.calls.modify id change)[position]? = some call := found
    by_cases same : id = position
    · subst same
      rw [List.getElem?_modify_eq] at found
      obtain ⟨old, here, rfl⟩ := Option.map_eq_some_iff.mp found
      exact (each old here (sound.calls id old here)).1
    · rw [List.getElem?_modify_ne change next.calls same] at found
      exact sound.calls position call found
  · exact fun connection member => (sound.connections connection member).onward onward

theorem changeConnection_kept {change : Connection → Connection} (kept : Kept client next)
    (each : ∀ connection, next.connections[index]? = some connection →
      connection.Sound next.calls → (change connection).Sound next.calls) :
    Kept client (changeConnection next index change) := by
  obtain ⟨sound, earlier⟩ := kept
  refine ⟨⟨sound.calls, ?_, sound.running⟩, earlier⟩
  intro connection member
  rcases ListLib.mem_modify member with old | ⟨old, found, rfl⟩
  · exact sound.connections connection old
  · exact each old found (sound.connections old (List.mem_of_getElem? found))

theorem initial_sound : Sound initial :=
  ⟨by simp [initial], by simp [initial], rfl⟩

theorem call_kept (requireRPCV1 respBody : Bool) (sound : Sound client) :
    Kept client { client with calls := client.calls ++ [newCall requireRPCV1 respBody] } := by
  refine ⟨⟨?_, ?_, sound.running⟩, onward_append _⟩
  · intro id call found
    rcases ListLib.getElem?_append_some found with old | rfl
    · exact sound.calls id call old
    · exact newCall_sound requireRPCV1 respBody
  · exact fun connection member => (sound.connections connection member).onward (onward_append _)

theorem attach_kept (sender : Option Nat) (sound : Sound client) : Kept client (attach client sender) := by
  have onward : Onward client.calls (client.calls.map failPending) :=
    onward_map failPending fun _ => failPending_onward
  refine ⟨⟨?_, ?_, ?_⟩, onward⟩
  · intro id call found
    have found : (client.calls.map failPending)[id]? = some call := found
    rw [List.getElem?_map] at found
    obtain ⟨old, here, rfl⟩ := Option.map_eq_some_iff.mp found
    exact failPending_sound (sound.calls id old here)
  · exact fun connection member => (sound.connections connection member).onward onward
  · have once : client.calls.any closesTwice = false := by
      rw [List.any_eq_false]
      intro call member
      obtain ⟨id, found⟩ := List.mem_iff_getElem?.mp member
      intro twice
      simp only [closesTwice, Bool.and_eq_true] at twice
      rw [(sound.calls id call found).opened twice.1] at twice
      exact absurd twice.2 (by decide)
    simp only [attach, sound.running, once]
    rfl

theorem markRPCV1Supported_kept (generation : Nat) (sound : Sound client) :
    Kept client (markRPCV1Supported client generation) := by
  rw [markRPCV1Supported]
  split
  · exact ⟨⟨sound.calls, sound.connections, sound.running⟩, onward_refl⟩
  · exact sound.kept

theorem sendFrame_sound {sent : Connection} {item : Option Nat} (sound : connection.Sound calls)
    (accepted : sendFrame connection item = .ok sent)
    (queued : ∀ id, item = some id → Marked Call.queued calls id) : sent.Sound calls := by
  rw [sendFrame] at accepted
  split at accepted
  · contradiction
  · split at accepted
    · obtain rfl := Except.ok.inj accepted
      refine ⟨fun id member => ?_, sound.holding, sound.writing⟩
      rcases List.mem_append.mp member with old | new
      · exact sound.queue id old
      · exact queued id (List.mem_singleton.mp new).symm
    · contradiction

theorem send_kept (sound : Sound client) : Kept client (send client id) := by
  rw [send]
  split
  · exact sound.kept
  · rename_i call found
    split
    · rename_i index registered
      split
      · exact sound.kept
      · rename_i connection here
        split
        · rename_i error failed
          refine changeCall_kept sound.kept fun other same kept => ?_
          obtain rfl := Option.some.inj (found.symm.trans same)
          have unqueued := kept.unqueued (by rw [registered]; rfl)
          refine ⟨kept.moved rfl (Or.inl unqueued), .of_frame rfl fun result returned => ?_⟩
          rw [registered] at returned
          contradiction
        · rename_i sent accepted
          have queued : Kept client
              (changeCall client id fun call => { call with phase := .waiting, queued := true }) :=
            changeCall_kept sound.kept fun other same kept => by
              obtain rfl := Option.some.inj (found.symm.trans same)
              refine ⟨queued_sound kept, fun _ => rfl, fun was => was, fun result returned => ?_⟩
              rw [registered] at returned
              contradiction
          refine changeConnection_kept queued fun other same kept => ?_
          obtain rfl := Option.some.inj (here.symm.trans same)
          refine sendFrame_sound kept accepted fun item named => ?_
          obtain rfl := Option.some.inj named
          refine ⟨{ call with phase := .waiting, queued := true }, ?_, rfl⟩
          simp [changeCall, found]
    · exact sound.kept

theorem heartbeat_sound (sound : connection.Sound calls) : (heartbeat connection).Sound calls := by
  rw [heartbeat]
  split
  · refine ⟨fun id member => sound.queue id ?_, sound.holding, sound.writing⟩
    simpa using member
  · exact sound

theorem take_sound (sound : connection.Sound calls) : (take connection).Sound calls := by
  rw [take]
  split
  · rename_i item rest stored idle
    refine ⟨fun id member => sound.queue id ?_, ?_, nofun⟩
    · rw [stored]
      exact List.mem_cons_of_mem item member
    · intro id held
      have same : item = some id := by simpa using held
      exact sound.queue id (by rw [stored, same]; exact List.mem_cons_self)
  · rename_i item rest stored draining
    refine ⟨fun id member => sound.queue id ?_, sound.holding, sound.writing⟩
    rw [stored]
    exact List.mem_cons_of_mem item member
  · exact sound

theorem begin_kept (sound : Sound client) : Kept client (begin client index) := by
  rw [begin]
  split
  · rename_i capacity queue sendClosed id held
    split
    · exact sound.kept
    · rename_i call found
      obtain ⟨other, same, queued⟩ := (sound.connections _ (List.mem_of_getElem? held)).holding id rfl
      obtain rfl := Option.some.inj (found.symm.trans same)
      have begun : Kept client
          (changeCall client id fun old => { old with outbound := call.outbound.beginWrite.2 }) := by
        refine changeCall_kept sound.kept fun other same kept => ?_
        obtain rfl := Option.some.inj (found.symm.trans same)
        exact ⟨begun_sound kept queued, beginWrite_onward⟩
      refine changeConnection_kept begun fun connection _ kept => ?_
      refine ⟨kept.queue, ?_, ?_⟩
      · intro item
        split
        · exact nofun
        · exact nofun
      · intro item
        split
        · rename_i begins
          intro writes
          obtain rfl := Option.some.inj (Writer.writing.inj writes)
          refine ⟨{ call with outbound := call.outbound.beginWrite.2 }, ?_, beginWrite_sent _ begins⟩
          simp [changeCall, found]
        · exact nofun
  · exact changeConnection_kept sound.kept fun connection _ kept => ⟨kept.queue, nofun, nofun⟩
  · exact sound.kept

theorem write_kept (succeeds : Bool) (sound : Sound client) : Kept client (write client index succeeds) := by
  rw [write]
  split
  · rename_i capacity queue sendClosed item writing
    have moved : Kept client (changeConnection client index fun connection =>
        { connection with writer := if succeeds then .idle else .draining }) := by
      refine changeConnection_kept sound.kept fun connection _ kept => ⟨kept.queue, ?_, ?_⟩
      · cases succeeds
        · exact nofun
        · exact nofun
      · cases succeeds
        · exact nofun
        · exact nofun
    cases item with
    | none => exact moved
    | some id =>
        obtain ⟨call, found, sent⟩ := (sound.connections _ (List.mem_of_getElem? writing)).writing id rfl
        refine changeCall_kept moved fun other same kept => ?_
        obtain rfl := Option.some.inj (found.symm.trans same)
        exact ⟨written_sound kept sent, fun queued => queued, fun was => was, fun _ returned => returned⟩
  · exact sound.kept

theorem deliver_kept (response : RPCResponsePayload) (sound : Sound client) :
    Kept client (deliver client response) := by
  rw [deliver]
  split
  · exact sound.kept
  · rename_i call found
    split
    · rename_i pending
      split
      · rename_i channel sent
        refine changeCall_kept sound.kept fun other same kept => ?_
        obtain rfl := Option.some.inj (found.symm.trans same)
        exact ⟨delivered_sound kept rfl sent, .of_frame rfl fun _ returned => returned⟩
      · exact sound.kept
      · rename_i panics
        have opened := (sound.calls _ call found).opened pending
        rw [trySend_panic.mp panics] at opened
        contradiction
    · exact sound.kept

end Clients

section Steps

variable (decodes : String → Bool) {client : Client}

def Decoded (client : Client) : Action → Prop
  | .receive id => ∀ call ∈ client.calls[id]?, Decodes decodes call
  | _ => True

theorem step_kept (action : Action) (sound : Sound client) (decoded : Decoded decodes client action) :
    Kept client (step decodes client action) := by
  cases action with
  | call requireRPCV1 respBody => exact call_kept requireRPCV1 respBody sound
  | capture id marshals =>
      exact changeCall_kept sound.kept fun call _ kept =>
        ⟨capture_sound client marshals kept, capture_onward client marshals⟩
  | send id => exact send_kept sound
  | receive id =>
      exact changeCall_kept sound.kept fun call found kept =>
        ⟨receive_sound kept (decoded call found), receive_onward decodes⟩
  | timeOut id => exact changeCall_kept sound.kept fun call _ kept => ⟨timeOut_sound kept, timeOut_onward⟩
  | cancelContext id =>
      exact changeCall_kept sound.kept fun call _ kept => ⟨cancelContext_sound kept, .of_frame rfl fun _ returned => returned⟩
  | contextDone id =>
      exact changeCall_kept sound.kept fun call _ kept => ⟨contextDone_sound kept, contextDone_onward⟩
  | giveUp id => exact changeCall_kept sound.kept fun call _ kept => ⟨giveUp_sound kept, giveUp_onward⟩
  | cleanUp id => exact changeCall_kept sound.kept fun call _ kept => ⟨cleanUp_sound kept, cleanUp_onward⟩
  | attach capacity =>
      have dialled : Sound { client with
          connections := client.connections ++ [⟨capacity, [], false, .idle⟩] } := by
        refine ⟨sound.calls, fun connection member => ?_, sound.running⟩
        rcases List.mem_append.mp member with old | new
        · exact sound.connections connection old
        · obtain rfl := List.mem_singleton.mp new
          exact ⟨nofun, nofun, nofun⟩
      have attached := attach_kept (some client.connections.length) dialled
      exact ⟨attached.sound, attached.onward⟩
  | detach => exact attach_kept none sound
  | markRPCV1Supported generation => exact markRPCV1Supported_kept generation sound
  | closeSend index =>
      exact changeConnection_kept sound.kept fun connection _ kept => ⟨kept.queue, kept.holding, kept.writing⟩
  | heartbeat index => exact changeConnection_kept sound.kept fun connection _ kept => heartbeat_sound kept
  | take index => exact changeConnection_kept sound.kept fun connection _ kept => take_sound kept
  | begin index => exact begin_kept sound
  | write index succeeds => exact write_kept succeeds sound
  | deliver response => exact deliver_kept response sound

theorem run_onward {actions : List Action} (sound : Sound client)
    (decoded : Every (step decodes) (Decoded decodes) client actions) :
    Onward client.calls (run (step decodes) client actions).calls := by
  induction actions generalizing client with
  | nil => exact onward_refl
  | cons action rest ih =>
      have kept := step_kept decodes action sound decoded.1
      exact kept.onward.trans (ih kept.sound decoded.2)

def Answered (client : Client) : Prop :=
  client.panicked = false ∧ ∀ (id : Nat) (call : Call), client.calls[id]? = some call →
    ∀ result, call.phase = .returned result → ∀ response ∈ result.response?, response.requestId = id

def OnSocket (client : Client) (id : Nat) : Prop :=
  Marked (fun call => call.outbound.written) client.calls id

def OverOneTransport (actions : List Action) : Prop :=
  ∀ front back, actions = front ++ back → ∀ (id : Nat) (call : Call),
    (run (step decodes) initial front).calls[id]? = some call → call.cancelledContext = false →
    ∀ result, call.phase = .returned result → claimTasksWSFirst result = .http →
      ¬OnSocket (run (step decodes) initial actions) id ∨ Refused id result

theorem overOneTransport_of_decoded {actions : List Action}
    (decoded : Every (step decodes) (Decoded decodes) initial actions) :
    OverOneTransport decodes actions := by
  rintro front back rfl id call found uncancelled result returned http
  obtain ⟨before, after⟩ := every_append.mp decoded
  have sound := (always_of_invariant initial_sound
    (fun _ action sound allowed => (step_kept decodes action sound allowed).sound) before).last
  have whole := (always_of_invariant initial_sound
    (fun _ action sound allowed => (step_kept decodes action sound allowed).sound) decoded).last
  obtain ⟨later, here, onward⟩ := run_onward decodes sound after id call found
  have other : result ≠ .failed .contextDone := by
    rintro rfl
    have cancelled := (sound.calls id call found).safe.cancelled returned
    rw [uncancelled] at cancelled
    contradiction
  rw [← run_append] at here
  rcases (whole.calls id later here).safe.once result (onward.returned result returned) http other with
    unwritten | refused
  · left
    rintro ⟨same, there, written⟩
    obtain rfl := Option.some.inj (here.symm.trans there)
    exact absurd (unwritten.symm.trans written) (by decide)
  · exact Or.inr refused

/-- Whatever the steps of the calls, the writers, the connections and the server, in a run where
every success that is taken can be read. -/
theorem claims_over_one_transport (actions : List Action)
    (decoded : Every (step decodes) (Decoded decodes) initial actions) :
    Always (step decodes) Answered initial actions ∧ OverOneTransport decodes actions := by
  refine ⟨?_, overOneTransport_of_decoded decodes decoded⟩
  have sound := always_of_invariant initial_sound
    (fun _ action sound allowed => (step_kept decodes action sound allowed).sound) decoded
  exact sound.mono fun client sound =>
    ⟨sound.running, fun id call found => (sound.calls id call found).safe.own⟩

end Steps

instance (decodes : String → Bool) (client : Client) : DecidablePred (Decoded decodes client) := fun action => by
  cases action <;> (unfold Decoded; infer_instance)

def answered (body : String) : List Action :=
  [.attach 16, .call false true, .capture 0 true, .send 0, .take 0, .begin 0, .write 0 true,
    .deliver ⟨0, 200, body, ""⟩, .receive 0, .cleanUp 0]

theorem claims_over_one_transport_timedOut :
    OverOneTransport (fun body => body ≠ "[]")
      [.attach 16, .call false true, .capture 0 true, .send 0, .timeOut 0, .giveUp 0, .take 0, .begin 0,
        .write 0 true, .cleanUp 0] :=
  (claims_over_one_transport _ _ (by decide)).2

theorem claim_repeated_unreadableBody : ¬OverOneTransport (fun body => body ≠ "[]") (answered "[]") := by
  intro single
  have onSocket : OnSocket (run (step fun body => body ≠ "[]") initial (answered "[]")) 0 := ⟨_, rfl, rfl⟩
  rcases single (answered "[]") [] rfl 0 _ rfl rfl (.failed (.decode ⟨0, 200, "[]", ""⟩)) rfl rfl with
    unsent | ⟨response, message, same, -⟩
  · exact unsent onSocket
  · exact CallError.noConfusion (Result.failed.inj same)

end MulticaOS.Daemon
