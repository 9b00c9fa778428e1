import MulticaOS.Daemon.Requests

/-!
What the calls of a client keep.  A frame that is cancelled or was never queued stays off
the socket; a channel in the map is open, and carries answers to its own request only.
-/

namespace MulticaOS.Daemon

open ChannelLib

def Unsendable (call : Call) : Prop := call.queued = false ∨ call.outbound.canceled = true

def Phase.beforeSend : Phase → Bool
  | .starting => true
  | .registered _ => true
  | _ => false

def Result.Fits (id : Nat) (call : Call) : Result → Prop
  | .ok response => response.requestId = id
  | .failed (.refused response _) => response.requestId = id ∧ succeeded response = false
  | .failed (.decode _) => False
  | .failed .contextDone => call.cancelledContext = true
  | .failed .uncertain => True
  | .failed _ => Unsendable call

def Phase.Fits (id : Nat) (call : Call) : Phase → Prop
  | .finishing result => result.Fits id call
  | .returned result => result.Fits id call
  | .givingUp .contextDone => call.cancelledContext = true
  | _ => True

structure Call.Sound (id : Nat) (call : Call) : Prop where
  sentQueued : call.outbound.sent = true → call.queued = true
  writtenSent : call.outbound.written = true → call.outbound.sent = true
  exclusive : call.outbound.sent = true → call.outbound.canceled = false
  unqueued : call.phase.beforeSend = true → call.queued = false
  fresh : call.phase = .starting → call.pending = false ∧ call.channel.closed = false
  answers : ∀ response ∈ call.channel.buffer, response.requestId = id
  opened : call.pending = true → call.channel.closed = false
  fits : call.phase.Fits id call

def Result.response? : Result → Option RPCResponsePayload
  | .ok response => some response
  | .failed (.refused response _) => some response
  | .failed (.decode response) => some response
  | _ => none

def Refused (id : Nat) (result : Result) : Prop :=
  ∃ response message, result = .failed (.refused response message) ∧ response.requestId = id ∧
    succeeded response = false

structure Call.Safe (id : Nat) (call : Call) : Prop where
  own : ∀ result, call.phase = .returned result →
    ∀ response ∈ result.response?, response.requestId = id
  cancelled : call.phase = .returned (.failed .contextDone) → call.cancelledContext = true
  once : ∀ result, call.phase = .returned result → claimTasksWSFirst result = .http →
    result ≠ .failed .contextDone → call.outbound.written = false ∨ Refused id result

section Calls

variable {id : Nat} {call : Call}

theorem newCall_sound (requireRPCV1 respBody : Bool) : (newCall requireRPCV1 respBody).Sound id := by
  constructor <;> simp [newCall, empty, Phase.Fits]

theorem Call.Sound.unwritten (sound : call.Sound id) (unsendable : Unsendable call) :
    call.outbound.written = false := by
  by_contra written
  have sent := sound.writtenSent (by simpa using written)
  rcases unsendable with unqueued | canceled
  · rw [sound.sentQueued sent] at unqueued
    contradiction
  · rw [sound.exclusive sent] at canceled
    contradiction

theorem Call.Sound.safe (sound : call.Sound id) : call.Safe id := by
  have fits := sound.fits
  constructor
  · intro result returned response carried
    rw [returned] at fits
    cases result with
    | ok other =>
        obtain rfl := Option.some.inj carried
        exact fits
    | failed error =>
        cases error with
        | refused other message =>
            obtain rfl := Option.some.inj carried
            exact fits.1
        | decode other => exact fits.elim
        | _ => contradiction
  · intro returned
    rw [returned] at fits
    exact fits
  · intro result returned http other
    rw [returned] at fits
    cases result with
    | ok response => contradiction
    | failed error =>
        cases error with
        | refused response message => exact Or.inr ⟨response, message, rfl, fits⟩
        | uncertain => contradiction
        | decode response => exact fits.elim
        | contextDone => contradiction
        | marshal => exact Or.inl (sound.unwritten fits)
        | unavailable => exact Or.inl (sound.unwritten fits)
        | send error => exact Or.inl (sound.unwritten fits)
        | timeout => exact Or.inl (sound.unwritten fits)

theorem Result.Fits.transfer {result : Result} {other : Call} (fits : result.Fits id call)
    (queued : other.queued = call.queued) (canceled : call.outbound.canceled = true →
      other.outbound.canceled = true)
    (context : call.cancelledContext = true → other.cancelledContext = true) : result.Fits id other := by
  have unsendable : Unsendable call → Unsendable other := by
    rintro (unqueued | cancelled)
    · exact Or.inl (queued.trans unqueued)
    · exact Or.inr (canceled cancelled)
  cases result with
  | ok response => exact fits
  | failed error =>
      cases error with
      | contextDone => exact context fits
      | refused response message => exact fits
      | uncertain => trivial
      | decode response => exact fits
      | marshal => exact unsendable fits
      | unavailable => exact unsendable fits
      | send error => exact unsendable fits
      | timeout => exact unsendable fits

theorem Phase.Fits.transfer {phase : Phase} {other : Call} (fits : phase.Fits id call)
    (queued : other.queued = call.queued) (canceled : call.outbound.canceled = true →
      other.outbound.canceled = true)
    (context : call.cancelledContext = true → other.cancelledContext = true) : phase.Fits id other := by
  cases phase with
  | finishing result => exact Result.Fits.transfer fits queued canceled context
  | returned result => exact Result.Fits.transfer fits queued canceled context
  | givingUp why =>
      cases why with
      | contextDone => exact context fits
      | detached => trivial
      | timedOut => trivial
  | starting => trivial
  | registered connection => trivial
  | waiting => trivial

theorem Call.Sound.moved (sound : call.Sound id) {phase : Phase} (sends : phase.beforeSend = false)
    (fits : phase.Fits id call) : Call.Sound id { call with phase := phase } := by
  refine ⟨sound.sentQueued, sound.writtenSent, sound.exclusive, ?_, ?_, sound.answers, sound.opened, ?_⟩
  · intro before
    rw [sends] at before
    contradiction
  · rintro rfl
    contradiction
  · exact fits.transfer rfl (fun canceled => canceled) fun context => context

theorem capture_sound (client : Client) (marshals : Bool) (sound : call.Sound id) :
    (capture client marshals call).Sound id := by
  rw [capture]
  split
  · rename_i starting
    have unqueued := sound.unqueued (by rw [starting]; rfl)
    split
    · exact sound.moved rfl (Or.inl unqueued)
    · split
      · exact sound.moved rfl (Or.inl unqueued)
      · split
        · exact sound.moved rfl (Or.inl unqueued)
        · exact ⟨sound.sentQueued, sound.writtenSent, sound.exclusive, fun _ => unqueued, nofun,
            sound.answers, fun _ => (sound.fresh starting).2, trivial⟩
  · exact sound

theorem queued_sound (sound : call.Sound id) :
    Call.Sound id { call with phase := .waiting, queued := true } :=
  ⟨fun _ => rfl, sound.writtenSent, sound.exclusive, nofun, nofun, sound.answers, sound.opened, trivial⟩

def Decodes (decodes : String → Bool) (call : Call) : Prop :=
  call.phase = .waiting → ∀ response ∈ call.channel.buffer.head?, succeeded response = true →
    call.respBody = true → response.body ≠ "" → decodes response.body = true

instance (decodes : String → Bool) : DecidablePred (Decodes decodes) := fun _ => by
  unfold Decodes
  infer_instance

theorem receive_buffer {response : RPCResponsePayload} {rest : Chan RPCResponsePayload 1}
    (received : ChannelLib.receive call.channel = some (response, rest)) :
    call.channel.buffer = response :: rest.buffer := by
  unfold ChannelLib.receive at received
  split at received
  · contradiction
  · rename_i value others stored
    obtain ⟨rfl, rfl⟩ := Prod.mk.inj (Option.some.inj received)
    exact stored

theorem respond_fits {decodes : String → Bool} {response : RPCResponsePayload}
    (own : response.requestId = id)
    (fitting : succeeded response = true → call.respBody = true → response.body ≠ "" →
      decodes response.body = true) :
    (respond decodes call response).Fits id call := by
  rw [respond]
  split
  · rename_i succeeds
    split
    · rename_i undecoded
      simp only [Bool.and_eq_true, decide_eq_true_eq, Bool.not_eq_true'] at undecoded
      rw [fitting succeeds undecoded.1.1 undecoded.1.2] at undecoded
      exact absurd undecoded.2 (by decide)
    · exact own
  · rename_i refused
    exact ⟨own, by simpa using refused⟩

theorem receive_sound {decodes : String → Bool} (sound : call.Sound id) (fitting : Decodes decodes call) :
    (receive decodes call).Sound id := by
  rw [receive]
  split
  · rename_i waiting
    split
    · rename_i response rest received
      have stored := receive_buffer received
      have own := sound.answers response (by simp [stored])
      have kept : Call.Sound id { call with channel := rest } := by
        refine ⟨sound.sentQueued, sound.writtenSent, sound.exclusive, sound.unqueued, ?_, ?_, ?_, ?_⟩
        · intro starting
          rw [waiting] at starting
          contradiction
        · exact fun other member => sound.answers other (by simp [stored, member])
        · exact fun pending => (receive_closed received).trans (sound.opened pending)
        · exact sound.fits.transfer rfl (fun canceled => canceled) fun context => context
      have taken := fitting waiting response (by simp [stored])
      have fits := respond_fits own taken
      exact kept.moved rfl (Result.Fits.transfer fits rfl (fun canceled => canceled) fun context => context)
    · split
      · exact sound.moved rfl trivial
      · exact sound
  · exact sound

theorem timeOut_sound (sound : call.Sound id) : (timeOut call).Sound id := by
  rw [timeOut]
  split
  · exact sound.moved rfl trivial
  · exact sound

theorem contextDone_sound (sound : call.Sound id) : (contextDone call).Sound id := by
  rw [contextDone]
  split
  · split
    · rename_i cancelled
      exact sound.moved rfl cancelled
    · exact sound
  · exact sound

theorem cancelContext_sound (sound : call.Sound id) :
    Call.Sound id { call with cancelledContext := true } :=
  ⟨sound.sentQueued, sound.writtenSent, sound.exclusive, sound.unqueued, sound.fresh, sound.answers,
    sound.opened, sound.fits.transfer rfl (fun canceled => canceled) fun _ => rfl⟩

theorem giveUp_sound (sound : call.Sound id) : (giveUp call).Sound id := by
  rw [giveUp]
  split
  · rename_i why giving
    have fits := sound.fits
    rw [giving] at fits
    by_cases sent : call.outbound.sent = true
    · have lost : call.outbound.cancel = (false, call.outbound) := by simp [Outbound.cancel, sent]
      rw [lost]
      refine sound.moved rfl ?_
      cases why with
      | detached => trivial
      | timedOut => trivial
      | contextDone => exact fits
    · have won : call.outbound.cancel = (true, { call.outbound with canceled := true }) := by
        simp [Outbound.cancel, sent]
      rw [won]
      have cancelled : Call.Sound id { call with outbound := { call.outbound with canceled := true } } :=
        ⟨sound.sentQueued, sound.writtenSent, fun isSent => absurd isSent sent, sound.unqueued, sound.fresh,
          sound.answers, sound.opened, sound.fits.transfer rfl (fun _ => rfl) fun context => context⟩
      refine cancelled.moved rfl ?_
      cases why with
      | detached => exact Or.inr rfl
      | timedOut => exact Or.inr rfl
      | contextDone => exact fits
  · exact sound

theorem cleanUp_sound (sound : call.Sound id) : (cleanUp call).Sound id := by
  rw [cleanUp]
  split
  · rename_i result finishing
    have fits := sound.fits
    rw [finishing] at fits
    have removed : Call.Sound id { call with phase := .returned result } := sound.moved rfl fits
    exact ⟨removed.sentQueued, removed.writtenSent, removed.exclusive, removed.unqueued, nofun,
      removed.answers, nofun,
      Result.Fits.transfer fits rfl (fun canceled => canceled) fun context => context⟩
  · exact sound

theorem failPending_sound (sound : call.Sound id) : (failPending call).Sound id := by
  rw [failPending]
  split
  · rename_i pending
    refine ⟨sound.sentQueued, sound.writtenSent, sound.exclusive, sound.unqueued, ?_, sound.answers,
      nofun, sound.fits.transfer rfl (fun canceled => canceled) fun context => context⟩
    intro starting
    rw [(sound.fresh starting).1] at pending
    contradiction
  · exact sound

theorem delivered_sound {response : RPCResponsePayload} {channel : Chan RPCResponsePayload 1}
    (sound : call.Sound id) (own : response.requestId = id)
    (sent : trySend call.channel response = .sent channel) :
    Call.Sound id { call with channel := channel } := by
  obtain ⟨closed, buffer⟩ := trySend_sent sent
  refine ⟨sound.sentQueued, sound.writtenSent, sound.exclusive, sound.unqueued, ?_, ?_, ?_,
    sound.fits.transfer rfl (fun canceled => canceled) fun context => context⟩
  · exact fun starting => ⟨(sound.fresh starting).1, closed.trans (sound.fresh starting).2⟩
  · intro other member
    rw [buffer] at member
    rcases List.mem_append.mp member with old | new
    · exact sound.answers other old
    · rw [List.mem_singleton.mp new, own]
  · exact fun pending => closed.trans (sound.opened pending)

theorem begun_sound (sound : call.Sound id) (queued : call.queued = true) :
    Call.Sound id { call with outbound := call.outbound.beginWrite.2 } := by
  by_cases canceled : call.outbound.canceled = true
  · have skipped : call.outbound.beginWrite.2 = call.outbound := by simp [Outbound.beginWrite, canceled]
    rw [skipped]
    exact sound
  · have begun : call.outbound.beginWrite.2 = { call.outbound with sent := true } := by
      simp [Outbound.beginWrite, canceled]
    rw [begun]
    exact ⟨fun _ => queued, fun _ => rfl, fun _ => by simpa using canceled, sound.unqueued, sound.fresh,
      sound.answers, sound.opened,
      sound.fits.transfer rfl (fun cancelled => cancelled) fun context => context⟩

theorem written_sound (sound : call.Sound id) (sent : call.outbound.sent = true) :
    Call.Sound id { call with outbound := { call.outbound with written := true } } :=
  ⟨sound.sentQueued, fun _ => sent, sound.exclusive, sound.unqueued, sound.fresh, sound.answers,
    sound.opened, sound.fits.transfer rfl (fun canceled => canceled) fun context => context⟩

structure Call.Onward (call later : Call) : Prop where
  queued : call.queued = true → later.queued = true
  sent : call.outbound.sent = true → later.outbound.sent = true
  returned : ∀ result, call.phase = .returned result → later.phase = .returned result

def Call.frame (call : Call) : Bool × Outbound := (call.queued, call.outbound)

theorem Call.Onward.of_frame {later : Call} (same : later.frame = call.frame)
    (returned : ∀ result, call.phase = .returned result → later.phase = .returned result) :
    call.Onward later := by
  obtain ⟨queued, outbound⟩ := Prod.mk.inj same
  exact ⟨fun was => queued.trans was, fun was => by rw [outbound, was], returned⟩

theorem capture_onward (client : Client) (marshals : Bool) : call.Onward (capture client marshals call) := by
  refine .of_frame ?_ fun result returned => ?_
  · rw [capture]
    split
    · split
      · rfl
      · split
        · rfl
        · split
          · rfl
          · rfl
    · rfl
  · rw [capture, returned]
    exact returned

theorem receive_onward (decodes : String → Bool) : call.Onward (receive decodes call) := by
  refine .of_frame ?_ fun result returned => ?_
  · rw [receive]
    split
    · split
      · rfl
      · split
        · rfl
        · rfl
    · rfl
  · rw [receive, returned]
    exact returned

theorem timeOut_onward : call.Onward (timeOut call) := by
  refine .of_frame ?_ fun result returned => ?_
  · rw [timeOut]
    split
    · rfl
    · rfl
  · rw [timeOut, returned]
    exact returned

theorem contextDone_onward : call.Onward (contextDone call) := by
  refine .of_frame ?_ fun result returned => ?_
  · rw [contextDone]
    split
    · split
      · rfl
      · rfl
    · rfl
  · rw [contextDone, returned]
    exact returned

theorem cancel_sent (outbound : Outbound) : outbound.cancel.2.sent = outbound.sent := by
  rw [Outbound.cancel]
  split
  · rfl
  · rfl

theorem giveUp_onward : call.Onward (giveUp call) := by
  refine ⟨fun queued => ?_, fun sent => ?_, fun result returned => ?_⟩
  · rw [giveUp]
    split
    · exact queued
    · exact queued
  · rw [giveUp]
    split
    · exact (cancel_sent call.outbound).trans sent
    · exact sent
  · rw [giveUp, returned]
    exact returned

theorem cleanUp_onward : call.Onward (cleanUp call) := by
  refine .of_frame ?_ fun result returned => ?_
  · rw [cleanUp]
    split
    · rfl
    · rfl
  · rw [cleanUp, returned]
    exact returned

theorem failPending_onward : call.Onward (failPending call) := by
  rw [failPending]
  split
  · exact .of_frame rfl fun _ returned => returned
  · exact .of_frame rfl fun _ returned => returned

theorem beginWrite_sent (outbound : Outbound) (begins : outbound.beginWrite.1 = true) :
    outbound.beginWrite.2.sent = true := by
  unfold Outbound.beginWrite at begins ⊢
  split
  · rename_i canceled
    rw [if_pos canceled] at begins
    contradiction
  · rfl

theorem beginWrite_onward : call.Onward { call with outbound := call.outbound.beginWrite.2 } := by
  refine ⟨fun queued => queued, fun sent => ?_, fun _ returned => returned⟩
  unfold Outbound.beginWrite
  split
  · exact sent
  · rfl

end Calls

end MulticaOS.Daemon
