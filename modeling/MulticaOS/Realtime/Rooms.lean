import MulticaOS.Realtime.Threads

/-!
What the critical sections of the hub do to its rooms: a room has the registered clients
that are subscribed to it, and is dropped when the last one leaves.
-/

namespace MulticaOS.Realtime

open ChannelLib

section Arranged

variable {α : Type} [DecidableEq α] {order items : List α} {item : α}

@[simp] theorem mem_arranged : item ∈ arranged order items ↔ item ∈ items := by
  simp only [arranged, List.mem_append, List.mem_filter, decide_eq_true_eq]
  tauto

end Arranged

@[simp] theorem setObject_object (state : State) (client other : ClientId) (object : Client) :
    (state.setObject client object).object other =
      if other = client then object else state.object other := by
  simp [State.setObject, Function.update_apply]

@[simp] theorem setObject_clients (state : State) (client : ClientId) (object : Client) :
    (state.setObject client object).clients = state.clients := rfl

@[simp] theorem setObject_rooms (state : State) (client : ClientId) (object : Client) :
    (state.setObject client object).rooms = state.rooms := rfl

@[simp] theorem setObject_transition (state : State) (client : ClientId) (object : Client) :
    (state.setObject client object).transition = state.transition := rfl

@[simp] theorem setObject_threads (state : State) (client : ClientId) (object : Client) :
    (state.setObject client object).threads = state.threads := rfl

@[simp] theorem setObject_panicked (state : State) (client : ClientId) (object : Client) :
    (state.setObject client object).panicked = state.panicked := rfl

@[simp] theorem setObject_members (state : State) (client : ClientId) (object : Client)
    (key : ScopeKey) : (state.setObject client object).members key = state.members key := rfl

structure Consistent (state : State) : Prop where
  member : ∀ client key, client ∈ state.members key ↔
    client ∈ state.clients ∧ key ∈ (state.object client).subscriptions
  occupied : ∀ key, state.rooms key ≠ some []

/-- The rooms only lose clients, `emptied` lists the rooms that are gone, and that was their latest
transition. -/
structure Shrunk (before after : State) (emptied : List ScopeKey) : Prop where
  fewer : ∀ key, (after.rooms key).isSome → (before.rooms key).isSome
  lists : ∀ key, key ∈ emptied ↔ (before.rooms key).isSome ∧ after.rooms key = none
  turned : ∀ key, after.transition key = if key ∈ emptied then .last else before.transition key

theorem Shrunk.refl (state : State) : Shrunk state state [] where
  fewer := fun _ present => present
  lists := by
    intro key
    cases state.rooms key <;> simp
  turned := by simp

theorem Shrunk.trans {before middle after : State} {first second : List ScopeKey}
    (front : Shrunk before middle first) (back : Shrunk middle after second) :
    Shrunk before after (first ++ second) where
  fewer := fun key present => front.fewer key (back.fewer key present)
  lists := by
    intro key
    rw [List.mem_append, front.lists, back.lists]
    constructor
    · rintro (⟨present, gone⟩ | ⟨present, gone⟩)
      · refine ⟨present, ?_⟩
        cases later : after.rooms key with
        | none => rfl
        | some room =>
            have still := back.fewer key (by simp [later])
            simp [gone] at still
      · exact ⟨front.fewer key present, gone⟩
    · rintro ⟨present, gone⟩
      cases middling : middle.rooms key with
      | none => exact Or.inl ⟨present, rfl⟩
      | some room => exact Or.inr ⟨rfl, gone⟩
  turned := by
    intro key
    rw [back.turned, front.turned]
    by_cases late : key ∈ second
    · simp [late]
    · by_cases early : key ∈ first
      · simp [late, early]
      · simp [late, early]

def SameButRooms (before after : State) : Prop :=
  after = { before with rooms := after.rooms, transition := after.transition }

theorem leaveRooms_frame (client : ClientId) (keys : List ScopeKey) (state : State) :
    SameButRooms state (leaveRooms client keys state).1 := by
  induction keys generalizing state with
  | nil => rfl
  | cons key rest ih =>
      simp only [leaveRooms]
      cases state.rooms key with
      | none => exact ih state
      | some room =>
          by_cases alone : (room.filter (· ≠ client)).isEmpty
          · simp only [alone, if_true]
            exact ih _
          · simp only [alone]
            exact ih _

theorem leaveRooms_shrunk (client : ClientId) (keys : List ScopeKey) (state : State) :
    Shrunk state (leaveRooms client keys state).1 (leaveRooms client keys state).2 := by
  induction keys generalizing state with
  | nil => exact Shrunk.refl state
  | cons key rest ih =>
      simp only [leaveRooms]
      cases stored : state.rooms key with
      | none => exact ih state
      | some room =>
          by_cases alone : (room.filter (· ≠ client)).isEmpty
          · simp only [alone, if_true]
            refine (?_ : Shrunk state _ [key]).trans (ih _)
            refine ⟨?_, ?_, ?_⟩
            · intro other present
              by_cases same : other = key
              · simp [same] at present
              · simpa [same] using present
            · intro other
              by_cases same : other = key
              · simp [same, stored]
              · simp [same, Option.isSome_iff_ne_none]
            · intro other
              simp [Function.update_apply]
          · simp only [alone, Bool.false_eq_true, if_false]
            refine (?_ : Shrunk state _ []).trans (ih _)
            refine ⟨?_, ?_, ?_⟩
            · intro other present
              by_cases same : other = key
              · simp [same, stored]
              · simpa [same] using present
            · intro other
              by_cases same : other = key
              · simp [same]
              · simp [same, Option.isSome_iff_ne_none]
            · simp

theorem leaveRooms_members (client : ClientId) (keys : List ScopeKey) (state : State)
    (other : ClientId) (key : ScopeKey) :
    other ∈ (leaveRooms client keys state).1.members key ↔
      other ∈ state.members key ∧ ¬(key ∈ keys ∧ other = client) := by
  induction keys generalizing state with
  | nil => simp [leaveRooms]
  | cons first rest ih =>
      have step : ∀ left : State, (∀ found, left.members found =
          if found = first then (state.members first).filter (· ≠ client) else state.members found) →
          (other ∈ (leaveRooms client rest left).1.members key ↔
            other ∈ state.members key ∧ ¬(key ∈ first :: rest ∧ other = client)) := by
        intro left members
        rw [ih, members]
        by_cases same : key = first
        · subst same
          simp only [if_true, List.mem_filter, decide_eq_true_eq, List.mem_cons, true_or, true_and]
          tauto
        · simp [same]
      simp only [leaveRooms]
      cases stored : state.rooms first with
      | none =>
          refine step state fun found => ?_
          by_cases same : found = first
          · simp [same, State.members, stored]
          · simp [same]
      | some room =>
          have held : state.members first = room := by simp [State.members, stored]
          by_cases alone : (room.filter (· ≠ client)).isEmpty
          · simp only [alone, if_true]
            refine step _ fun found => ?_
            by_cases same : found = first
            · rw [if_pos same, held, List.isEmpty_iff.mp alone]
              simp [State.members, same]
            · simp [State.members, same]
          · simp only [alone, Bool.false_eq_true, if_false]
            refine step _ fun found => ?_
            by_cases same : found = first
            · rw [if_pos same, held]
              simp [State.members, same]
            · simp [State.members, same]

theorem leaveRooms_occupied (client : ClientId) (keys : List ScopeKey) (state : State)
    (occupied : ∀ key, state.rooms key ≠ some []) (key : ScopeKey) :
    (leaveRooms client keys state).1.rooms key ≠ some [] := by
  induction keys generalizing state with
  | nil => exact occupied key
  | cons first rest ih =>
      simp only [leaveRooms]
      cases stored : state.rooms first with
      | none => exact ih state occupied
      | some room =>
          by_cases alone : (room.filter (· ≠ client)).isEmpty
          · simp only [alone, if_true]
            refine ih _ fun found => ?_
            by_cases same : found = first
            · simp [same]
            · simpa [Function.update_apply, same] using occupied found
          · simp only [alone, Bool.false_eq_true, if_false]
            refine ih _ fun found => ?_
            by_cases same : found = first
            · intro wrong
              refine alone (List.isEmpty_iff.mpr ?_)
              simpa [same] using wrong
            · simpa [Function.update_apply, same] using occupied found

/-- A client's send channel is closed exactly when it has been registered and dropped again. -/
structure Sound (state : State) : Prop extends Consistent state where
  closed : ∀ client, (state.object client).send.closed = true ↔
    (state.object client).stage = .enrolled ∧ client ∉ state.clients
  registered : ∀ client ∈ state.clients, (state.object client).stage = .enrolled
  bare : ∀ client, (state.object client).stage ≠ .enrolled → (state.object client).subscriptions = []

def Message.isEvent : Message → Bool
  | .event _ _ => true
  | .reply _ => false

def Client.record (client : Client) : List String × List String × List String × List Message :=
  (client.seenIDs, client.seenList, client.accepted, client.delivered.filter Message.isEvent)

structure Framed (before after : State) : Prop where
  threads : after.threads = before.threads
  callbacks : after.callbacks = before.callbacks
  consumers : after.consumers = before.consumers
  stopping : after.stopping = before.stopping
  cancelled : after.cancelled = before.cancelled
  stage : ∀ client, (after.object client).stage = (before.object client).stage
  record : ∀ client, (after.object client).record = (before.object client).record

theorem Framed.refl (state : State) : Framed state state :=
  ⟨rfl, rfl, rfl, rfl, rfl, fun _ => rfl, fun _ => rfl⟩

theorem Framed.trans {before middle after : State} (front : Framed before middle)
    (back : Framed middle after) : Framed before after where
  threads := back.threads.trans front.threads
  callbacks := back.callbacks.trans front.callbacks
  consumers := back.consumers.trans front.consumers
  stopping := back.stopping.trans front.stopping
  cancelled := back.cancelled.trans front.cancelled
  stage := fun client => (back.stage client).trans (front.stage client)
  record := fun client => (back.record client).trans (front.record client)

theorem SameButRooms.framed {before after : State} (same : SameButRooms before after) :
    Framed before after := by
  rw [SameButRooms] at same
  rw [same]
  exact ⟨rfl, rfl, rfl, rfl, rfl, fun _ => rfl, fun _ => rfl⟩

theorem setObject_framed {state : State} {client : ClientId} {object : Client}
    (stage : object.stage = (state.object client).stage)
    (record : object.record = (state.object client).record) :
    Framed state (state.setObject client object) := by
  refine ⟨rfl, rfl, rfl, rfl, rfl, ?_, ?_⟩
  · intro other
    by_cases same : other = client
    · simp [same, stage]
    · simp [same]
  · intro other
    by_cases same : other = client
    · simp [same, record]
    · simp [same]

theorem Sound.setObject {state : State} {client : ClientId} {object : Client} (sound : Sound state)
    (subscriptions : object.subscriptions = (state.object client).subscriptions)
    (closed : object.send.closed = (state.object client).send.closed)
    (stage : object.stage = .enrolled ↔ (state.object client).stage = .enrolled) :
    Sound (state.setObject client object) where
  member := by
    intro other key
    by_cases same : other = client
    · subst same
      simpa [subscriptions] using sound.member other key
    · simpa [same] using sound.member other key
  occupied := sound.occupied
  closed := by
    intro other
    by_cases same : other = client
    · subst same
      simpa [closed, stage] using sound.closed other
    · simpa [same] using sound.closed other
  registered := by
    intro other member
    by_cases same : other = client
    · subst same
      simpa [stage] using sound.registered other member
    · simpa [same] using sound.registered other member
  bare := by
    intro other
    by_cases same : other = client
    · subst same
      simpa [subscriptions, stage] using sound.bare other
    · simpa [same] using sound.bare other

theorem enroll_sound {state : State} {client : ClientId} (sound : Sound state)
    (handed : (state.object client).stage = .handed) : Sound (enroll state client) := by
  have outside : client ∉ state.clients := by
    intro member
    have enrolled := sound.registered client member
    rw [handed] at enrolled
    cases enrolled
  have bare := sound.bare client (by simp [handed])
  have clients : (enroll state client).clients = state.clients ++ [client] := by simp [enroll, outside]
  have object : ∀ other, (enroll state client).object other =
      if other = client then { state.object client with stage := .enrolled }
      else state.object other := fun other => setObject_object state client other _
  have members : ∀ key, (enroll state client).members key = state.members key := fun _ => rfl
  refine ⟨⟨?_, sound.occupied⟩, ?_, ?_, ?_⟩
  · intro other key
    have before := sound.member other key
    rw [members, object, clients, List.mem_append, List.mem_singleton]
    by_cases same : other = client
    · subst same
      rw [bare] at before
      simpa [outside, bare] using before
    · simpa [same] using before
  · intro other
    have before := sound.closed other
    rw [object, clients, List.mem_append, List.mem_singleton]
    by_cases same : other = client
    · subst same
      rw [handed] at before
      simpa using before
    · simpa [same] using before
  · intro other member
    rw [clients, List.mem_append, List.mem_singleton] at member
    rw [object]
    by_cases same : other = client
    · simp [same]
    · simpa [same] using sound.registered other (member.resolve_right same)
  · intro other waiting
    rw [object] at waiting ⊢
    by_cases same : other = client
    · simp [same] at waiting
    · simpa [same] using sound.bare other (by simpa [same] using waiting)

section Subscriptions

variable {state : State} {client : ClientId} {key : ScopeKey}

theorem Sound.resubscribe {after : State} {subscriptions : List ScopeKey} (sound : Sound state)
    (present : client ∈ state.clients) (clients : after.clients = state.clients)
    (object : after.object = Function.update state.object client
      { state.object client with subscriptions := subscriptions })
    (occupied : ∀ found, after.rooms found ≠ some [])
    (own : ∀ found, client ∈ after.members found ↔ found ∈ subscriptions)
    (others : ∀ other found, other ≠ client →
      (other ∈ after.members found ↔ other ∈ state.members found)) : Sound after where
  member := by
    intro other found
    rw [object, clients]
    by_cases same : other = client
    · subst same
      simpa [present] using own found
    · rw [others other found same, sound.member]
      simp [same]
  occupied := occupied
  closed := by
    intro other
    rw [object, clients]
    by_cases same : other = client
    · subst same
      simpa using sound.closed other
    · simpa [same] using sound.closed other
  registered := by
    intro other member
    rw [clients] at member
    rw [object]
    by_cases same : other = client
    · subst same
      simpa using sound.registered other member
    · simpa [same] using sound.registered other member
  bare := by
    intro other waiting
    rw [object] at waiting ⊢
    by_cases same : other = client
    · subst same
      simp [sound.registered other present] at waiting
    · simpa [same] using sound.bare other (by simpa [same] using waiting)

theorem subscribeLocked_sound (sound : Sound state) : Sound (subscribeLocked state client key).1 := by
  unfold subscribeLocked
  by_cases absent : client ∉ state.clients
  · simpa [absent] using sound
  · have present : client ∈ state.clients := not_not.mp absent
    by_cases already : key ∈ (state.object client).subscriptions
    · simpa [present, already] using sound
    · have others : ∀ found, client ∈ state.members found ↔
          found ∈ (state.object client).subscriptions := by
        intro found
        simp [sound.member, present]
      simp only [absent, already, if_false]
      cases stored : state.rooms key with
      | none =>
          refine sound.resubscribe present rfl rfl ?_ ?_ ?_
          · intro found
            by_cases same : found = key
            · simp [same]
            · simpa [same] using sound.occupied found
          · intro found
            have before := others found
            by_cases same : found = key
            · simp [State.members, same]
            · simpa [State.members, same] using before
          · intro other found different
            by_cases same : found = key
            · simp [State.members, same, stored, different]
            · simp [State.members, same]
      | some room =>
          refine sound.resubscribe present rfl rfl ?_ ?_ ?_
          · intro found
            by_cases same : found = key
            · simp [same]
            · simpa [same] using sound.occupied found
          · intro found
            have before := others found
            by_cases same : found = key
            · simp [State.members, same]
            · simpa [State.members, same] using before
          · intro other found different
            by_cases same : found = key
            · simp [State.members, same, stored, different]
            · simp [State.members, same]

theorem unsubscribeLocked_sound (sound : Sound state) :
    Sound (unsubscribeLocked state client key).1 := by
  unfold unsubscribeLocked
  by_cases absent : client ∉ state.clients
  · simpa [absent] using sound
  · have present : client ∈ state.clients := not_not.mp absent
    by_cases missing : key ∉ (state.object client).subscriptions
    · simpa [absent, missing] using sound
    · simp only [absent, missing, if_false]
      have frame := leaveRooms_frame client [key] (state.setObject client
        { state.object client with
          subscriptions := (state.object client).subscriptions.filter (· ≠ key) })
      have members := leaveRooms_members client [key] (state.setObject client
        { state.object client with
          subscriptions := (state.object client).subscriptions.filter (· ≠ key) })
      refine sound.resubscribe present (by rw [frame]; rfl) (by rw [frame]; rfl)
        (leaveRooms_occupied client [key] _ sound.occupied) ?_ ?_
      · intro found
        rw [members, setObject_members, sound.member]
        simp [present]
      · intro other found different
        rw [members, setObject_members]
        simp [different]

theorem subscribeLocked_framed : Framed state (subscribeLocked state client key).1 := by
  unfold subscribeLocked
  by_cases absent : client ∉ state.clients
  · simpa [absent] using Framed.refl state
  · by_cases already : key ∈ (state.object client).subscriptions
    · simpa [absent, already] using Framed.refl state
    · have framed : Framed state (state.setObject client
          { state.object client with
            subscriptions := (state.object client).subscriptions ++ [key] }) :=
        setObject_framed rfl rfl
      simp only [absent, already, if_false]
      cases state.rooms key with
      | none => exact ⟨rfl, rfl, rfl, rfl, rfl, framed.stage, framed.record⟩
      | some room => exact ⟨rfl, rfl, rfl, rfl, rfl, framed.stage, framed.record⟩

theorem unsubscribeLocked_framed : Framed state (unsubscribeLocked state client key).1 := by
  unfold unsubscribeLocked
  by_cases absent : client ∉ state.clients
  · simpa [absent] using Framed.refl state
  · by_cases missing : key ∉ (state.object client).subscriptions
    · simpa [absent, missing] using Framed.refl state
    · simp only [absent, missing, if_false]
      have unlisted : Framed state (state.setObject client
          { state.object client with
            subscriptions := (state.object client).subscriptions.filter (· ≠ key) }) :=
        setObject_framed rfl rfl
      exact unlisted.trans (leaveRooms_frame client [key] _).framed

end Subscriptions

section Dropping

variable {state : State} {client : ClientId} {order : List ScopeKey}

def departed (order : List ScopeKey) (state : State) (client : ClientId) : State × List ScopeKey :=
  leaveRooms client (arranged order (state.object client).subscriptions)
    { state with clients := state.clients.filter (· ≠ client) }

theorem dropClient_absent (absent : client ∉ state.clients) :
    dropClient order state client = (state, []) := by
  simp [dropClient, absent]

theorem dropClient_present (sound : Sound state) (present : client ∈ state.clients) :
    ∃ send, send.closed = true ∧ dropClient order state client =
      ((departed order state client).1.setObject client
        { state.object client with subscriptions := [], send := send },
        (departed order state client).2) := by
  have opened : (state.object client).send.closed = false := by
    have closed := sound.closed client
    simpa [present] using closed
  refine ⟨{ (state.object client).send with closed := true }, rfl, ?_⟩
  simp [dropClient, present, close, opened, departed]

theorem departed_object (other : ClientId) :
    (departed order state client).1.object other = state.object other := by
  rw [departed, leaveRooms_frame client _ _]

theorem dropClient_sound (sound : Sound state) : Sound (dropClient order state client).1 := by
  by_cases present : client ∈ state.clients
  · obtain ⟨send, shut, dropped⟩ := dropClient_present sound present
    have clients : (dropClient order state client).1.clients = state.clients.filter (· ≠ client) := by
      rw [dropped, setObject_clients, departed, leaveRooms_frame client _ _]
    have object : ∀ other, (dropClient order state client).1.object other =
        if other = client then { state.object client with subscriptions := [], send := send }
        else state.object other := by
      intro other
      rw [dropped, setObject_object, departed_object]
    have members : ∀ other key, other ∈ (dropClient order state client).1.members key ↔
        other ∈ state.members key ∧ other ≠ client := by
      intro other key
      rw [dropped, setObject_members, departed, leaveRooms_members, mem_arranged]
      change other ∈ state.members key ∧ _ ↔ _
      constructor
      · rintro ⟨inside, kept⟩
        refine ⟨inside, fun same => kept ⟨?_, same⟩⟩
        subst same
        exact ((sound.member other key).mp inside).2
      · rintro ⟨inside, different⟩
        exact ⟨inside, fun both => different both.2⟩
    refine ⟨⟨?_, ?_⟩, ?_, ?_, ?_⟩
    · intro other key
      rw [members, object, clients]
      by_cases same : other = client
      · simp [same]
      · simp [same, sound.member]
    · intro key
      rw [dropped]
      exact leaveRooms_occupied client _ { state with clients := state.clients.filter (· ≠ client) }
        sound.occupied key
    · intro other
      rw [object, clients]
      by_cases same : other = client
      · simp [same, shut, sound.registered client present]
      · simpa [same] using sound.closed other
    · intro other member
      rw [clients, List.mem_filter] at member
      rw [object]
      by_cases same : other = client
      · simp [same] at member
      · simpa [same] using sound.registered other member.1
    · intro other waiting
      rw [object] at waiting ⊢
      by_cases same : other = client
      · simp [same]
      · simpa [same] using sound.bare other (by simpa [same] using waiting)
  · rw [dropClient_absent present]
    exact sound

theorem dropClient_framed (sound : Sound state) :
    Framed state (dropClient order state client).1 ∧
      (dropClient order state client).1.panicked = state.panicked := by
  by_cases present : client ∈ state.clients
  · obtain ⟨send, -, dropped⟩ := dropClient_present sound present
    have frame : SameButRooms _ (departed order state client).1 := leaveRooms_frame client _ _
    have departs : Framed state (departed order state client).1 := by
      rw [frame]
      exact ⟨rfl, rfl, rfl, rfl, rfl, fun _ => rfl, fun _ => rfl⟩
    have closes : Framed (departed order state client).1
        ((departed order state client).1.setObject client
          { state.object client with subscriptions := [], send := send }) :=
      setObject_framed (by rw [departed_object]) (by rw [departed_object]; rfl)
    rw [dropped]
    exact ⟨departs.trans closes, by rw [setObject_panicked, frame]⟩
  · rw [dropClient_absent present]
    exact ⟨Framed.refl state, rfl⟩

theorem dropClient_shrunk (sound : Sound state) :
    Shrunk state (dropClient order state client).1 (dropClient order state client).2 := by
  by_cases present : client ∈ state.clients
  · obtain ⟨send, -, dropped⟩ := dropClient_present sound present
    have shrunk : Shrunk { state with clients := state.clients.filter (· ≠ client) }
        (departed order state client).1 (departed order state client).2 :=
      leaveRooms_shrunk client _ _
    rw [dropped]
    exact ⟨shrunk.fewer, shrunk.lists, shrunk.turned⟩
  · rw [dropClient_absent present]
    exact Shrunk.refl state

theorem dropAll_sound (slow : List ClientId) (sound : Sound state) :
    Sound (dropAll order slow state).1 := by
  induction slow generalizing state with
  | nil => exact sound
  | cons client rest ih => exact ih (dropClient_sound sound)

theorem dropAll_framed (slow : List ClientId) (sound : Sound state) :
    Framed state (dropAll order slow state).1 ∧
      (dropAll order slow state).1.panicked = state.panicked := by
  induction slow generalizing state with
  | nil => exact ⟨Framed.refl state, rfl⟩
  | cons client rest ih =>
      obtain ⟨front, quiet⟩ := dropClient_framed sound
      obtain ⟨back, later⟩ := ih (dropClient_sound sound)
      exact ⟨front.trans back, later.trans quiet⟩

theorem dropAll_shrunk (slow : List ClientId) (sound : Sound state) :
    Shrunk state (dropAll order slow state).1 (dropAll order slow state).2 := by
  induction slow generalizing state with
  | nil => exact Shrunk.refl state
  | cons client rest ih => exact (dropClient_shrunk sound).trans (ih (dropClient_sound sound))

end Dropping

end MulticaOS.Realtime
