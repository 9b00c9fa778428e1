import MulticaOS.Lib.Runs
import MulticaOS.Realtime.Rooms

/-!
Every interleaving of the hub's operations keeps its maps consistent, and the only panic is
that of a reader that answers a frame of a client which has been evicted meanwhile.
-/

namespace MulticaOS.Realtime

open ChannelLib ThreadLib

def Op.targets : Op → List ClientId
  | .visit _ remaining _ => remaining
  | .put _ client remaining _ => client :: remaining
  | _ => []

theorem targets_of_unlocked {op : Op} (free : op.holdsReadLock = false) : op.targets = [] := by
  cases op <;> first | rfl | cases free

structure Invariant (state : State) : Prop extends Sound state where
  entering : ∀ client, (operations state.threads).count (.enroll client) =
    if (state.object client).stage = .handed then 1 else 0
  visited : ∀ op ∈ operations state.threads, ∀ client ∈ op.targets, client ∈ state.clients

theorem initial_invariant (callbacks : Bool) : Invariant (initial callbacks) where
  member := by simp [initial, State.members, noClient]
  occupied := by simp [initial]
  closed := by simp [initial, noClient, ChannelLib.empty]
  registered := by simp [initial]
  bare := by simp [initial, noClient]
  entering := by simp [initial, noClient]
  visited := by simp [initial]

theorem markSeen_frame {client marked : Client} {eventID : String}
    (passes : markSeen client eventID = some marked) :
    marked.subscriptions = client.subscriptions ∧ marked.send = client.send ∧
      marked.stage = client.stage ∧ marked.delivered = client.delivered := by
  unfold markSeen at passes
  split at passes
  · obtain rfl := Option.some.inj passes
    exact ⟨rfl, rfl, rfl, rfl⟩
  · split at passes
    · contradiction
    · dsimp only at passes
      split at passes
      · obtain rfl := Option.some.inj passes
        exact ⟨rfl, rfl, rfl, rfl⟩
      · obtain rfl := Option.some.inj passes
        exact ⟨rfl, rfl, rfl, rfl⟩

def evicted (state : State) (client : ClientId) : Prop :=
  (state.object client).stage = .enrolled ∧ client ∉ state.clients

instance (state : State) (client : ClientId) : Decidable (evicted state client) :=
  inferInstanceAs (Decidable (_ ∧ _))

def answersEvicted (state : State) : Op → Prop
  | .sendJSON client _ => evicted state client
  | _ => False

instance (state : State) (op : Op) : Decidable (answersEvicted state op) := by
  cases op <;> unfold answersEvicted <;> infer_instance

structure Executed (before after : State) (op : Op) (next : List Op) : Prop where
  sound : Sound after
  threads : after.threads = before.threads
  stage : ∀ client, (after.object client).stage =
    if op = .enroll client then .enrolled else (before.object client).stage
  settled : ∀ client, .enroll client ∉ next
  kept : (∀ client ∈ before.clients, client ∈ after.clients) ∨ before.readLocked = false
  targets : ∀ other ∈ next, ∀ client ∈ other.targets, client ∈ after.clients
  panicked : before.panicked = none → (after.panicked = none ↔ ¬answersEvicted before op)

theorem Executed.of_framed {before after : State} {op : Op} {next : List Op} (sound : Sound after)
    (framed : Framed before after) (plain : ∀ client, op ≠ .enroll client)
    (callbacks : ∀ other ∈ next, ∃ key, other = .startConsumer key ∨ other = .stopConsumer key)
    (kept : (∀ client ∈ before.clients, client ∈ after.clients) ∨ before.readLocked = false)
    (quiet : after.panicked = before.panicked) (answers : ¬answersEvicted before op) :
    Executed before after op next where
  sound := sound
  threads := framed.threads
  stage := by
    intro client
    rw [if_neg (plain client), framed.stage]
  settled := by
    intro client member
    obtain ⟨key, same | same⟩ := callbacks _ member
    · cases same
    · cases same
  kept := kept
  targets := by
    intro other member client target
    obtain ⟨key, rfl | rfl⟩ := callbacks _ member
    · cases target
    · cases target
  panicked := by
    intro none
    simp [quiet, none, answers]

theorem onFirstSubscriber_callbacks (state : State) (key : ScopeKey) :
    ∀ other ∈ onFirstSubscriber state key, ∃ key, other = .startConsumer key ∨ other = .stopConsumer key := by
  intro other member
  unfold onFirstSubscriber at member
  split at member
  · exact ⟨key, Or.inl (List.mem_singleton.mp member)⟩
  · cases member

theorem onLastSubscriber_callbacks (state : State) (keys : List ScopeKey) :
    ∀ other ∈ onLastSubscriber state keys, ∃ key, other = .startConsumer key ∨ other = .stopConsumer key := by
  intro other member
  unfold onLastSubscriber at member
  split at member
  · obtain ⟨key, -, rfl⟩ := List.mem_map.mp member
    exact ⟨key, Or.inr rfl⟩
  · cases member

theorem subscribeLocked_callbacks (state : State) (client : ClientId) (key : ScopeKey) :
    (∀ other ∈ (subscribeLocked state client key).2,
      ∃ key, other = .startConsumer key ∨ other = .stopConsumer key) ∧
    (subscribeLocked state client key).1.clients = state.clients ∧
    (subscribeLocked state client key).1.panicked = state.panicked := by
  unfold subscribeLocked
  by_cases absent : client ∉ state.clients
  · simp [absent]
  · by_cases already : key ∈ (state.object client).subscriptions
    · simp [absent, already]
    · simp only [absent, already, if_false]
      cases state.rooms key with
      | none => exact ⟨onFirstSubscriber_callbacks state key, rfl, rfl⟩
      | some room => exact ⟨by simp, rfl, rfl⟩

theorem unsubscribeLocked_callbacks (state : State) (client : ClientId) (key : ScopeKey) :
    (∀ other ∈ (unsubscribeLocked state client key).2,
      ∃ key, other = .startConsumer key ∨ other = .stopConsumer key) ∧
    (unsubscribeLocked state client key).1.clients = state.clients ∧
    (unsubscribeLocked state client key).1.panicked = state.panicked := by
  unfold unsubscribeLocked
  by_cases absent : client ∉ state.clients
  · simp [absent]
  · by_cases missing : key ∉ (state.object client).subscriptions
    · simp [absent, missing]
    · simp only [absent, missing, if_false]
      refine ⟨onLastSubscriber_callbacks state _, ?_, ?_⟩
      · rw [leaveRooms_frame client [key] _]
        rfl
      · rw [leaveRooms_frame client [key] _]
        rfl

section Fanouts

variable {state : State} {fan : Fanout} {client : ClientId} {remaining slow : List ClientId}

theorem Executed.of_setObject {object : Client} {op : Op} {next : List Op} (sound : Sound state)
    (subscriptions : object.subscriptions = (state.object client).subscriptions)
    (closed : object.send.closed = (state.object client).send.closed)
    (stage : object.stage = (state.object client).stage) (plain : ∀ other, op ≠ .enroll other)
    (settled : ∀ other, .enroll other ∉ next)
    (targets : ∀ other ∈ next, ∀ target ∈ other.targets, target ∈ state.clients)
    (answers : ¬answersEvicted state op) :
    Executed state (state.setObject client object) op next where
  sound := sound.setObject subscriptions closed (by rw [stage])
  threads := rfl
  stage := by
    intro other
    rw [if_neg (plain other), setObject_object]
    by_cases same : other = client
    · simp [same, stage]
    · simp [same]
  settled := settled
  kept := Or.inl fun _ member => member
  targets := targets
  panicked := by
    intro none
    simp [none, answers]

theorem Executed.of_same {op : Op} {next : List Op} (sound : Sound state)
    (plain : ∀ other, op ≠ .enroll other) (settled : ∀ other, .enroll other ∉ next)
    (targets : ∀ other ∈ next, ∀ target ∈ other.targets, target ∈ state.clients)
    (answers : ¬answersEvicted state op) : Executed state state op next where
  sound := sound
  threads := rfl
  stage := fun other => (if_neg (plain other)).symm
  settled := settled
  kept := Or.inl fun _ member => member
  targets := targets
  panicked := by
    intro none
    simp [none, answers]

theorem visit_executed (sound : Sound state) (registered : ∀ other ∈ remaining, other ∈ state.clients) :
    Executed state (visit state fan remaining slow).1 (.visit fan remaining slow)
      (visit state fan remaining slow).2 := by
  cases remaining with
  | nil =>
      have ends : ∀ other ∈ (visit state fan [] slow).2, other = .evictSlow slow := by
        intro other member
        simp only [visit] at member
        split at member
        · cases member
        · exact List.mem_singleton.mp member
      refine Executed.of_same sound (by simp) ?_ ?_ (fun wrong => wrong)
      · intro other member
        cases ends _ member
      · intro other member target found
        rw [ends _ member] at found
        cases found
  | cons first rest =>
      have later : ∀ other ∈ rest, other ∈ state.clients :=
        fun other member => registered other (List.mem_cons_of_mem _ member)
      have skips : Executed state state (.visit fan (first :: rest) slow) [.visit fan rest slow] :=
        Executed.of_same sound (by simp) (by simp) (by simpa [Op.targets] using later)
          (fun wrong => wrong)
      simp only [visit]
      split
      · exact skips
      · cases marks : markSeen (state.object first) fan.eventID with
        | none => exact skips
        | some marked =>
            obtain ⟨subscriptions, send, stage, -⟩ := markSeen_frame marks
            exact Executed.of_setObject sound subscriptions (by rw [send]) stage (by simp) (by simp)
              (by simpa [Op.targets] using registered) (fun wrong => wrong)

theorem put_executed (sound : Sound state)
    (registered : ∀ other ∈ client :: remaining, other ∈ state.clients) :
    Executed state (put state fan client remaining slow).1 (.put fan client remaining slow)
      (put state fan client remaining slow).2 := by
  have later : ∀ other ∈ remaining, other ∈ state.clients :=
    fun other member => registered other (List.mem_cons_of_mem _ member)
  -- The read lock has kept the client registered, so its channel is open.
  have opened : ¬(state.object client).send.closed = true := by
    rw [sound.closed]
    exact fun both => both.2 (registered client List.mem_cons_self)
  simp only [put]
  split
  · rename_i send sent
    exact Executed.of_setObject sound rfl (trySend_sent sent).1 rfl (by simp) (by simp)
      (by simpa [Op.targets] using later) (fun wrong => wrong)
  · exact Executed.of_same sound (by simp) (by simp) (by simpa [Op.targets] using later)
      (fun wrong => wrong)
  · rename_i panics
    exact absurd (trySend_panic.mp panics) opened

theorem sendJSON_executed (sound : Sound state) (reply : Reply) :
    Executed state (sendJSON state client reply) (.sendJSON client reply) [] := by
  have shut := sound.closed client
  by_cases gone : evicted state client
  · have panics : trySend (state.object client).send (.reply reply) = .panic :=
      trySend_panic.mpr (shut.mpr gone)
    simp only [sendJSON, panics]
    refine ⟨?_, rfl, ?_, by simp, Or.inl fun _ member => member, by simp, ?_⟩
    · exact ⟨⟨sound.member, sound.occupied⟩, sound.closed, sound.registered, sound.bare⟩
    · simp
    · simp [answersEvicted, gone]
  · simp only [sendJSON]
    split
    · rename_i send sent
      exact Executed.of_setObject sound rfl (trySend_sent sent).1 rfl (by simp) (by simp) (by simp) gone
    · exact Executed.of_same sound (by simp) (by simp) (by simp) gone
    · rename_i panics
      exact absurd (shut.mp (trySend_panic.mp panics)) gone

end Fanouts

theorem Fanout.audience_registered {state : State} (sound : Sound state) (fan : Fanout) :
    ∀ client ∈ fan.audience state, client ∈ state.clients := by
  intro client member
  unfold Fanout.audience at member
  cases room : fan.room with
  | none => simpa [room] using member
  | some key =>
      rw [room] at member
      exact ((sound.member client key).mp member).1

def Op.begins : Op → Bool
  | .enroll _ => false
  | .visit _ _ _ => false
  | .put _ _ _ _ => false
  | _ => true

theorem begins_spec {op : Op} (begins : op.begins = true) :
    op.targets = [] ∧ ∀ client, op ≠ .enroll client := by
  cases op <;> simp_all [Op.begins, Op.targets]

theorem Executed.of_relay {state after : State} {op : Op} {next : List Op} (sound : Sound state)
    (object : after.object = state.object) (clients : after.clients = state.clients)
    (rooms : after.rooms = state.rooms) (threads : after.threads = state.threads)
    (quiet : after.panicked = state.panicked) (plain : ∀ other, op ≠ .enroll other)
    (begins : next.all Op.begins = true) (answers : ¬answersEvicted state op) :
    Executed state after op next where
  sound := by
    refine ⟨⟨?_, ?_⟩, ?_, ?_, ?_⟩
    · simpa only [State.members, object, clients, rooms] using sound.member
    · simpa only [rooms] using sound.occupied
    · simpa only [object, clients] using sound.closed
    · simpa only [object, clients] using sound.registered
    · simpa only [object] using sound.bare
  threads := threads
  stage := by
    intro other
    rw [if_neg (plain other), object]
  settled := fun client member => (begins_spec (List.all_eq_true.mp begins _ member)).2 client rfl
  kept := Or.inl (by simp [clients])
  targets := by
    intro other member client target
    rw [(begins_spec (List.all_eq_true.mp begins other member)).1] at target
    cases target
  panicked := by
    intro none
    simp [quiet, none, answers]

theorem outcome_of_some {outcome : State × List Op} {after : State} {next : List Op}
    (same : some outcome = some (after, next)) : after = outcome.1 ∧ next = outcome.2 := by
  obtain rfl := Option.some.inj same
  exact ⟨rfl, rfl⟩

theorem execute_executed {state after : State} {choice : Choice} {op : Op} {next : List Op}
    (invariant : Invariant state) (pending : op ∈ operations state.threads)
    (executes : execute state choice op = some (after, next)) : Executed state after op next := by
  have sound := invariant.toSound
  cases op with
  | enroll client =>
      simp only [execute] at executes
      split at executes
      · contradiction
      · obtain ⟨rfl, rfl⟩ := outcome_of_some executes
        have handed : (state.object client).stage = .handed := by
          have waiting := invariant.entering client
          have counted := List.count_pos_iff.mpr pending
          by_contra other
          rw [if_neg other] at waiting
          omega
        refine ⟨enroll_sound sound handed, rfl, ?_, by simp, Or.inl ?_, by simp, ?_⟩
        · intro other
          by_cases same : other = client
          · simp [enroll, State.setObject, same]
          · simp [enroll, State.setObject, same, Ne.symm same]
        · intro other member
          by_cases known : client ∈ state.clients
          · simpa [enroll, known] using member
          · simp [enroll, known, member]
        · simp [enroll, answersEvicted]
  | subscribe client key =>
      simp only [execute] at executes
      split at executes
      · contradiction
      · obtain ⟨rfl, rfl⟩ := outcome_of_some executes
        obtain ⟨callbacks, clients, quiet⟩ := subscribeLocked_callbacks state client key
        exact Executed.of_framed (subscribeLocked_sound sound) subscribeLocked_framed (by simp)
          callbacks (Or.inl (by simp [clients])) quiet (fun wrong => wrong)
  | unsubscribe client key =>
      simp only [execute] at executes
      split at executes
      · contradiction
      · obtain ⟨rfl, rfl⟩ := outcome_of_some executes
        obtain ⟨callbacks, clients, quiet⟩ := unsubscribeLocked_callbacks state client key
        exact Executed.of_framed (unsubscribeLocked_sound sound) unsubscribeLocked_framed (by simp)
          callbacks (Or.inl (by simp [clients])) quiet (fun wrong => wrong)
  | removeClient client =>
      simp only [execute] at executes
      split at executes
      · contradiction
      · rename_i free
        obtain ⟨rfl, rfl⟩ := outcome_of_some executes
        obtain ⟨framed, quiet⟩ := dropClient_framed sound
        exact Executed.of_framed (dropClient_sound sound) framed (by simp)
          (onLastSubscriber_callbacks state _) (Or.inr (by simpa using free)) quiet (fun wrong => wrong)
  | evictSlow slow =>
      simp only [execute] at executes
      split at executes
      · contradiction
      · rename_i free
        obtain ⟨rfl, rfl⟩ := outcome_of_some executes
        obtain ⟨framed, quiet⟩ := dropAll_framed slow sound
        exact Executed.of_framed (dropAll_sound slow sound) framed (by simp)
          (onLastSubscriber_callbacks state _) (Or.inr (by simpa using free)) quiet (fun wrong => wrong)
  | clearCallbacks =>
      simp only [execute] at executes
      split at executes
      · contradiction
      · obtain ⟨rfl, rfl⟩ := outcome_of_some executes
        exact Executed.of_relay sound rfl rfl rfl rfl rfl (by simp) rfl (fun wrong => wrong)
  | startConsumer key =>
      obtain ⟨rfl, rfl⟩ := outcome_of_some executes
      unfold startConsumer
      split_ifs <;> exact Executed.of_relay sound rfl rfl rfl rfl rfl (by simp) rfl (fun wrong => wrong)
  | stopConsumer key =>
      obtain ⟨rfl, rfl⟩ := outcome_of_some executes
      exact Executed.of_relay sound rfl rfl rfl rfl rfl (by simp) rfl (fun wrong => wrong)
  | stopRelay =>
      obtain ⟨rfl, rfl⟩ := outcome_of_some executes
      exact Executed.of_relay sound rfl rfl rfl rfl rfl (by simp) rfl (fun wrong => wrong)
  | fanout fan =>
      obtain ⟨rfl, rfl⟩ := outcome_of_some executes
      refine Executed.of_same sound (by simp) (by simp) ?_ (fun wrong => wrong)
      intro other member target found
      obtain rfl := List.mem_singleton.mp member
      exact fan.audience_registered sound target (mem_arranged.mp found)
  | visit fan remaining slow =>
      obtain ⟨rfl, rfl⟩ := outcome_of_some executes
      exact visit_executed sound (invariant.visited _ pending)
  | put fan client remaining slow =>
      obtain ⟨rfl, rfl⟩ := outcome_of_some executes
      exact put_executed sound (invariant.visited _ pending)
  | sendJSON client reply =>
      obtain ⟨rfl, rfl⟩ := outcome_of_some executes
      exact sendJSON_executed sound reply
  | publish envelope =>
      obtain ⟨rfl, rfl⟩ := outcome_of_some executes
      split_ifs <;> exact Executed.of_relay sound rfl rfl rfl rfl rfl (by simp) rfl (fun wrong => wrong)

theorem advance_cases (state : State) (index : Nat) (choice : Choice) :
    act state (.advance index choice) = state ∨
      ∃ op after next, current state.threads index = some op ∧
        execute state choice op = some (after, next) ∧
        act state (.advance index choice) =
          { after with threads := proceed state.threads index next } := by
  simp only [act]
  cases doing : current state.threads index with
  | none => exact Or.inl rfl
  | some op =>
      cases executes : execute state choice op with
      | none => exact Or.inl (by simp [executes])
      | some result => exact Or.inr ⟨op, result.1, result.2, rfl, executes, by simp [executes]⟩

theorem advance_invariant {state after : State} {choice : Choice} {index : Nat} {op : Op} {next : List Op}
    (invariant : Invariant state) (doing : current state.threads index = some op)
    (executes : execute state choice op = some (after, next)) :
    Invariant { after with threads := proceed state.threads index next } := by
  have executed := execute_executed invariant (mem_of_current doing) executes
  have sound := executed.sound
  refine ⟨⟨⟨sound.member, sound.occupied⟩, sound.closed, sound.registered, sound.bare⟩, ?_, ?_⟩
  · intro client
    have counted := countP_proceed next (· == Op.enroll client) doing
    have waiting := invariant.entering client
    have none := List.count_eq_zero.mpr (executed.settled client)
    have stage := executed.stage client
    rw [List.count] at waiting none
    rw [List.count, stage]
    by_cases same : op = .enroll client
    · subst same
      have single : [Op.enroll client].countP (· == Op.enroll client) = 1 := by simp
      simp only [if_true, reduceCtorEq, if_false]
      split at waiting <;> omega
    · have single : [op].countP (· == Op.enroll client) = 0 := by simp [same]
      simp only [if_neg same]
      omega
  · intro other member client target
    rcases mem_of_proceed doing member with fresh | old
    · exact executed.targets other fresh client target
    · rcases executed.kept with kept | free
      · exact kept client (invariant.visited other old client target)
      · -- No fan-out was reading, so the other operations serve nobody yet.
        have unlocked : other.holdsReadLock = false := by
          simpa using List.any_eq_false.mp free other old
        rw [targets_of_unlocked unlocked] at target
        cases target

@[simp] theorem subscribe_begins (client : ClientId) (scopeType scopeID : String) :
    (subscribe client scopeType scopeID).all Op.begins = true := by
  unfold subscribe
  split <;> rfl

@[simp] theorem unsubscribe_begins (client : ClientId) (scopeType scopeID : String) :
    (unsubscribe client scopeType scopeID).all Op.begins = true := by
  unfold unsubscribe
  split <;> rfl

@[simp] theorem broadcastToScopeDedup_begins (scopeType scopeID : String) (message : Frame)
    (eventID : String) :
    (broadcastToScopeDedup scopeType scopeID message eventID).all Op.begins = true := by
  unfold broadcastToScopeDedup
  split <;> rfl

theorem handleSubscribe_begins (client : ClientId) (identity : Client) (scope id : String)
    (authorization : Authorization) :
    (handleSubscribe client identity scope id authorization).all Op.begins = true := by
  unfold handleSubscribe
  dsimp only
  split_ifs
  · rfl
  · simp [Op.begins]
  · cases authorization <;> simp [Op.begins]
  · rfl

theorem handleFrame_begins (client : ClientId) (identity : Client) (inbound : InboundFrame)
    (authorization : Authorization) :
    (handleFrame client identity inbound authorization).all Op.begins = true := by
  cases inbound with
  | invalid => rfl
  | decoded type scope id valid =>
      unfold handleFrame
      dsimp only
      split_ifs
      · rfl
      · exact handleSubscribe_begins _ _ _ _ _
      · simp [handleUnsubscribe, Op.begins]
      · rfl
      · rfl

theorem hubCall_begins (eventID : String) (call : Call) :
    (hubCall eventID call).all Op.begins = true := by
  cases call with
  | broadcastToScope scopeType scopeID message => exact broadcastToScopeDedup_begins _ _ _ _
  | sendToUser userID message excludeWorkspace => rfl
  | broadcast message => rfl

theorem dualWrite_begins (id : String) (call : Call) : (dualWrite id call).all Op.begins = true := by
  cases call with
  | broadcastToScope scopeType scopeID message => simp [dualWrite, Op.begins]
  | sendToUser userID message excludeWorkspace => rfl
  | broadcast message => rfl

theorem deliverEnvelope_begins (envelope : Envelope) :
    (deliverEnvelope envelope).all Op.begins = true := by
  unfold deliverEnvelope
  dsimp only
  split_ifs
  · rfl
  · rfl
  · rfl
  · rfl
  · exact broadcastToScopeDedup_begins _ _ _ _

theorem deliverMessage_begins (relay : Relay) (envelope : Envelope) :
    (deliverMessage relay envelope).all Op.begins = true := by
  cases relay with
  | redis scopeType scopeID => exact deliverEnvelope_begins _
  | shardedStream =>
      unfold deliverMessage
      dsimp only
      split_ifs
      · rfl
      · exact deliverEnvelope_begins _

theorem start_invariant {state : State} {todo : List Op} (owner : Owner) (invariant : Invariant state)
    (begins : todo.all Op.begins = true) : Invariant (state.start owner todo) := by
  have sound := invariant.toSound
  refine ⟨⟨⟨sound.member, sound.occupied⟩, sound.closed, sound.registered, sound.bare⟩, ?_, ?_⟩
  · intro client
    have none : todo.count (.enroll client) = 0 := by
      refine List.count_eq_zero.mpr fun member => ?_
      exact (begins_spec (List.all_eq_true.mp begins _ member)).2 client rfl
    have waiting := invariant.entering client
    simp only [State.start, operations_spawn, List.count_append, none, Nat.zero_add]
    exact waiting
  · intro op member client target
    simp only [State.start, operations_spawn, List.mem_append] at member
    rcases member with fresh | old
    · rw [(begins_spec (List.all_eq_true.mp begins op fresh)).1] at target
      cases target
    · exact invariant.visited op old client target

theorem setObject_invariant {state : State} {client : ClientId} {object : Client}
    (invariant : Invariant state)
    (subscriptions : object.subscriptions = (state.object client).subscriptions)
    (closed : object.send.closed = (state.object client).send.closed)
    (enrolled : object.stage = .enrolled ↔ (state.object client).stage = .enrolled)
    (handed : object.stage = .handed ↔ (state.object client).stage = .handed) :
    Invariant (state.setObject client object) := by
  have sound := invariant.toSound.setObject subscriptions closed enrolled
  refine ⟨sound, ?_, invariant.visited⟩
  intro other
  have waiting := invariant.entering other
  rw [setObject_object]
  by_cases same : other = client
  · subst same
    simpa [handed] using waiting
  · simpa [same] using waiting

theorem implicitScopes_begins (client : ClientId) (object : Client) :
    (implicitScopes client object).all Op.begins = true := by
  unfold implicitScopes
  split <;> simp

theorem register_invariant {state : State} {client : ClientId} {object : Client} {rest : List Op}
    (invariant : Invariant state) (dialed : (state.object client).stage = .dialed)
    (subscriptions : object.subscriptions = (state.object client).subscriptions)
    (closed : object.send.closed = (state.object client).send.closed)
    (handed : object.stage = .handed) (begins : rest.all Op.begins = true) :
    Invariant ((state.setObject client object).start .run (.enroll client :: rest)) := by
  have sound := invariant.toSound.setObject subscriptions closed (by simp [handed, dialed])
  refine ⟨⟨⟨sound.member, sound.occupied⟩, sound.closed, sound.registered, sound.bare⟩, ?_, ?_⟩
  · intro other
    have waiting := invariant.entering other
    have none : rest.count (.enroll other) = 0 := by
      refine List.count_eq_zero.mpr fun member => ?_
      exact (begins_spec (List.all_eq_true.mp begins _ member)).2 other rfl
    have stage : (((state.setObject client object).start .run (.enroll client :: rest)).object other).stage =
        if other = client then .handed else (state.object other).stage := by
      change ((state.setObject client object).object other).stage = _
      rw [setObject_object]
      split <;> simp [handed]
    have counted : (operations ((state.setObject client object).start .run
        (.enroll client :: rest)).threads).count (.enroll other) =
        (if client = other then 1 else 0) + (operations state.threads).count (.enroll other) := by
      simp only [State.start, operations_spawn, List.count_append, List.count_cons, none, beq_iff_eq,
        Op.enroll.injEq, Nat.zero_add, setObject_threads]
    rw [counted, stage, waiting]
    by_cases same : other = client
    · simp [same, dialed]
    · simp [same, Ne.symm same]
  · intro op member target found
    simp only [State.start, operations_spawn, setObject_threads, List.cons_append, List.mem_cons,
      List.mem_append] at member
    rcases member with rfl | fresh | old
    · cases found
    · rw [(begins_spec (List.all_eq_true.mp begins op fresh)).1] at found
      cases found
    · exact invariant.visited op old target found

theorem act_invariant (state : State) (action : Action) (invariant : Invariant state) :
    Invariant (act state action) := by
  cases action with
  | dial client userID workspaceID =>
      simp only [act]
      split_ifs with absent
      · have bare := invariant.bare client (by simp [absent])
        have shut := invariant.closed client
        refine setObject_invariant invariant bare.symm ?_ (by simp [absent]) (by simp [absent])
        simpa [absent, noClient, ChannelLib.empty] using shut.symm
      · exact invariant
  | register client =>
      simp only [act]
      split
      · rename_i ready
        exact register_invariant invariant ready.1 rfl rfl rfl (implicitScopes_begins _ _)
      · exact invariant
  | frame client inbound authorization =>
      simp only [act]
      split_ifs
      · exact start_invariant _ invariant (handleFrame_begins _ _ _ _)
      · exact invariant
  | unregister client =>
      simp only [act]
      split_ifs
      · exact start_invariant _ (setObject_invariant invariant rfl rfl Iff.rfl Iff.rfl) rfl
      · exact invariant
  | writePump client =>
      simp only [act]
      split
      · rename_i received
        exact setObject_invariant invariant rfl (receive_closed received) Iff.rfl Iff.rfl
      · exact invariant
  | hubBroadcast call =>
      simp only [act]
      split
      · split_ifs
        · exact start_invariant _ invariant (hubCall_begins _ _)
        · exact invariant
      · exact start_invariant _ invariant (hubCall_begins _ _)
  | dualWrite id call => exact start_invariant _ invariant (dualWrite_begins _ _)
  | publishElsewhere envelope =>
      have sound := invariant.toSound
      exact ⟨⟨⟨sound.member, sound.occupied⟩, sound.closed, sound.registered, sound.bare⟩,
        invariant.entering, invariant.visited⟩
  | deliver relay position =>
      simp only [act]
      split
      · exact start_invariant _ invariant (deliverMessage_begins _ _)
      · exact invariant
  | stop => exact start_invariant _ invariant rfl
  | cancel =>
      have sound := invariant.toSound
      exact ⟨⟨⟨sound.member, sound.occupied⟩, sound.closed, sound.registered, sound.bare⟩,
        invariant.entering, invariant.visited⟩
  | advance index choice =>
      rcases advance_cases state index choice with same | ⟨op, after, next, doing, executes, same⟩
      · rw [same]
        exact invariant
      · rw [same]
        exact advance_invariant invariant doing executes

theorem step_invariant (state : State) (action : Action) (invariant : Invariant state) :
    Invariant (step state action) := by
  unfold step
  split
  · exact invariant
  · exact act_invariant state action invariant

/-- No panic, and the rooms are those of the registered clients' subscriptions. -/
structure Safe (state : State) : Prop extends Consistent state where
  panicked : state.panicked = none

def answersConnected (state : State) : Action → Prop
  | .advance index _ =>
      match current state.threads index with
      | some op => ¬answersEvicted state op
      | none => True
  | _ => True

theorem act_panicked {state : State} {action : Action} (invariant : Invariant state)
    (running : state.panicked = none) :
    (act state action).panicked = none ↔ answersConnected state action := by
  have quiet : (act state action).panicked = state.panicked → answersConnected state action →
      ((act state action).panicked = none ↔ answersConnected state action) :=
    fun same allowed => iff_of_true (same.trans running) allowed
  cases action with
  | advance index choice =>
      simp only [answersConnected]
      cases doing : current state.threads index with
      | none =>
          have stays : act state (.advance index choice) = state := by simp [act, doing]
          simp [stays, running]
      | some op =>
          cases executes : execute state choice op with
          | none =>
              have stays : act state (.advance index choice) = state := by simp [act, doing, executes]
              rw [stays]
              refine iff_of_true running fun answers => ?_
              cases op with
              | sendJSON client reply => cases executes
              | _ => exact answers
          | some result =>
              have executed := execute_executed invariant (mem_of_current doing) executes
              simpa [act, doing, executes] using executed.panicked running
  | register client =>
      refine quiet ?_ trivial
      simp only [act]
      split <;> rfl
  | frame client inbound authorization =>
      refine quiet ?_ trivial
      simp only [act]
      split <;> rfl
  | unregister client =>
      refine quiet ?_ trivial
      simp only [act]
      split <;> rfl
  | writePump client =>
      refine quiet ?_ trivial
      simp only [act]
      split <;> rfl
  | dial client userID workspaceID =>
      refine quiet ?_ trivial
      simp only [act]
      split <;> rfl
  | hubBroadcast call =>
      refine quiet ?_ trivial
      simp only [act]
      split
      · split <;> rfl
      · rfl
  | dualWrite id call => exact quiet rfl trivial
  | publishElsewhere envelope => exact quiet rfl trivial
  | deliver relay position =>
      refine quiet ?_ trivial
      simp only [act]
      split <;> rfl
  | stop => exact quiet rfl trivial
  | cancel => exact quiet rfl trivial

/-- The hub is safe in every state of a run exactly when no reader ever answers a client that has
been evicted. -/
theorem hub_safe_iff (callbacks : Bool) (actions : List Action) :
    RunLib.Always step Safe (initial callbacks) actions ↔
      RunLib.Every step answersConnected (initial callbacks) actions := by
  have begins : Safe (initial callbacks) :=
    ⟨(initial_invariant callbacks).toConsistent, rfl⟩
  refine RunLib.always_iff_every (initial_invariant callbacks) begins step_invariant ?_
  intro state action invariant safe
  have running := safe.panicked
  have acts : step state action = act state action := by simp [step, running]
  rw [acts, ← act_panicked invariant running]
  exact ⟨Safe.panicked, fun quiet => ⟨(act_invariant state action invariant).toConsistent, quiet⟩⟩

def plainly : Choice := ⟨[], [], true⟩

def advance : Action := .advance 0 plainly

def connecting : List Action :=
  [.dial 0 "u" "w", .register 0, advance, advance, advance]

def ping : InboundFrame := .decoded "ping" "" "" false

def pings : Nat → List Action
  | 0 => []
  | count + 1 => .frame 0 ping .unset :: advance :: pings count

def evicting : List Action :=
  .hubBroadcast (.broadcast (.text "frame")) :: List.replicate 5 advance

structure Connected (state : State) (held : Nat) : Prop where
  running : state.panicked = none
  quiet : state.threads = []
  clients : state.clients = [0]
  reading : (state.object 0).reading = true
  stage : (state.object 0).stage = .enrolled
  opened : (state.object 0).send.closed = false
  held : (state.object 0).send.buffer.length = held

theorem ping_connected {state : State} {held : Nat} (connected : Connected state held)
    (room : held < sendCapacity) : Connected (RunLib.run step state (pings 1)) (held + 1) := by
  obtain ⟨running, quiet, clients, reading, stage, opened, length⟩ := connected
  have space : (state.object 0).send.buffer.length < sendCapacity := by omega
  obtain ⟨send, sent⟩ : ∃ send, trySend (state.object 0).send (.reply ⟨"pong", []⟩) = .sent send :=
    trySend_room opened space
  obtain ⟨shut, grown⟩ := trySend_sent sent
  have answered : RunLib.run step state (pings 1) = { state.setObject 0
      (delivering (state.object 0) send (.reply ⟨"pong", []⟩)) with threads := [] } := by
    simp [RunLib.run, pings, advance, step, act, running, quiet, reading, idle, ping, handleFrame,
      State.start, State.setObject, spawn, current, execute, sendJSON, sent, proceed]
  rw [answered]
  exact ⟨running, rfl, clients, by simp [delivering, reading], by simp [delivering, stage],
    by simp [delivering, shut, opened], by simp [delivering, grown, length]⟩

theorem pings_connected (count : Nat) {state : State} {held : Nat} (connected : Connected state held)
    (room : held + count ≤ sendCapacity) :
    Connected (RunLib.run step state (pings count)) (held + count) := by
  induction count generalizing state held with
  | zero => exact connected
  | succ count ih =>
      have next := ih (ping_connected connected (by omega)) (by omega)
      rw [show held + (count + 1) = held + 1 + count by omega]
      exact next

theorem connecting_connected : Connected (RunLib.run step (initial false) connecting) 0 :=
  ⟨rfl, rfl, rfl, rfl, rfl, rfl, rfl⟩

theorem broadcast_slow {state : State} (connected : Connected state sendCapacity) :
    RunLib.run step state (evicting.take 5) = { state with threads := [⟨.run, [.evictSlow [0]]⟩] } := by
  obtain ⟨running, quiet, clients, reading, stage, opened, length⟩ := connected
  have full : ∀ message, trySend (state.object 0).send message = .full := by
    intro message
    rw [trySend, if_neg (by simp [opened]), dif_neg (by omega)]
  simp [RunLib.run, evicting, advance, step, act, running, quiet, idle, hubCall, fanoutAllDedup,
    State.start, spawn, current, execute, proceed, visit, put, full, clients, Fanout.audience,
    Fanout.excludes, markSeen, arranged, State.setObject, plainly]

theorem ping_evicted {state : State} {send : Chan Message sendCapacity} (running : state.panicked = none)
    (reading : (state.object 0).reading = true) (free : idle state.threads (.reader 0) = true)
    (holds : (state.object 0).send = send) (shut : send.closed = true) :
    (RunLib.run step state (pings 1)).panicked = some .sendOnClosedChannel := by
  have panics : trySend send (.reply ⟨"pong", []⟩) = .panic := trySend_panic.mpr shut
  simp [RunLib.run, pings, advance, step, act, running, reading, free, ping, handleFrame, State.start,
    spawn, current, execute, sendJSON, holds, panics]

theorem evict_ping {state : State} (invariant : Invariant state) (running : state.panicked = none)
    (threads : state.threads = [⟨.run, [.evictSlow [0]]⟩]) (present : 0 ∈ state.clients)
    (reading : (state.object 0).reading = true) :
    (RunLib.run step state (advance :: pings 1)).panicked = some .sendOnClosedChannel := by
  obtain ⟨send, shut, dropped⟩ := @dropClient_present state 0 [] invariant.toSound present
  have calm := (@dropClient_framed state 0 [] invariant.toSound).2
  have doing : current state.threads 0 = some (.evictSlow [0]) := by rw [threads]; rfl
  have free : state.readLocked = false := by rw [State.readLocked, threads]; rfl
  have evicts : step state advance = { (dropClient [] state 0).1 with
      threads := proceed state.threads 0 (onLastSubscriber state (dropClient [] state 0).2) } := by
    simp [step, act, advance, running, doing, execute, free, dropAll, plainly]
  rw [RunLib.run_cons, evicts]
  refine ping_evicted (calm.trans running) ?_ ?_ (by rw [dropped, setObject_object, if_pos rfl]) shut
  · rw [dropped, setObject_object, if_pos rfl]
    exact reading
  · -- What is left of the eviction runs on the event loop, not on the reader.
    rw [threads]
    cases onLastSubscriber state (dropClient [] state 0).2 <;> rfl

theorem full_evicted {state : State} (invariant : Invariant state)
    (connected : Connected state sendCapacity) :
    (RunLib.run step state (evicting ++ pings 1)).panicked = some .sendOnClosedChannel := by
  have later := RunLib.run_invariant invariant step_invariant (evicting.take 5)
  rw [show evicting ++ pings 1 = evicting.take 5 ++ (advance :: pings 1) from rfl, RunLib.run_append]
  rw [broadcast_slow connected] at later ⊢
  exact evict_ping later connected.running rfl (by simp [connected.clients]) connected.reading

/-- A client that does not read is evicted by a broadcast and pings once more. -/
theorem hub_panics : ¬RunLib.Always step Safe (initial false)
    (connecting ++ (pings sendCapacity ++ (evicting ++ pings 1))) := by
  intro always
  have connected := pings_connected sendCapacity connecting_connected (by simp)
  rw [Nat.zero_add] at connected
  have invariant := RunLib.run_invariant (initial_invariant false) step_invariant
    (connecting ++ pings sendCapacity)
  rw [RunLib.run_append] at invariant
  have last := always.last.panicked
  rw [RunLib.run_append, RunLib.run_append, full_evicted invariant connected] at last
  cases last

end MulticaOS.Realtime
