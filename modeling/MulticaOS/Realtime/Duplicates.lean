import MulticaOS.Realtime.Consumers
import Mathlib.Data.List.Nodup

/-!
The duplicate filter of a client: an event is put on its send channel at most once as long
as it comes back while it is still among the last events that the client accepted.
-/

namespace MulticaOS.Realtime

open ChannelLib ThreadLib WindowLib

def Message.carries (eventID : String) : Message → Bool
  | .event other _ => other = eventID
  | .reply _ => false

def Op.puts (client : ClientId) (eventID : String) : Op → Bool
  | .put fan other _ _ => other = client ∧ fan.eventID = eventID
  | _ => false

/-- An event that the client has accepted before is offered to it again only while fewer than
`dedupCapacity` others have been accepted since. -/
def offeredInTime (state : State) : Op → Prop
  | .visit fan (client :: _) _ =>
      fan.excludes (state.object client) = false → fan.eventID ∈ (state.object client).accepted →
        fan.eventID ∈ recent dedupCapacity (state.object client).accepted
  | _ => True

instance (state : State) : (op : Op) → Decidable (offeredInTime state op)
  | .visit fan (client :: _) _ => inferInstanceAs (Decidable (fan.excludes (state.object client) = false →
      fan.eventID ∈ (state.object client).accepted →
        fan.eventID ∈ recent dedupCapacity (state.object client).accepted))
  | .visit _ [] _ | .enroll _ | .subscribe _ _ | .unsubscribe _ _ | .removeClient _ | .evictSlow _
  | .clearCallbacks | .startConsumer _ | .stopConsumer _ | .stopRelay | .fanout _ | .put _ _ _ _
  | .sendJSON _ _ | .publish _ => inferInstanceAs (Decidable True)

def loopsBackInTime (state : State) : Action → Prop
  | .advance index _ => ∀ op ∈ current state.threads index, offeredInTime state op
  | _ => True

instance (state : State) : (action : Action) → Decidable (loopsBackInTime state action)
  | .advance index _ =>
      inferInstanceAs (Decidable (∀ op ∈ current state.threads index, offeredInTime state op))
  | .dial _ _ _ | .register _ | .frame _ _ _ | .unregister _ | .writePump _ | .hubBroadcast _
  | .dualWrite _ _ | .publishElsewhere _ | .deliver _ _ | .stop | .cancel =>
      inferInstanceAs (Decidable True)

structure Filtered (client : Client) : Prop where
  seenIDs : client.seenIDs = client.seenList
  seenList : client.seenList = recent dedupCapacity client.accepted
  accepted : client.accepted.Nodup

theorem Filtered.of_record {before after : Client} (filtered : Filtered before)
    (same : after.record = before.record) : Filtered after := by
  simp only [Client.record, Prod.mk.injEq] at same
  obtain ⟨seenIDs, seenList, accepted, -⟩ := same
  exact ⟨by rw [seenIDs, seenList, filtered.seenIDs], by rw [seenList, accepted, filtered.seenList],
    by rw [accepted]; exact filtered.accepted⟩

theorem markSeen_filtered {client marked : Client} {eventID : String} (filtered : Filtered client)
    (inTime : eventID ∈ client.accepted → eventID ∈ recent dedupCapacity client.accepted)
    (passes : markSeen client eventID = some marked) :
    Filtered marked ∧
      marked.accepted = client.accepted ++ if eventID = "" then [] else [eventID] := by
  unfold markSeen at passes
  split at passes
  · rename_i empty
    obtain rfl := Option.some.inj passes
    exact ⟨filtered, by simp [empty]⟩
  · rename_i named
    split at passes
    · contradiction
    · rename_i unseen
      have fresh : eventID ∉ client.accepted := by
        intro again
        rw [filtered.seenIDs, filtered.seenList] at unseen
        exact unseen (inTime again)
      have nodup : (client.accepted ++ [eventID]).Nodup := by
        rw [List.nodup_append]
        refine ⟨filtered.accepted, by simp, ?_⟩
        intro other member last single
        rw [List.mem_singleton] at single
        rintro rfl
        exact fresh (single ▸ member)
      have grown := recent_append dedupCapacity client.accepted eventID
      rw [← filtered.seenList, push] at grown
      dsimp only at passes
      split at passes
      · rename_i crowded
        rw [if_pos crowded] at grown
        obtain rfl := Option.some.inj passes
        refine ⟨⟨?_, grown.symm, nodup⟩, by simp [named]⟩
        dsimp only
        rw [filtered.seenIDs]
        cases client.seenList ++ [eventID] with
        | nil => rfl
        | cons oldest rest => simp
      · rename_i roomy
        rw [if_neg roomy] at grown
        obtain rfl := Option.some.inj passes
        exact ⟨⟨by rw [filtered.seenIDs], grown.symm, nodup⟩, by simp [named]⟩

structure Recorded (state : State) : Prop extends Invariant state where
  filtered : ∀ client, Filtered (state.object client)
  counted : ∀ client eventID, eventID ≠ "" →
    (state.object client).delivered.countP (Message.carries eventID) +
        (operations state.threads).countP (Op.puts client eventID) ≤
      (state.object client).accepted.count eventID

theorem initial_recorded (callbacks : Bool) : Recorded (initial callbacks) where
  toInvariant := initial_invariant callbacks
  filtered := fun _ => ⟨rfl, by simp [initial, noClient, recent], List.nodup_nil⟩
  counted := by simp [initial, noClient]

theorem countP_carries (messages : List Message) (eventID : String) :
    messages.countP (Message.carries eventID) =
      (messages.filter Message.isEvent).countP (Message.carries eventID) := by
  rw [List.countP_filter]
  refine List.countP_congr fun message _ => ?_
  cases message <;> simp [Message.carries, Message.isEvent]

theorem Recorded.of_record {state after : State} {index : Nat} {op : Op} {next : List Op}
    (recorded : Recorded state) (doing : current state.threads index = some op)
    (quiet : ∀ other ∈ next, ∀ client eventID, other.puts client eventID = false)
    (same : ∀ client, (after.object client).record = (state.object client).record)
    (invariant : Invariant { after with threads := proceed state.threads index next }) :
    Recorded { after with threads := proceed state.threads index next } where
  toInvariant := invariant
  filtered := fun client => (recorded.filtered client).of_record (same client)
  counted := by
    intro client eventID named
    have counted := countP_proceed next (Op.puts client eventID) doing
    have before := recorded.counted client eventID named
    have none : next.countP (Op.puts client eventID) = 0 :=
      List.countP_eq_zero.mpr fun other member => by simp [quiet other member]
    have record := same client
    simp only [Client.record, Prod.mk.injEq] at record
    dsimp only
    rw [countP_carries, record.2.2.2, ← countP_carries, record.2.2.1]
    omega

theorem visit_recorded {state : State} {index : Nat} {fan : Fanout} {client : ClientId}
    {marked : Client} {remaining slow : List ClientId} (recorded : Recorded state)
    (doing : current state.threads index = some (.visit fan (client :: remaining) slow))
    (inTime : fan.eventID ∈ (state.object client).accepted →
      fan.eventID ∈ recent dedupCapacity (state.object client).accepted)
    (passes : markSeen (state.object client) fan.eventID = some marked)
    (invariant : Invariant { state.setObject client marked with
      threads := proceed state.threads index [.put fan client remaining slow] }) :
    Recorded { state.setObject client marked with
      threads := proceed state.threads index [.put fan client remaining slow] } := by
  obtain ⟨filtered, accepted⟩ := markSeen_filtered (recorded.filtered client) inTime passes
  have delivered := (markSeen_frame passes).2.2.2
  refine ⟨invariant, ?_, ?_⟩
  · intro other
    change Filtered ((state.setObject client marked).object other)
    rw [setObject_object]
    by_cases same : other = client
    · simpa [same] using filtered
    · simpa [same] using recorded.filtered other
  · intro other eventID named
    have before := recorded.counted other eventID named
    have counted := countP_proceed [.put fan client remaining slow] (Op.puts other eventID) doing
    have visits : [Op.visit fan (client :: remaining) slow].countP (Op.puts other eventID) = 0 := rfl
    change ((state.setObject client marked).object other).delivered.countP _ +
      (operations (proceed state.threads index _)).countP _ ≤
        ((state.setObject client marked).object other).accepted.count eventID
    rw [setObject_object]
    by_cases same : other = client
    · subst same
      rw [if_pos rfl, delivered, accepted, List.count_append]
      by_cases event : fan.eventID = eventID
      · have one : [Op.put fan other remaining slow].countP (Op.puts other eventID) = 1 := by
          simp [Op.puts, event]
        have more : (if fan.eventID = "" then [] else [fan.eventID]).count eventID = 1 := by
          simp [event, named]
        omega
      · have none : [Op.put fan other remaining slow].countP (Op.puts other eventID) = 0 := by
          simp [Op.puts, event]
        omega
    · have none : [Op.put fan client remaining slow].countP (Op.puts other eventID) = 0 := by
        simp [Op.puts, Ne.symm same]
      rw [if_neg same]
      omega

theorem put_recorded {state : State} {index : Nat} {fan : Fanout} {client : ClientId}
    {send : Chan Message sendCapacity} {remaining slow : List ClientId} (recorded : Recorded state)
    (doing : current state.threads index = some (.put fan client remaining slow))
    (invariant : Invariant { state.setObject client
        (delivering (state.object client) send (.event fan.eventID fan.message)) with
      threads := proceed state.threads index [.visit fan remaining slow] }) :
    Recorded { state.setObject client
        (delivering (state.object client) send (.event fan.eventID fan.message)) with
      threads := proceed state.threads index [.visit fan remaining slow] } := by
  refine ⟨invariant, ?_, ?_⟩
  · intro other
    change Filtered ((state.setObject client _).object other)
    rw [setObject_object]
    by_cases same : other = client
    · rw [if_pos same]
      have filtered := recorded.filtered client
      exact ⟨filtered.seenIDs, filtered.seenList, filtered.accepted⟩
    · simpa [same] using recorded.filtered other
  · intro other eventID named
    have before := recorded.counted other eventID named
    have counted := countP_proceed [.visit fan remaining slow] (Op.puts other eventID) doing
    have visits : [Op.visit fan remaining slow].countP (Op.puts other eventID) = 0 := rfl
    change ((state.setObject client _).object other).delivered.countP _ +
      (operations (proceed state.threads index _)).countP _ ≤
        ((state.setObject client _).object other).accepted.count eventID
    rw [setObject_object]
    by_cases same : other = client
    · subst same
      rw [if_pos rfl, delivering]
      dsimp only
      rw [List.countP_append]
      by_cases event : fan.eventID = eventID
      · have one : [Op.put fan other remaining slow].countP (Op.puts other eventID) = 1 := by
          simp [Op.puts, event]
        have more : [Message.event fan.eventID fan.message].countP (Message.carries eventID) = 1 := by
          simp [Message.carries, event]
        omega
      · have more : [Message.event fan.eventID fan.message].countP (Message.carries eventID) = 0 := by
          simp [Message.carries, event]
        omega
    · rw [if_neg same]
      omega

theorem callbacks_quiet {next : List Op}
    (callbacks : ∀ other ∈ next, ∃ key, other = .startConsumer key ∨ other = .stopConsumer key) :
    ∀ other ∈ next, ∀ client eventID, other.puts client eventID = false := by
  intro other member client eventID
  obtain ⟨_, rfl | rfl⟩ := callbacks other member <;> rfl

theorem sendJSON_record (state : State) (client : ClientId) (reply : Reply) (other : ClientId) :
    ((sendJSON state client reply).object other).record = (state.object other).record := by
  simp only [sendJSON]
  split
  · rw [setObject_object]
    by_cases same : other = client
    · simp [same, delivering, Client.record, Message.isEvent]
    · simp [same]
  · rfl
  · rfl

theorem advance_recorded {state after : State} {index : Nat} {choice : Choice} {op : Op}
    {next : List Op} (recorded : Recorded state) (doing : current state.threads index = some op)
    (inTime : offeredInTime state op) (executes : execute state choice op = some (after, next)) :
    Recorded { after with threads := proceed state.threads index next } := by
  have invariant := advance_invariant recorded.toInvariant doing executes
  have sound := recorded.toSound
  cases op with
  | enroll client =>
      simp only [execute] at executes
      split at executes
      · contradiction
      · obtain ⟨rfl, rfl⟩ := outcome_of_some executes
        refine recorded.of_record doing (by simp) ?_ invariant
        intro other
        by_cases same : other = client
        · simp [enroll, State.setObject, same, Client.record]
        · simp [enroll, State.setObject, same]
  | subscribe client key =>
      simp only [execute] at executes
      split at executes
      · contradiction
      · obtain ⟨rfl, rfl⟩ := outcome_of_some executes
        exact recorded.of_record doing
          (callbacks_quiet (subscribeLocked_callbacks state client key).1)
          subscribeLocked_framed.record invariant
  | unsubscribe client key =>
      simp only [execute] at executes
      split at executes
      · contradiction
      · obtain ⟨rfl, rfl⟩ := outcome_of_some executes
        exact recorded.of_record doing
          (callbacks_quiet (unsubscribeLocked_callbacks state client key).1)
          unsubscribeLocked_framed.record invariant
  | removeClient client =>
      simp only [execute] at executes
      split at executes
      · contradiction
      · obtain ⟨rfl, rfl⟩ := outcome_of_some executes
        exact recorded.of_record doing
          (callbacks_quiet (onLastSubscriber_callbacks state _)) (dropClient_framed sound).1.record
          invariant
  | evictSlow slow =>
      simp only [execute] at executes
      split at executes
      · contradiction
      · obtain ⟨rfl, rfl⟩ := outcome_of_some executes
        exact recorded.of_record doing
          (callbacks_quiet (onLastSubscriber_callbacks state _)) (dropAll_framed slow sound).1.record
          invariant
  | clearCallbacks =>
      simp only [execute] at executes
      split at executes
      · contradiction
      · obtain ⟨rfl, rfl⟩ := outcome_of_some executes
        exact recorded.of_record doing (by simp [Op.puts]) (fun _ => rfl) invariant
  | startConsumer key =>
      obtain ⟨rfl, rfl⟩ := outcome_of_some executes
      refine recorded.of_record doing (by simp) (fun _ => ?_) invariant
      unfold startConsumer
      split_ifs <;> rfl
  | stopConsumer key =>
      obtain ⟨rfl, rfl⟩ := outcome_of_some executes
      exact recorded.of_record doing (by simp) (fun _ => rfl) invariant
  | stopRelay =>
      obtain ⟨rfl, rfl⟩ := outcome_of_some executes
      exact recorded.of_record doing (by simp) (fun _ => rfl) invariant
  | fanout fan =>
      obtain ⟨rfl, rfl⟩ := outcome_of_some executes
      exact recorded.of_record doing (by simp [Op.puts]) (fun _ => rfl) invariant
  | visit fan remaining slow =>
      obtain ⟨rfl, rfl⟩ := outcome_of_some executes
      cases remaining with
      | nil =>
          refine recorded.of_record doing ?_ (fun _ => rfl) invariant
          simp only [visit]
          split <;> simp [Op.puts]
      | cons first rest =>
          have skips : ∀ other ∈ [Op.visit fan rest slow], ∀ client eventID,
              other.puts client eventID = false := by simp [Op.puts]
          simp only [visit] at invariant ⊢
          split at invariant
          · rename_i excluded
            simp only [excluded, if_true]
            exact recorded.of_record doing skips (fun _ => rfl) invariant
          · rename_i included
            simp only [included]
            cases passes : markSeen (state.object first) fan.eventID with
            | none =>
                simp only [passes] at invariant ⊢
                exact recorded.of_record doing skips (fun _ => rfl) invariant
            | some marked =>
                simp only [passes] at invariant ⊢
                exact visit_recorded recorded doing (inTime (by simpa using included)) passes invariant
  | put fan client remaining slow =>
      obtain ⟨rfl, rfl⟩ := outcome_of_some executes
      simp only [put] at invariant ⊢
      split at invariant
      · exact put_recorded recorded doing invariant
      · exact recorded.of_record doing (by simp [Op.puts]) (fun _ => rfl) invariant
      · exact recorded.of_record doing (by simp) (fun _ => rfl) invariant
  | sendJSON client reply =>
      obtain ⟨rfl, rfl⟩ := outcome_of_some executes
      exact recorded.of_record doing (by simp) (sendJSON_record state client reply) invariant
  | publish envelope =>
      obtain ⟨rfl, rfl⟩ := outcome_of_some executes
      refine recorded.of_record doing (by simp) (fun _ => ?_) invariant
      split <;> rfl

theorem Recorded.of_started {state after : State} (recorded : Recorded state)
    (started : ∃ fresh, operations after.threads = fresh ++ operations state.threads ∧
      ∀ op ∈ fresh, op.targets = [])
    (record : ∀ client, (after.object client).record = (state.object client).record)
    (invariant : Invariant after) : Recorded after := by
  obtain ⟨fresh, grown, quiet⟩ := started
  refine ⟨invariant, fun client => (recorded.filtered client).of_record (record client), ?_⟩
  intro client eventID named
  have before := recorded.counted client eventID named
  have none : fresh.countP (Op.puts client eventID) = 0 := by
    refine List.countP_eq_zero.mpr fun op member => ?_
    have served := quiet op member
    cases op <;> simp_all [Op.puts, Op.targets]
  have same := record client
  simp only [Client.record, Prod.mk.injEq] at same
  rw [grown, List.countP_append, none, countP_carries, same.2.2.2, ← countP_carries, same.2.2.1]
  omega

theorem Recorded.start {state : State} {todo : List Op} {owner : Owner} (recorded : Recorded state)
    (begins : todo.all Op.begins = true) : Recorded (state.start owner todo) :=
  recorded.of_started
    ⟨todo, by rw [State.start, operations_spawn],
      fun op member => (begins_spec (List.all_eq_true.mp begins op member)).1⟩
    (fun _ => rfl) (start_invariant owner recorded.toInvariant begins)

theorem dial_recorded {state : State} {client : ClientId} {object : Client} (recorded : Recorded state)
    (absent : (state.object client).stage = .absent) (unused : object.record = noClient.record)
    (invariant : Invariant (state.setObject client object)) :
    Recorded (state.setObject client object) := by
  simp only [Client.record, noClient, Prod.mk.injEq] at unused
  obtain ⟨seenIDs, seenList, accepted, delivered⟩ := unused
  refine ⟨invariant, ?_, ?_⟩
  · intro other
    rw [setObject_object]
    by_cases same : other = client
    · rw [if_pos same]
      exact ⟨by rw [seenIDs, seenList], by rw [seenList, accepted]; rfl, by simp [accepted]⟩
    · rw [if_neg same]
      exact recorded.filtered other
  · intro other eventID named
    have before := recorded.counted other eventID named
    rw [setObject_object, setObject_threads]
    by_cases same : other = client
    · subst same
      have none : (operations state.threads).countP (Op.puts other eventID) = 0 := by
        refine List.countP_eq_zero.mpr fun op member puts => ?_
        cases op with
        | put fan target remaining slow =>
            simp only [Op.puts, decide_eq_true_eq] at puts
            have served := recorded.visited _ member target List.mem_cons_self
            have enrolled := recorded.registered target served
            rw [puts.1, absent] at enrolled
            cases enrolled
        | _ => cases puts
      rw [if_pos rfl, none, countP_carries, delivered]
      simp
    · rw [if_neg same]
      exact before

theorem step_recorded (state : State) (action : Action) (recorded : Recorded state)
    (inTime : loopsBackInTime state action) : Recorded (step state action) := by
  unfold step
  split
  · exact recorded
  · have invariant := act_invariant state action recorded.toInvariant
    have same : ∀ (client : ClientId) (object : Client),
        object.record = (state.object client).record → ∀ other,
          ((state.setObject client object).object other).record = (state.object other).record := by
      intro client object kept other
      rw [setObject_object]
      by_cases own : other = client
      · rw [if_pos own, own, kept]
      · rw [if_neg own]
    cases action with
    | advance index choice =>
        rcases advance_cases state index choice with stays | ⟨op, after, next, doing, executes, advances⟩
        · rw [stays]
          exact recorded
        · rw [advances]
          exact advance_recorded recorded doing (inTime op doing) executes
    | dial client userID workspaceID =>
        simp only [act] at invariant ⊢
        split
        · rename_i absent
          rw [if_pos absent] at invariant
          exact dial_recorded recorded absent rfl invariant
        · exact recorded
    | register client =>
        simp only [act] at invariant ⊢
        split
        · rename_i ready
          rw [if_pos ready] at invariant
          refine recorded.of_started ⟨.enroll client :: implicitScopes client (state.object client), ?_, ?_⟩
            (same client _ rfl) invariant
          · rw [State.start, operations_spawn]
            rfl
          · intro op member
            rcases List.mem_cons.mp member with rfl | later
            · rfl
            · have begins := implicitScopes_begins client (state.object client)
              exact (begins_spec (List.all_eq_true.mp begins op later)).1
        · exact recorded
    | frame client inbound authorization =>
        simp only [act]
        split
        · exact recorded.start (handleFrame_begins _ _ _ _)
        · exact recorded
    | unregister client =>
        simp only [act] at invariant ⊢
        split
        · rename_i ready
          rw [if_pos ready] at invariant
          refine recorded.of_started ⟨[.removeClient client], ?_, by simp [Op.targets]⟩
            (same client _ rfl) invariant
          rw [State.start, operations_spawn]
          rfl
        · exact recorded
    | writePump client =>
        simp only [act] at invariant ⊢
        split
        · rename_i received
          rw [received] at invariant
          exact recorded.of_started ⟨[], rfl, by simp⟩ (same client _ rfl) invariant
        · exact recorded
    | hubBroadcast call =>
        simp only [act]
        split
        · split
          · exact recorded.start (hubCall_begins _ _)
          · exact recorded
        · exact recorded.start (hubCall_begins _ _)
    | dualWrite id call => exact recorded.start (dualWrite_begins _ _)
    | publishElsewhere envelope =>
        exact recorded.of_started ⟨[], rfl, by simp⟩ (fun _ => rfl) invariant
    | deliver relay position =>
        simp only [act]
        split
        · exact recorded.start (deliverMessage_begins _ _)
        · exact recorded
    | stop => exact recorded.start rfl
    | cancel => exact recorded.of_started ⟨[], rfl, by simp⟩ (fun _ => rfl) invariant

def OncePut (state : State) : Prop :=
  ∀ client eventID, eventID ≠ "" →
    (state.object client).delivered.countP (Message.carries eventID) ≤ 1

theorem Recorded.oncePut {state : State} (recorded : Recorded state) : OncePut state := by
  intro client eventID named
  have counted := recorded.counted client eventID named
  have once := List.nodup_iff_count_le_one.mp (recorded.filtered client).accepted eventID
  omega

/-- In every run in which events come back to a client while they are in its window, no client is
given an event twice. -/
theorem events_put_once (callbacks : Bool) (actions : List Action)
    (inTime : RunLib.Every step loopsBackInTime (initial callbacks) actions) :
    RunLib.Always step OncePut (initial callbacks) actions :=
  (RunLib.always_of_invariant (initial_recorded callbacks) step_recorded inTime).mono
    fun _ => Recorded.oncePut

def everyone (id : String) : Action := .dualWrite id (.broadcast (.object []))

theorem loopback_dropped :
    RunLib.Every step loopsBackInTime (initial false)
        (connecting ++ [everyone "e"] ++ List.replicate 5 advance ++
          [.deliver .shardedStream 0] ++ List.replicate 3 advance) ∧
      RunLib.Always step OncePut (initial false)
        (connecting ++ [everyone "e"] ++ List.replicate 5 advance ++
          [.deliver .shardedStream 0] ++ List.replicate 3 advance) := by
  have inTime : RunLib.Every step loopsBackInTime (initial false)
      (connecting ++ [everyone "e"] ++ List.replicate 5 advance ++
        [.deliver .shardedStream 0] ++ List.replicate 3 advance) := by decide
  exact ⟨inTime, events_put_once false _ inTime⟩

def eventName (number : Nat) : String := String.ofList (List.replicate (number + 1) 'e')

theorem eventName_injective : Function.Injective eventName := by
  intro left right same
  have lists := congrArg String.toList same
  simp only [eventName, String.toList_ofList] at lists
  have lengths := congrArg List.length lists
  simpa using lengths

theorem eventName_ne (number : Nat) : eventName number ≠ "" := by
  intro empty
  have lists := congrArg String.toList empty
  simp [eventName] at lists

theorem markSeen_passes {client : Client} {eventID : String} (unseen : eventID ∉ client.seenIDs) :
    ∃ marked, markSeen client eventID = some marked := by
  unfold markSeen
  rw [if_neg unseen]
  split
  · exact ⟨_, rfl⟩
  · dsimp only
    split
    · exact ⟨_, rfl⟩
    · exact ⟨_, rfl⟩

theorem fanout_puts (state : State) {fan : Fanout} {rest : List Op} {marked : Client}
    {send : Chan Message sendCapacity} (running : state.panicked = none)
    (threads : state.threads = [⟨.caller, .fanout fan :: rest⟩]) (clients : state.clients = [0])
    (all : fan.room = none) (unrestricted : fan.excludeWorkspace = "")
    (passes : markSeen (state.object 0) fan.eventID = some marked)
    (sent : trySend marked.send (.event fan.eventID fan.message) = .sent send) :
    RunLib.run step state (List.replicate 4 advance) =
      { state.setObject 0 (delivering marked send (.event fan.eventID fan.message)) with
        threads := if rest = [] then [] else [⟨.caller, rest⟩] } := by
  simp [RunLib.run, advance, step, act, running, threads, current, execute, proceed, visit, put, sent,
    clients, Fanout.audience, Fanout.excludes, all, unrestricted, arranged, State.setObject, plainly,
    passes]

structure Broadcasted (state : State) (count : Nat) : Prop where
  running : state.panicked = none
  quiet : state.threads = []
  clients : state.clients = [0]
  opened : (state.object 0).send.closed = false
  held : (state.object 0).send.buffer.length = count
  filtered : Filtered (state.object 0)
  accepted : (state.object 0).accepted = (List.range count).map eventName
  given : (Message.event (eventName 0) (injectEventID (.object []) (eventName 0))) ∈
    (state.object 0).delivered ∨ count = 0
  published : state.published[0]? = some ⟨eventName 0, "global", "all", "", .object []⟩ ∨
    count = 0 ∧ state.published = []

def broadcasting : Nat → Nat → List Action
  | _, 0 => []
  | first, count + 1 =>
      everyone (eventName first) :: List.replicate 5 advance ++ broadcasting (first + 1) count

theorem everyone_broadcasted {state : State} {count : Nat} (before : Broadcasted state count)
    (room : count < sendCapacity) :
    Broadcasted (RunLib.run step state (broadcasting count 1)) (count + 1) := by
  obtain ⟨running, quiet, clients, opened, held, filtered, accepted, given, published⟩ := before
  have fresh : eventName count ∉ (state.object 0).accepted := by
    rw [accepted, List.mem_map]
    rintro ⟨earlier, member, same⟩
    have equal := eventName_injective same
    rw [List.mem_range] at member
    omega
  have unseen : eventName count ∉ (state.object 0).seenIDs := by
    rw [filtered.seenIDs, filtered.seenList]
    exact fun member => fresh (mem_of_mem_recent member)
  obtain ⟨marked, passes⟩ := markSeen_passes unseen
  obtain ⟨refiltered, grown⟩ := markSeen_filtered filtered (fun again => absurd again fresh) passes
  obtain ⟨-, channel, -, kept⟩ := markSeen_frame passes
  let message := injectEventID (.object []) (eventName count)
  obtain ⟨send, sent⟩ : ∃ send, trySend marked.send (.event (eventName count) message) = .sent send :=
    trySend_room (by rw [channel, opened]) (by rw [channel, held]; exact room)
  obtain ⟨shut, stored⟩ := trySend_sent sent
  have puts := fanout_puts
    { state with threads := [⟨.caller, [.fanout ⟨none, "", message, eventName count⟩,
      .publish ⟨eventName count, "global", "all", "", .object []⟩]⟩] }
    running rfl clients rfl rfl passes sent
  have starts : RunLib.run step state [everyone (eventName count)] =
      { state with threads := [⟨.caller, [.fanout ⟨none, "", message, eventName count⟩,
        .publish ⟨eventName count, "global", "all", "", .object []⟩]⟩] } := by
    simp [RunLib.run, everyone, step, act, running, quiet, State.start, spawn, dualWrite,
      fanoutAllDedup, message]
  have ended : RunLib.run step state (broadcasting count 1) =
      { state.setObject 0 (delivering marked send (.event (eventName count) message)) with
        published := state.published ++ [⟨eventName count, "global", "all", "", .object []⟩]
        threads := [] } := by
    rw [show broadcasting count 1 = [everyone (eventName count)] ++ List.replicate 4 advance ++ [advance]
      from rfl, RunLib.run_append, RunLib.run_append, starts, puts]
    simp [RunLib.run, step, act, advance, running, current, execute, proceed, plainly, State.setObject]
  have own : (RunLib.run step state (broadcasting count 1)).object 0 =
      delivering marked send (.event (eventName count) message) := by
    rw [ended]
    exact (setObject_object state 0 0 _).trans (if_pos rfl)
  refine ⟨by rw [ended]; exact running, by rw [ended], by rw [ended]; exact clients, ?_, ?_, ?_, ?_, ?_, ?_⟩
  · rw [own]
    simp [delivering, shut, channel, opened]
  · rw [own]
    simp [delivering, stored, channel, held]
  · rw [own]
    exact ⟨refiltered.seenIDs, refiltered.seenList, refiltered.accepted⟩
  · rw [own]
    simp [delivering, grown, eventName_ne, accepted, List.range_succ]
  · rw [own]
    refine Or.inl ?_
    simp only [delivering, kept, List.mem_append]
    rcases given with before | rfl
    · exact Or.inl before
    · exact Or.inr (List.mem_singleton_self _)
  · rw [ended]
    refine Or.inl ?_
    rcases published with before | ⟨rfl, none⟩
    · obtain ⟨inside, -⟩ := List.getElem?_eq_some_iff.mp before
      rw [List.getElem?_append_left inside]
      exact before
    · simp [none]

theorem broadcasts_broadcasted (count : Nat) {state : State} {first : Nat}
    (before : Broadcasted state first) (room : first + count ≤ sendCapacity) :
    Broadcasted (RunLib.run step state (broadcasting first count)) (first + count) := by
  induction count generalizing state first with
  | zero => exact before
  | succ count ih =>
      have next := ih (everyone_broadcasted before (by omega)) (by omega)
      rw [← RunLib.run_append] at next
      rw [show first + (count + 1) = first + 1 + count by omega]
      exact next

theorem connecting_broadcasted : Broadcasted (RunLib.run step (initial false) connecting) 0 :=
  ⟨rfl, rfl, rfl, rfl, rfl, ⟨rfl, rfl, List.nodup_nil⟩, rfl, Or.inr rfl, Or.inr ⟨rfl, rfl⟩⟩

theorem stale_loopback {state : State} (broadcasted : Broadcasted state (dedupCapacity + 1)) :
    ¬OncePut (RunLib.run step state (.deliver .shardedStream 0 :: List.replicate 4 advance)) := by
  intro once
  obtain ⟨running, quiet, clients, opened, held, filtered, accepted, given, published⟩ := broadcasted
  have forgotten : eventName 0 ∉ (state.object 0).seenIDs := by
    rw [filtered.seenIDs, filtered.seenList, accepted, recent, List.length_map, List.length_range,
      ← List.map_drop, List.mem_map]
    rintro ⟨number, late, same⟩
    obtain rfl := eventName_injective same
    revert late
    decide
  obtain ⟨marked, passes⟩ := markSeen_passes forgotten
  obtain ⟨-, channel, -, kept⟩ := markSeen_frame passes
  let message := injectEventID (.object []) (eventName 0)
  obtain ⟨send, sent⟩ : ∃ send, trySend marked.send (.event (eventName 0) message) = .sent send :=
    trySend_room (by rw [channel, opened])
      (by rw [channel, held]; simp [dedupCapacity, sendCapacity])
  have looped : state.published[0]? = some ⟨eventName 0, "global", "all", "", .object []⟩ :=
    published.resolve_right (by simp)
  have starts : step state (.deliver .shardedStream 0) =
      { state with threads := [⟨.caller, [.fanout ⟨none, "", message, eventName 0⟩]⟩] } := by
    simp [step, act, running, quiet, looped, State.start, spawn, deliverMessage, deliverEnvelope,
      fanoutAllDedup, message, scopeDaemonRuntime]
  have puts := fanout_puts
    { state with threads := [⟨.caller, [.fanout ⟨none, "", message, eventName 0⟩]⟩] }
    running rfl clients rfl rfl passes sent
  rw [RunLib.run_cons, starts, puts] at once
  have twice := once 0 (eventName 0) (eventName_ne 0)
  change ((state.setObject 0 (delivering marked send (.event (eventName 0) message))).object
    0).delivered.countP _ ≤ 1 at twice
  rw [setObject_object, if_pos rfl, delivering] at twice
  simp only [kept, List.countP_append] at twice
  have first : 0 < (state.object 0).delivered.countP (Message.carries (eventName 0)) :=
    List.countP_pos_iff.mpr ⟨_, given.resolve_right (by simp), by simp [Message.carries]⟩
  have second : [Message.event (eventName 0) message].countP (Message.carries (eventName 0)) = 1 := by
    simp [Message.carries]
  omega

theorem event_put_twice : ¬RunLib.Always step OncePut (initial false)
    (connecting ++ (broadcasting 0 (dedupCapacity + 1) ++
      (.deliver .shardedStream 0 :: List.replicate 4 advance))) := by
  intro always
  have broadcasted := broadcasts_broadcasted (dedupCapacity + 1) connecting_broadcasted
    (by simp [dedupCapacity, sendCapacity])
  rw [Nat.zero_add] at broadcasted
  have once := always.last
  rw [RunLib.run_append, RunLib.run_append] at once
  exact stale_loopback broadcasted once

end MulticaOS.Realtime
