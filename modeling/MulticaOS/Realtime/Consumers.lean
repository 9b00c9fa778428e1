import MulticaOS.Realtime.Safety

/-!
The consumers of the Redis relay follow the rooms of the hub as long as the callbacks of a
scope end with the one that its latest transition issued.
-/

namespace MulticaOS.Realtime

open ThreadLib

def callbackOf (key : ScopeKey) : Op → Option Transition
  | .startConsumer other => if other = key then some .first else none
  | .stopConsumer other => if other = key then some .last else none
  | _ => none

def outstanding (state : State) (key : ScopeKey) : Nat :=
  (operations state.threads).countP fun op => (callbackOf key op).isSome

def lastInOrder (state : State) : Op → Prop
  | .startConsumer key => outstanding state key = 1 → state.transition key = .first
  | .stopConsumer key => outstanding state key = 1 → state.transition key = .last
  | _ => True

instance (state : State) : (op : Op) → Decidable (lastInOrder state op)
  | .startConsumer key => inferInstanceAs (Decidable (outstanding state key = 1 → state.transition key = .first))
  | .stopConsumer key => inferInstanceAs (Decidable (outstanding state key = 1 → state.transition key = .last))
  | .enroll _ | .subscribe _ _ | .unsubscribe _ _ | .removeClient _ | .evictSlow _ | .clearCallbacks
  | .stopRelay | .fanout _ | .visit _ _ _ | .put _ _ _ _ | .sendJSON _ _ | .publish _ =>
      inferInstanceAs (Decidable True)

def callbacksOrdered (state : State) : Action → Prop
  | .advance index _ => ∀ op ∈ current state.threads index, lastInOrder state op
  | _ => True

instance (state : State) : (action : Action) → Decidable (callbacksOrdered state action)
  | .advance index _ =>
      inferInstanceAs (Decidable (∀ op ∈ current state.threads index, lastInOrder state op))
  | .dial _ _ _ | .register _ | .frame _ _ _ | .unregister _ | .writePump _ | .hubBroadcast _
  | .dualWrite _ _ | .publishElsewhere _ | .deliver _ _ | .stop | .cancel =>
      inferInstanceAs (Decidable True)

/-- Neither `Stop` nor the cancellation of the relay's context has had an effect. -/
def consuming (state : State) : Prop :=
  state.callbacks = true ∧ state.stopping = false ∧ state.cancelled = false

structure Followed (state : State) : Prop extends Invariant state where
  latest : ∀ key, state.transition key = .first ↔ (state.rooms key).isSome
  stopped : state.callbacks = false → state.stopping = true ∨ .stopRelay ∈ operations state.threads
  cancelled : state.cancelled = true → state.stopping = true
  consumed : consuming state → ∀ key, outstanding state key = 0 →
    (key ∈ state.consumers ↔ state.transition key = .first)

theorem initial_followed : Followed (initial true) where
  toInvariant := initial_invariant true
  latest := by simp [initial]
  stopped := by simp [initial]
  cancelled := by simp [initial]
  consumed := by simp [initial]

/-- What an operation that is no callback does: every scope that changes between empty and non-empty
gets a callback. -/
structure Issued (before after : State) (next : List Op) : Prop where
  callbacks : after.callbacks = before.callbacks
  consumers : after.consumers = before.consumers
  stopping : after.stopping = before.stopping
  cancelled : after.cancelled = before.cancelled
  latest : (∀ key, before.transition key = .first ↔ (before.rooms key).isSome) →
    ∀ key, after.transition key = .first ↔ (after.rooms key).isSome
  turned : before.callbacks = true → ∀ key, after.transition key = before.transition key ∨
    ∃ op ∈ next, (callbackOf key op).isSome

theorem Issued.of_same {before after : State} {next : List Op}
    (callbacks : after.callbacks = before.callbacks) (consumers : after.consumers = before.consumers)
    (stopping : after.stopping = before.stopping) (cancelled : after.cancelled = before.cancelled)
    (rooms : after.rooms = before.rooms) (transition : after.transition = before.transition) :
    Issued before after next := by
  refine ⟨callbacks, consumers, stopping, cancelled, ?_, ?_⟩
  · intro latest
    rw [rooms, transition]
    exact latest
  · intro _ key
    exact Or.inl (by rw [transition])

theorem Issued.of_shrunk {before after : State} {emptied : List ScopeKey} (framed : Framed before after)
    (shrunk : Shrunk before after emptied) :
    Issued before after (onLastSubscriber before emptied) := by
  refine ⟨framed.callbacks, framed.consumers, framed.stopping, framed.cancelled, ?_, ?_⟩
  · intro latest key
    rw [shrunk.turned]
    by_cases gone : key ∈ emptied
    · simp [gone, ((shrunk.lists key).mp gone).2]
    · rw [if_neg gone, latest]
      constructor
      · intro present
        rw [Option.isSome_iff_ne_none]
        exact fun none => gone ((shrunk.lists key).mpr ⟨present, none⟩)
      · exact shrunk.fewer key
  · intro wired key
    rw [shrunk.turned]
    by_cases gone : key ∈ emptied
    · refine Or.inr ⟨.stopConsumer key, ?_, by simp [callbackOf]⟩
      simp [onLastSubscriber, wired, gone]
    · exact Or.inl (if_neg gone)

theorem subscribeLocked_issued (state : State) (client : ClientId) (key : ScopeKey) :
    Issued state (subscribeLocked state client key).1 (subscribeLocked state client key).2 := by
  unfold subscribeLocked
  by_cases absent : client ∉ state.clients
  · simpa [absent] using Issued.of_same rfl rfl rfl rfl rfl rfl
  · by_cases already : key ∈ (state.object client).subscriptions
    · simpa [absent, already] using Issued.of_same rfl rfl rfl rfl rfl rfl
    · simp only [absent, already, if_false]
      cases stored : state.rooms key with
      | none =>
          refine ⟨rfl, rfl, rfl, rfl, ?_, ?_⟩
          · intro latest other
            by_cases same : other = key
            · simp [same]
            · simpa [same] using latest other
          · intro wired other
            by_cases same : other = key
            · refine Or.inr ⟨.startConsumer key, ?_, by simp [callbackOf, same]⟩
              simp [onFirstSubscriber, wired]
            · exact Or.inl (by simp [same])
      | some room =>
          refine ⟨rfl, rfl, rfl, rfl, ?_, fun _ other => Or.inl rfl⟩
          intro latest other
          have before := latest other
          by_cases same : other = key
          · subst same
            simpa [stored] using before
          · simpa [same] using before

theorem unsubscribeLocked_issued (state : State) (client : ClientId) (key : ScopeKey) :
    Issued state (unsubscribeLocked state client key).1 (unsubscribeLocked state client key).2 := by
  unfold unsubscribeLocked
  by_cases absent : client ∉ state.clients
  · simpa [absent] using Issued.of_same rfl rfl rfl rfl rfl rfl
  · by_cases missing : key ∉ (state.object client).subscriptions
    · simpa [absent, missing] using Issued.of_same rfl rfl rfl rfl rfl rfl
    · simp only [absent, missing, if_false]
      have shrunk := leaveRooms_shrunk client [key] (state.setObject client
        { state.object client with
          subscriptions := (state.object client).subscriptions.filter (· ≠ key) })
      have framed := (leaveRooms_frame client [key] (state.setObject client
        { state.object client with
          subscriptions := (state.object client).subscriptions.filter (· ≠ key) })).framed
      have issued := Issued.of_shrunk framed shrunk
      exact ⟨issued.callbacks, issued.consumers, issued.stopping, issued.cancelled, issued.latest,
        issued.turned⟩

def Op.onRelay : Op → Bool
  | .clearCallbacks => true
  | .startConsumer _ => true
  | .stopConsumer _ => true
  | .stopRelay => true
  | _ => false

theorem execute_issued {state after : State} {choice : Choice} {op : Op} {next : List Op}
    (sound : Sound state) (hub : op.onRelay = false)
    (executes : execute state choice op = some (after, next)) : Issued state after next := by
  cases op with
  | enroll client =>
      simp only [execute] at executes
      split at executes
      · contradiction
      · obtain ⟨rfl, rfl⟩ := outcome_of_some executes
        exact Issued.of_same rfl rfl rfl rfl rfl rfl
  | subscribe client key =>
      simp only [execute] at executes
      split at executes
      · contradiction
      · obtain ⟨rfl, rfl⟩ := outcome_of_some executes
        exact subscribeLocked_issued state client key
  | unsubscribe client key =>
      simp only [execute] at executes
      split at executes
      · contradiction
      · obtain ⟨rfl, rfl⟩ := outcome_of_some executes
        exact unsubscribeLocked_issued state client key
  | removeClient client =>
      simp only [execute] at executes
      split at executes
      · contradiction
      · obtain ⟨rfl, rfl⟩ := outcome_of_some executes
        exact Issued.of_shrunk (dropClient_framed sound).1 (dropClient_shrunk sound)
  | evictSlow slow =>
      simp only [execute] at executes
      split at executes
      · contradiction
      · obtain ⟨rfl, rfl⟩ := outcome_of_some executes
        exact Issued.of_shrunk (dropAll_framed slow sound).1 (dropAll_shrunk slow sound)
  | clearCallbacks => cases hub
  | startConsumer key => cases hub
  | stopConsumer key => cases hub
  | stopRelay => cases hub
  | fanout fan =>
      obtain ⟨rfl, rfl⟩ := outcome_of_some executes
      exact Issued.of_same rfl rfl rfl rfl rfl rfl
  | visit fan remaining slow =>
      obtain ⟨rfl, rfl⟩ := outcome_of_some executes
      cases remaining with
      | nil => exact Issued.of_same rfl rfl rfl rfl rfl rfl
      | cons first rest =>
          simp only [visit]
          split
          · exact Issued.of_same rfl rfl rfl rfl rfl rfl
          · split <;> exact Issued.of_same rfl rfl rfl rfl rfl rfl
  | put fan client remaining slow =>
      obtain ⟨rfl, rfl⟩ := outcome_of_some executes
      simp only [put]
      split <;> exact Issued.of_same rfl rfl rfl rfl rfl rfl
  | sendJSON client reply =>
      obtain ⟨rfl, rfl⟩ := outcome_of_some executes
      simp only [sendJSON]
      split <;> exact Issued.of_same rfl rfl rfl rfl rfl rfl
  | publish envelope =>
      obtain ⟨rfl, rfl⟩ := outcome_of_some executes
      split <;> exact Issued.of_same rfl rfl rfl rfl rfl rfl

theorem Followed.of_issued {before after : State} {index : Nat} {op : Op} {next : List Op}
    (followed : Followed before) (doing : current before.threads index = some op)
    (hub : op.onRelay = false) (issued : Issued before after next)
    (invariant : Invariant { after with threads := proceed before.threads index next }) :
    Followed { after with threads := proceed before.threads index next } where
  toInvariant := invariant
  latest := issued.latest followed.latest
  stopped := by
    intro cleared
    rcases followed.stopped (issued.callbacks ▸ cleared) with stopping | pending
    · exact Or.inl (issued.stopping.trans stopping)
    · refine Or.inr ?_
      obtain ⟨others, front, back⟩ := operations_proceed next doing
      rcases List.mem_cons.mp (front.mem_iff.mp pending) with rfl | kept
      · cases hub
      · exact back.mem_iff.mpr (List.mem_append_right _ kept)
  cancelled := fun done => issued.stopping.trans (followed.cancelled (issued.cancelled ▸ done))
  consumed := by
    rintro ⟨wired, running, live⟩ key settled
    have before_wired : before.callbacks = true := issued.callbacks ▸ wired
    have counted := countP_proceed next (fun op => (callbackOf key op).isSome) doing
    change (operations (proceed before.threads index next)).countP _ = 0 at settled
    have other : [op].countP (fun op => (callbackOf key op).isSome) = 0 := by
      cases op <;> first | rfl | cases hub
    have silent : next.countP (fun op => (callbackOf key op).isSome) = 0 := by omega
    have quiet : outstanding before key = 0 := by
      unfold outstanding
      omega
    change key ∈ after.consumers ↔ after.transition key = .first
    have kept : after.transition key = before.transition key := by
      rcases issued.turned before_wired key with same | ⟨callback, member, issues⟩
      · exact same
      · exact absurd issues (List.countP_eq_zero.mp silent callback member)
    rw [issued.consumers, kept]
    exact followed.consumed ⟨before_wired, issued.stopping ▸ running, issued.cancelled ▸ live⟩ key quiet

structure Kept (before after : State) : Prop where
  rooms : after.rooms = before.rooms
  transition : after.transition = before.transition
  callbacks : after.callbacks = before.callbacks
  consumers : after.consumers = before.consumers
  stopping : after.stopping = before.stopping
  cancelled : after.cancelled = before.cancelled ∨
    after.cancelled = (before.stopping || before.cancelled)
  threads : ∃ fresh, operations after.threads = fresh ++ operations before.threads

theorem Kept.refl (state : State) : Kept state state :=
  ⟨rfl, rfl, rfl, rfl, rfl, Or.inl rfl, [], rfl⟩

theorem Kept.setObject (state : State) (client : ClientId) (object : Client) :
    Kept state (state.setObject client object) :=
  ⟨rfl, rfl, rfl, rfl, rfl, Or.inl rfl, [], rfl⟩

theorem Kept.start {before after : State} (kept : Kept before after) (owner : Owner)
    (todo : List Op) : Kept before (after.start owner todo) := by
  obtain ⟨fresh, grown⟩ := kept.threads
  refine ⟨kept.rooms, kept.transition, kept.callbacks, kept.consumers, kept.stopping, kept.cancelled,
    todo ++ fresh, ?_⟩
  rw [State.start, operations_spawn, grown, List.append_assoc]

theorem act_kept (state : State) (action : Action)
    (starts : ∀ index choice, action ≠ .advance index choice) : Kept state (act state action) := by
  have same := Kept.refl state
  cases action with
  | advance index choice => exact absurd rfl (starts index choice)
  | dial client userID workspaceID =>
      simp only [act]
      split
      · exact Kept.setObject state client _
      · exact same
  | register client =>
      simp only [act]
      split
      · exact (Kept.setObject state client _).start _ _
      · exact same
  | frame client inbound authorization =>
      simp only [act]
      split
      · exact same.start _ _
      · exact same
  | unregister client =>
      simp only [act]
      split
      · exact (Kept.setObject state client _).start _ _
      · exact same
  | writePump client =>
      simp only [act]
      split
      · exact Kept.setObject state client _
      · exact same
  | hubBroadcast call =>
      simp only [act]
      split
      · split
        · exact same.start _ _
        · exact same
      · exact same.start _ _
  | dualWrite id call => exact same.start _ _
  | publishElsewhere envelope => exact ⟨rfl, rfl, rfl, rfl, rfl, Or.inl rfl, [], rfl⟩
  | deliver relay position =>
      simp only [act]
      split
      · exact same.start _ _
      · exact same
  | stop => exact same.start _ _
  | cancel => exact ⟨rfl, rfl, rfl, rfl, rfl, Or.inr rfl, [], rfl⟩

theorem Followed.of_kept {before after : State} (followed : Followed before) (kept : Kept before after)
    (invariant : Invariant after) : Followed after where
  toInvariant := invariant
  latest := by
    rw [kept.rooms, kept.transition]
    exact followed.latest
  stopped := by
    obtain ⟨fresh, grown⟩ := kept.threads
    rw [kept.callbacks, kept.stopping, grown]
    intro cleared
    exact (followed.stopped cleared).imp_right (List.mem_append_right fresh)
  cancelled := by
    rw [kept.stopping]
    rcases kept.cancelled with same | same
    · rw [same]
      exact followed.cancelled
    · rw [same, Bool.or_eq_true]
      rintro (stops | done)
      · exact stops
      · exact followed.cancelled done
  consumed := by
    obtain ⟨fresh, grown⟩ := kept.threads
    rintro ⟨wired, running, live⟩ key settled
    rw [outstanding, grown, List.countP_append] at settled
    have quiet : outstanding before key = 0 := by
      rw [outstanding]
      omega
    rw [kept.consumers, kept.transition]
    refine followed.consumed ⟨kept.callbacks ▸ wired, kept.stopping ▸ running, ?_⟩ key quiet
    rcases kept.cancelled with same | same
    · exact same ▸ live
    · rw [same, Bool.or_eq_false_iff] at live
      exact live.2

theorem Followed.of_callback {state after : State} {index : Nat} {op : Op} {key : ScopeKey}
    {kind : Transition} (followed : Followed state) (doing : current state.threads index = some op)
    (calls : ∀ other, callbackOf other op = if key = other then some kind else none)
    (kept : op ≠ .stopRelay) (ordered : outstanding state key = 1 → state.transition key = kind)
    (same : after = { state with consumers := after.consumers })
    (others : ∀ other, key ≠ other → (other ∈ after.consumers ↔ other ∈ state.consumers))
    (own : consuming state → (key ∈ after.consumers ↔ kind = .first))
    (invariant : Invariant { after with threads := proceed state.threads index [] }) :
    Followed { after with threads := proceed state.threads index [] } := by
  rw [same] at invariant ⊢
  refine ⟨invariant, followed.latest, ?_, followed.cancelled, ?_⟩
  · intro cleared
    refine (followed.stopped cleared).imp_right fun pending => ?_
    obtain ⟨rest, front, back⟩ := operations_proceed [] doing
    rcases List.mem_cons.mp (front.mem_iff.mp pending) with rfl | later
    · exact absurd rfl kept
    · exact back.mem_iff.mpr later
  · intro runs other settled
    have running : consuming state := runs
    have counted := countP_proceed [] (fun op => (callbackOf other op).isSome) doing
    change (operations (proceed state.threads index [])).countP _ = 0 at settled
    change other ∈ after.consumers ↔ state.transition other = .first
    by_cases scope : key = other
    · subst scope
      have single : [op].countP (fun op => (callbackOf key op).isSome) = 1 := by simp [calls]
      have last : outstanding state key = 1 := by
        rw [outstanding]
        simp only [List.countP_nil] at counted
        omega
      rw [ordered last, own running]
    · have none : [op].countP (fun op => (callbackOf other op).isSome) = 0 := by simp [calls, scope]
      have quiet : outstanding state other = 0 := by
        rw [outstanding]
        simp only [List.countP_nil] at counted
        omega
      rw [others other scope]
      exact followed.consumed running other quiet

theorem advance_followed {state after : State} {index : Nat} {choice : Choice} {op : Op}
    {next : List Op} (followed : Followed state) (doing : current state.threads index = some op)
    (ordered : lastInOrder state op) (executes : execute state choice op = some (after, next)) :
    Followed { after with threads := proceed state.threads index next } := by
  have invariant := advance_invariant followed.toInvariant doing executes
  cases hub : op.onRelay with
  | false =>
      exact followed.of_issued doing hub (execute_issued followed.toSound hub executes) invariant
  | true =>
      cases op with
      | startConsumer key =>
          obtain ⟨rfl, rfl⟩ := outcome_of_some executes
          have same : startConsumer state key =
              { state with consumers := (startConsumer state key).consumers } := by
            unfold startConsumer
            split_ifs <;> rfl
          refine followed.of_callback doing (fun _ => rfl) (by simp) ordered same ?_ ?_ invariant
          · intro other different
            unfold startConsumer
            split_ifs <;> simp [Ne.symm different]
          · rintro ⟨-, running, live⟩
            simp only [startConsumer, running, live, Bool.false_eq_true, or_self, if_false, iff_true]
            split_ifs with already
            · exact already
            · simp
      | stopConsumer key =>
          obtain ⟨rfl, rfl⟩ := outcome_of_some executes
          refine followed.of_callback doing (fun _ => rfl) (by simp) ordered rfl ?_ ?_ invariant
          · intro other different
            simp [stopConsumer, Ne.symm different]
          · intro _
            simp [stopConsumer]
      | clearCallbacks =>
          simp only [execute] at executes
          split at executes
          · contradiction
          · obtain ⟨rfl, rfl⟩ := outcome_of_some executes
            obtain ⟨others, front, back⟩ := operations_proceed [.stopRelay] doing
            refine ⟨invariant, followed.latest, ?_, followed.cancelled, ?_⟩
            · intro _
              exact Or.inr (back.mem_iff.mpr (by simp))
            · rintro ⟨wired, -, -⟩
              cases wired
      | stopRelay =>
          obtain ⟨rfl, rfl⟩ := outcome_of_some executes
          refine ⟨invariant, followed.latest, fun _ => Or.inl rfl, fun _ => rfl, ?_⟩
          rintro ⟨-, running, -⟩
          cases running
      | _ => cases hub

theorem step_followed (state : State) (action : Action) (followed : Followed state)
    (ordered : callbacksOrdered state action) : Followed (step state action) := by
  unfold step
  split
  · exact followed
  · cases action with
    | advance index choice =>
        rcases advance_cases state index choice with same | ⟨op, after, next, doing, executes, same⟩
        · rw [same]
          exact followed
        · rw [same]
          exact advance_followed followed doing (ordered op doing) executes
    | _ =>
        exact followed.of_kept (act_kept state _ (by simp))
          (act_invariant state _ followed.toInvariant)

/-- Once nothing is left to do and the relay is not stopping, the scopes that it consumes are those
with local subscribers. -/
def Settled (state : State) : Prop :=
  state.threads = [] → state.stopping = false →
    ∀ key, key ∈ state.consumers ↔ state.members key ≠ []

theorem Followed.settled {state : State} (followed : Followed state) : Settled state := by
  intro done running key
  have wired : state.callbacks = true := by
    by_contra cleared
    rcases followed.stopped (by simpa using cleared) with stops | pending
    · rw [running] at stops
      cases stops
    · rw [done] at pending
      cases pending
  have live : state.cancelled = false := by
    by_contra dead
    have stops := followed.cancelled (by simpa using dead)
    rw [running] at stops
    cases stops
  have quiet : outstanding state key = 0 := by
    rw [outstanding, done]
    rfl
  rw [followed.consumed ⟨wired, running, live⟩ key quiet, followed.latest]
  have kept := followed.occupied key
  cases stored : state.rooms key with
  | none => simp [State.members, stored]
  | some room =>
      rw [stored] at kept
      simpa [State.members, stored] using kept

/-- In every run in which the last outstanding callback of a scope is of the kind of the scope's
latest transition, consumers follow the rooms. -/
theorem consumers_follow_rooms (actions : List Action)
    (ordered : RunLib.Every step callbacksOrdered (initial true) actions) :
    RunLib.Always step Settled (initial true) actions :=
  (RunLib.always_of_invariant initial_followed step_followed ordered).mono fun _ => Followed.settled

def task : InboundFrame := .decoded "subscribe" "task" "t" true

def joining : List Action :=
  [.dial 1 "v" "w", .register 1, advance, advance, advance, advance]

def subscribing : List Action :=
  [.dial 0 "u" "w", .register 0] ++ List.replicate 5 advance ++
    [.frame 0 task .allowed] ++ List.replicate 3 advance

theorem subscribing_followed :
    RunLib.Every step callbacksOrdered (initial true) (subscribing ++ [.unregister 0, advance, advance]) ∧
      RunLib.Always step Settled (initial true) (subscribing ++ [.unregister 0, advance, advance]) := by
  have ordered : RunLib.Every step callbacksOrdered (initial true)
      (subscribing ++ [.unregister 0, advance, advance]) := by decide
  exact ⟨ordered, consumers_follow_rooms _ ordered⟩

/-- The first client's departure empties the task's room; before its callback runs, the second client
subscribes to the task and finds the consumer there. -/
def overtaken : List Action :=
  subscribing ++ joining ++ [.unregister 0, advance, .frame 1 task .allowed] ++ List.replicate 5 advance

theorem consumer_lost : ¬RunLib.Always step Settled (initial true) overtaken := by
  intro always
  have follows := always.last rfl rfl ⟨"task", "t"⟩
  revert follows
  decide

end MulticaOS.Realtime
