import MulticaOS.Chats.Settlement

/-!
The runs of a cancelled chat task: every state settles properly exactly when every restore is of input
that the task owns.
-/

namespace MulticaOS.Chats

structure Sound (batch : List ChatMessage) (state : State) : Prop where
  fits : CancelFits state
  ticket : chances state ≤ 1
  distinct : (state.messages.map ChatMessage.id).Nodup
  bounded : ∀ message ∈ state.messages, message.id < state.nextId
  handed : ∀ id, HandedBack state id → id < state.nextId
  kept : ∀ message ∈ state.messages, ¬HandedBack state message.id
  input : ∀ message ∈ batch, message.inputOf (chatInputOwnerID state.task) = true
  batchDistinct : (batch.map ChatMessage.id).Nodup
  batchBounded : ∀ message ∈ batch, message.id < state.nextId
  waiting : state.settlements = 0 → (liveSession state).isSome = true →
    inputBatch state = batch ∧ stoppedRows state = 0

section

variable {batch : List ChatMessage} {state next : State}

theorem Uncancelled.sound (uncancelled : Uncancelled state) : Sound (inputBatch state) state := by
  have part : (inputBatch state).Sublist state.messages := List.filter_sublist
  refine ⟨fits_none uncancelled.uncancelled, ?_, uncancelled.distinct, uncancelled.bounded,
    uncancelled.handed, uncancelled.unreturned, fun message member => (List.mem_filter.mp member).2,
    uncancelled.distinct.sublist (part.map _), fun message member =>
      uncancelled.bounded message (part.subset member), fun _ _ => ⟨rfl, uncancelled.unstopped⟩⟩
  simp only [chances, uncancelled.uncancelled, uncancelled.undeferred, uncancelled.unsettled]
  have once := Bool.toNat_le state.task.status.live
  simpa using once

theorem returned_eq_zero {message : ChatMessage} (kept : ¬HandedBack state message.id) :
    returned state message = 0 := by
  simp only [HandedBack, not_or, not_exists, not_and] at kept
  have results : state.results.countP (CancelledChatMessageResult.holds message) = 0 := by
    refine List.countP_eq_zero.mpr fun result member holds => kept.1 result member ?_
    simp only [CancelledChatMessageResult.holds, Bool.and_eq_true, decide_eq_true_eq] at holds
    exact holds.1
  have restores : state.restores.countP (ChatDraftRestore.holds message) = 0 := by
    refine List.countP_eq_zero.mpr fun restore member holds => kept.2 restore member ?_
    simp only [ChatDraftRestore.holds, Bool.and_eq_true, decide_eq_true_eq] at holds
    exact holds.1
  rw [returned, results, restores]

theorem SameTask.owner (same : SameTask state next) : chatInputOwnerID next.task = chatInputOwnerID state.task := by
  rw [chatInputOwnerID, chatInputOwnerID, same.id, same.input]

theorem SameTask.liveSession (same : SameTask state next) : liveSession next = Chats.liveSession state := by
  rw [Chats.liveSession, Chats.liveSession, same.session, same.sessions]

theorem Sound.quiet (sound : Sound batch state) (quiet : Quiet state next) : Sound batch next := by
  have handed : ∀ id, HandedBack next id ↔ HandedBack state id := by
    intro id
    rw [HandedBack, HandedBack, quiet.results, quiet.restores]
  refine ⟨quiet.fits, Nat.le_trans quiet.spends sound.ticket, by rw [quiet.messages]; exact sound.distinct, ?_, ?_, ?_,
    by rw [quiet.owner]; exact sound.input, sound.batchDistinct, by rw [quiet.nextId]; exact sound.batchBounded,
    ?_⟩
  · rw [quiet.messages, quiet.nextId]
    exact sound.bounded
  · intro id back
    rw [quiet.nextId]
    exact sound.handed id ((handed id).mp back)
  · intro message member back
    rw [quiet.messages] at member
    exact sound.kept message member ((handed message.id).mp back)
  · intro unsettled live
    rw [quiet.settlements] at unsettled
    rw [quiet.liveSession] at live
    rw [inputBatch, stoppedRows, quiet.messages, quiet.owner, quiet.id]
    exact sound.waiting unsettled live

theorem Sound.added (sound : Sound batch state) {message : ChatMessage} (added : Added state next message)
    (waiting : next.settlements = 0 → state.settlements = 0 ∧
      message.inputOf (chatInputOwnerID state.task) = false ∧ message.stopped state.task.id = false) :
    Sound batch next := by
  have handed : ∀ id, HandedBack next id ↔ HandedBack state id := by
    intro id
    rw [HandedBack, HandedBack, added.results, added.restores]
  refine ⟨added.fits, Nat.le_trans added.spends sound.ticket, ?_, ?_, ?_, ?_, by rw [added.owner]; exact sound.input,
    sound.batchDistinct, ?_, ?_⟩
  · rw [added.messages, List.map_append]
    refine List.Nodup.append sound.distinct (List.nodup_singleton _) ?_
    intro id listed new
    obtain ⟨other, member, rfl⟩ := List.mem_map.mp listed
    have below := sound.bounded other member
    rw [List.map_singleton, List.mem_singleton, added.own] at new
    rw [new] at below
    exact Nat.lt_irrefl _ below
  · intro other member
    rw [added.messages, List.mem_append, List.mem_singleton] at member
    rw [added.nextId]
    rcases member with listed | rfl
    · exact Nat.lt_succ_of_lt (sound.bounded other listed)
    · rw [added.own]
      exact Nat.lt_succ_self _
  · intro id back
    rw [added.nextId]
    exact Nat.lt_succ_of_lt (sound.handed id ((handed id).mp back))
  · intro other member back
    have before := (handed other.id).mp back
    rw [added.messages, List.mem_append, List.mem_singleton] at member
    rcases member with listed | rfl
    · exact sound.kept other listed before
    · have below := sound.handed _ before
      rw [added.own] at below
      exact Nat.lt_irrefl _ below
  · intro other member
    rw [added.nextId]
    exact Nat.lt_succ_of_lt (sound.batchBounded other member)
  · intro unsettled live
    obtain ⟨before, foreign, silent⟩ := waiting unsettled
    rw [added.liveSession] at live
    obtain ⟨same, none⟩ := sound.waiting before live
    rw [inputBatch, stoppedRows, added.messages, added.owner, added.id]
    refine ⟨?_, ?_⟩
    · rw [List.filter_append, List.filter_singleton, foreign, cond_false, List.append_nil]
      exact same
    · rw [List.countP_append, List.countP_singleton, silent]
      exact none

theorem Sound.withdrawn (sound : Sound batch state) (withdrawn : Withdrawn state next) : Sound batch next := by
  have part : next.messages.Sublist state.messages := by
    rw [withdrawn.messages]
    exact List.filter_sublist
  refine ⟨withdrawn.fits, Nat.le_trans withdrawn.spends sound.ticket, sound.distinct.sublist (part.map _), ?_, ?_, ?_,
    by rw [withdrawn.owner]; exact sound.input, sound.batchDistinct,
    by rw [withdrawn.nextId]; exact sound.batchBounded, ?_⟩
  · intro message member
    rw [withdrawn.nextId]
    exact sound.bounded message (part.subset member)
  · intro id back
    rw [withdrawn.nextId]
    rcases (withdrawn.handed id).mp back with before | ⟨first, found, rfl⟩
    · exact sound.handed id before
    · exact sound.bounded first (List.mem_of_find?_eq_some found)
  · intro message member back
    rcases (withdrawn.handed message.id).mp back with before | ⟨first, found, same⟩
    · exact sound.kept message (part.subset member) before
    · obtain rfl := List.inj_on_of_nodup_map sound.distinct (List.mem_of_find?_eq_some found)
        (part.subset member) same
      rw [withdrawn.messages, List.mem_filter, List.find?_some found] at member
      exact absurd member.2 (by simp)
  · intro unsettled
    have settled := withdrawn.settlements
    omega

theorem deleted_liveSession {session : Id} (own : state.task.chatSessionId = some session) :
    liveSession (deleteChatSession state session) = none := by
  simp [liveSession, deleteChatSession, own]

theorem Sound.deleted (sound : Sound batch state) {session : Id} (own : state.task.chatSessionId = some session) :
    Sound batch (deleteChatSession state session) := by
  have gone := deleted_liveSession own
  have part : (deleteChatSession state session).messages.Sublist state.messages := List.filter_sublist
  have handed : ∀ id, HandedBack (deleteChatSession state session) id → HandedBack state id := by
    rintro id (stored | ⟨restore, member, same⟩)
    · exact .inl stored
    · exact .inr ⟨restore, List.mem_of_mem_filter member, same⟩
  have same : (deleteChatSession state session).task.id = state.task.id ∧
      (deleteChatSession state session).task.chatInputTaskId = state.task.chatInputTaskId := by
    simp [deleteChatSession, own]
  have owner : chatInputOwnerID (deleteChatSession state session).task = chatInputOwnerID state.task := by
    rw [chatInputOwnerID, chatInputOwnerID, same.1, same.2]
  refine ⟨?_, ?_, sound.distinct.sublist (part.map _), fun message member =>
    sound.bounded message (part.subset member), fun id back => sound.handed id (handed id back),
    fun message member back => sound.kept message (part.subset member) (handed _ back),
    by rw [owner]; exact sound.input, sound.batchDistinct, sound.batchBounded, ?_⟩
  · intro cancel pending
    obtain ⟨sameId, sameInput, -⟩ := sound.fits cancel pending
    refine ⟨sameId.trans same.1.symm, sameInput.trans same.2.symm, fun live => ?_⟩
    rw [gone] at live
    contradiction
  · have spends : chances (deleteChatSession state session) ≤ chances state := by
      have ended : TaskQueue.Status.live .cancelled = false := rfl
      simp only [chances, deleteChatSession, own, if_true]
      split
      · simp only [ended, Bool.toNat_false]
        omega
      · exact Nat.le_refl _
    exact Nat.le_trans spends sound.ticket
  · intro unsettled live
    rw [gone] at live
    contradiction

theorem Effect.sound (sound : Sound batch state) {action : Action} (effect : Effect state action next) :
    Sound batch next := by
  cases effect with
  | quiet idle quiet => exact sound.quiet quiet
  | other idle added foreign unowned settlements =>
      refine sound.added added fun unsettled => ⟨settlements ▸ unsettled, ?_, ?_⟩
      · simp [ChatMessage.inputOf, unowned]
      · simp [ChatMessage.stopped, foreign]
  | stopped idle added stops settlements =>
      refine sound.added added fun unsettled => ?_
      rw [settlements] at unsettled
      omega
  | withdrawn settles withdrawn => exact sound.withdrawn withdrawn
  | deleted session idle own => exact sound.deleted own

theorem Settles.quiet (settles : Settles batch state) (quiet : Quiet state next) : Settles batch next := by
  have returns : ∀ message, returned next message = returned state message := by
    intro message
    rw [returned, returned, quiet.results, quiet.restores]
  have stops : stoppedRows next = stoppedRows state := by rw [stoppedRows, stoppedRows, quiet.messages, quiet.id]
  have outcomes : (Stopped batch next ↔ Stopped batch state) ∧ (Restored batch next ↔ Restored batch state) := by
    simp only [Stopped, Restored, returns, stops, quiet.messages, and_self]
  refine ⟨by rw [quiet.settlements]; exact settles.once, ?_, ?_⟩
  · rw [quiet.settlements, quiet.liveSession, outcomes.1, outcomes.2]
    exact settles.outcome
  · rw [quiet.liveSession, quiet.messages]
    simp only [returns]
    exact settles.kept

theorem Sound.mem_added (sound : Sound batch state) {message : ChatMessage} (added : Added state next message)
    {other : ChatMessage} (member : other ∈ batch) : other ∈ next.messages ↔ other ∈ state.messages := by
  rw [added.messages, List.mem_append, List.mem_singleton]
  refine ⟨fun listed => ?_, .inl⟩
  rcases listed with listed | rfl
  · exact listed
  · have below := sound.batchBounded _ member
    rw [added.own] at below
    exact absurd below (Nat.lt_irrefl _)

theorem Added.returned {message : ChatMessage} (added : Added state next message) (other : ChatMessage) :
    returned next other = Chats.returned state other := by
  rw [Chats.returned, Chats.returned, added.results, added.restores]

theorem Added.stoppedRows {message : ChatMessage} (added : Added state next message) :
    stoppedRows next = Chats.stoppedRows state + (if message.stopped state.task.id then 1 else 0) := by
  rw [Chats.stoppedRows, Chats.stoppedRows, added.messages, added.id, List.countP_append, List.countP_singleton]

theorem Settles.kept_added (settles : Settles batch state) (sound : Sound batch state) {message : ChatMessage}
    (added : Added state next message) : (liveSession next).isSome = true → ∀ other ∈ batch,
      (other ∈ next.messages ∧ returned next other = 0) ∨ (other ∉ next.messages ∧ returned next other = 1) := by
  intro live other member
  rw [added.liveSession] at live
  rw [added.returned, sound.mem_added added member]
  exact settles.kept live other member

theorem Settles.other (settles : Settles batch state) (sound : Sound batch state) {message : ChatMessage}
    (added : Added state next message) (foreign : message.taskId ≠ some state.task.id)
    (settlements : next.settlements = state.settlements) : Settles batch next := by
  have silent : message.stopped state.task.id = false := by simp [ChatMessage.stopped, foreign]
  have stops : stoppedRows next = stoppedRows state := by
    rw [added.stoppedRows, silent]
    rfl
  have stopped : Stopped batch next ↔ Stopped batch state := by
    rw [Stopped, Stopped, stops]
    exact and_congr_right fun _ => forall₂_congr fun other member => sound.mem_added added member
  have restored : Restored batch next ↔ Restored batch state := by
    rw [Restored, Restored, stops]
    refine and_congr_right fun _ => forall₂_congr fun other member => ?_
    rw [added.returned, sound.mem_added added member]
  refine ⟨by rw [settlements]; exact settles.once, ?_, settles.kept_added sound added⟩
  rw [settlements, added.liveSession, stopped, restored]
  exact settles.outcome

theorem Sound.unsettled (sound : Sound batch state) (same : SameTask state next)
    (settlements : next.settlements = state.settlements + 1) : state.settlements = 0 := by
  have ticket := Nat.le_trans same.spends sound.ticket
  rw [chances] at ticket
  omega

theorem Settles.stopped (settles : Settles batch state) (sound : Sound batch state) {message : ChatMessage}
    (added : Added state next message) (stops : message.stopped state.task.id = true)
    (settlements : next.settlements = state.settlements + 1) : Settles batch next := by
  have unsettled := sound.unsettled added.toSameTask settlements
  refine ⟨by omega, fun _ live => ?_, settles.kept_added sound added⟩
  rw [added.liveSession] at live
  obtain ⟨same, none⟩ := sound.waiting unsettled live
  have one : stoppedRows next = 1 := by rw [added.stoppedRows, none, stops]; rfl
  refine .inl ⟨⟨one, fun other member => ?_⟩, fun restored => ?_⟩
  · rw [sound.mem_added added member]
    rw [← same] at member
    exact List.mem_of_mem_filter member
  · rw [restored.1] at one
    contradiction

theorem Withdrawn.stoppedRows (withdrawn : Withdrawn state next) : stoppedRows next = Chats.stoppedRows state := by
  rw [Chats.stoppedRows, Chats.stoppedRows, withdrawn.messages, withdrawn.id, List.countP_filter]
  refine List.countP_congr fun message _ => ?_
  simp only [ChatMessage.stopped, ChatMessage.inputOf, Bool.and_eq_true, Bool.not_eq_true',
    decide_eq_true_eq, Bool.and_eq_false_iff, decide_eq_false_iff_not]
  constructor
  · exact And.left
  · rintro ⟨⟨linked, isAssistant⟩, text⟩
    exact ⟨⟨⟨linked, isAssistant⟩, text⟩, .inr (by rw [isAssistant]; decide)⟩

theorem Withdrawn.settles_iff (withdrawn : Withdrawn state next) (sound : Sound batch state)
    (live : (liveSession state).isSome = true) : Settles batch next ↔ ownsInput state := by
  have unsettled := sound.unsettled withdrawn.toSameTask withdrawn.settlements
  obtain ⟨same, none⟩ := sound.waiting unsettled live
  have noStop : Chats.stoppedRows next = 0 := withdrawn.stoppedRows.trans none
  have nextLive : (liveSession next).isSome = true := by rw [withdrawn.liveSession]; exact live
  have before : ∀ message ∈ batch, message ∈ state.messages ∧ Chats.returned state message = 0 := by
    intro message member
    rw [← same] at member
    have listed := List.mem_of_mem_filter member
    exact ⟨listed, returned_eq_zero (sound.kept message listed)⟩
  rw [ownsInput, same]
  constructor
  · intro settles
    have restored : Restored batch next := by
      rcases settles.outcome (by rw [withdrawn.settlements]; omega) nextLive with ⟨stopped, -⟩ | ⟨restored, -⟩
      · rw [stopped.1] at noStop
        contradiction
      · exact restored
    -- what is gone from the transcript was linked to the task itself
    have own : ∀ message ∈ batch, message.inputOf state.task.id = true := by
      intro message member
      by_contra foreign
      refine (restored.2 message member).1 ?_
      rw [withdrawn.messages]
      exact List.mem_filter.mpr ⟨(before message member).1, by simpa using foreign⟩
    -- and each message of the batch is the one handed back
    have first : ∀ message ∈ batch, ∃ head,
        state.messages.find? (ChatMessage.inputOf state.task.id) = some head ∧ head.id = message.id := by
      intro message member
      have once := (restored.2 message member).2
      rw [withdrawn.returned, (before message member).2] at once
      cases found : state.messages.find? (ChatMessage.inputOf state.task.id) with
      | none => simp [found] at once
      | some head =>
          refine ⟨head, rfl, ?_⟩
          by_contra other
          simp [found, other] at once
    refine ⟨?_, fun nonempty => ?_⟩
    · match batch, sound.batchDistinct, first with
      | [], _, _ => exact Nat.zero_le _
      | [_], _, _ => exact Nat.le_refl _
      | left :: right :: rest, distinct, first =>
          obtain ⟨head, found, leftSame⟩ := first left (by simp)
          obtain ⟨other, alsoFound, rightSame⟩ := first right (by simp)
          obtain rfl : head = other := Option.some.inj (found.symm.trans alsoFound)
          have apart := (List.nodup_cons.mp distinct).1
          rw [← leftSame, rightSame] at apart
          exact absurd List.mem_cons_self apart
    · obtain ⟨message, member⟩ := List.exists_mem_of_ne_nil batch nonempty
      have linked := sound.input message member
      have mine := own message member
      simp only [ChatMessage.inputOf, Bool.and_eq_true, decide_eq_true_eq] at linked mine
      exact Option.some.inj (linked.1.symm.trans mine.1)
  · rintro ⟨short, own⟩
    have restored : Restored batch next := by
      refine ⟨noStop, fun message member => ?_⟩
      obtain rfl : batch = [message] := by
        match batch, short with
        | [], _ => contradiction
        | [_], _ => rw [List.mem_singleton.mp member]
      have mine := own (by simp)
      have found : state.messages.find? (ChatMessage.inputOf state.task.id) = some message := by
        rw [← List.head?_filter, ← mine]
        exact congrArg List.head? same
      refine ⟨?_, ?_⟩
      · rw [withdrawn.messages, List.mem_filter, List.find?_some found]
        simp
      · rw [withdrawn.returned, (before message member).2, found]
        simp
    refine ⟨by rw [withdrawn.settlements]; omega, fun _ _ => .inr ⟨restored, fun stopped => ?_⟩,
      fun _ message member => .inr (restored.2 message member)⟩
    rw [stopped.1] at noStop
    contradiction

theorem Effect.settles_iff (sound : Sound batch state) (settles : Settles batch state) {action : Action}
    (effect : Effect state action next) : Settles batch next ↔ RestoresOwnInput state action := by
  cases effect with
  | quiet idle quiet =>
      refine iff_of_true (settles.quiet quiet) fun restores live => ?_
      rcases idle with idle | gone
      · rw [idle] at restores
        contradiction
      · rw [gone] at live
        contradiction
  | other idle added foreign unowned settlements =>
      exact iff_of_true (settles.other sound added foreign settlements) fun restores => by
        rw [idle] at restores
        contradiction
  | stopped idle added stops settlements =>
      exact iff_of_true (settles.stopped sound added stops settlements) fun restores => by
        rw [idle] at restores
        contradiction
  | withdrawn restores withdrawn =>
      cases live : (liveSession state).isSome with
      | true =>
          rw [withdrawn.settles_iff sound live]
          exact ⟨fun owns _ _ => owns, fun allowed => allowed restores live⟩
      | false =>
          refine iff_of_true ⟨?_, ?_, ?_⟩ fun _ present => ?_
          · have unsettled := sound.unsettled withdrawn.toSameTask withdrawn.settlements
            rw [withdrawn.settlements]
            omega
          · intro _ present
            rw [withdrawn.liveSession, live] at present
            contradiction
          · intro present
            rw [withdrawn.liveSession, live] at present
            contradiction
          · rw [live] at present
            contradiction
  | deleted session idle own =>
      have gone := deleted_liveSession own
      refine iff_of_true ⟨settles.once, ?_, ?_⟩ fun restores => ?_
      · intro _ present
        rw [gone] at present
        contradiction
      · intro present
        rw [gone] at present
        contradiction
      · rw [idle] at restores
        contradiction

theorem Uncancelled.settles (uncancelled : Uncancelled state) : Settles (inputBatch state) state := by
  refine ⟨by rw [uncancelled.unsettled]; exact Nat.zero_le _, fun settled => ?_, fun _ message member => ?_⟩
  · rw [uncancelled.unsettled] at settled
    contradiction
  · have listed := List.mem_of_mem_filter member
    exact .inl ⟨listed, returned_eq_zero (uncancelled.unreturned message listed)⟩

/-- A cancelled chat task settles properly in every state of a run exactly when every settlement that
restores owns the whole input. -/
theorem settles_throughout_iff (uncancelled : Uncancelled state) (actions : List Action) :
    RunLib.Always step (Settles (inputBatch state)) state actions ↔
      RunLib.Every step RestoresOwnInput state actions := by
  refine RunLib.always_iff_every uncancelled.sound uncancelled.settles (fun other action sound => ?_)
    fun other action sound settles => ?_
  · exact (step_effect sound.fits sound.kept action).sound sound
  · exact (step_effect sound.fits sound.kept action).settles_iff sound settles

end

def sentMessage (task : ChatTask) : State :=
  ⟨[1], task, 0, [⟨5, 1, .user, "hello", some 10, false⟩], [], none, [], 6, 0⟩

def originalSend : State := sentMessage ⟨10, some 1, some 10, .queued, false, false⟩
def retryClone : State := sentMessage ⟨20, some 1, some 10, .queued, false, false⟩

def cancelled : List Action := [.cancel true, .finalize false]

theorem sentMessage_uncancelled {task : ChatTask} (session : task.chatSessionId = some 1)
    (undeferred : task.chatFinalizeDeferred = false) : Uncancelled (sentMessage task) := by
  refine ⟨by simp [liveSession, sentMessage, session], rfl, undeferred, rfl, by simp [sentMessage], ?_, ?_, ?_, ?_⟩
  · simp [sentMessage]
  · simp [HandedBack, sentMessage]
  · simp [stoppedRows, sentMessage, ChatMessage.stopped]
  · simp [HandedBack, sentMessage]

theorem originalSend_settles :
    RunLib.Always step (Settles (inputBatch originalSend)) originalSend cancelled ↔
      RunLib.Every step RestoresOwnInput originalSend cancelled :=
  settles_throughout_iff (sentMessage_uncancelled rfl rfl) cancelled

/-- A retry that is cancelled before it answers settles with neither outcome. -/
theorem retryClone_unsettled : Uncancelled retryClone ∧
    ¬RunLib.Always step (Settles (inputBatch retryClone)) retryClone cancelled := by
  refine ⟨sentMessage_uncancelled rfl rfl, fun always => ?_⟩
  rcases always.last.outcome (by decide) (by decide) with ⟨stopped, -⟩ | ⟨restored, -⟩
  · have none : stoppedRows (RunLib.run step retryClone cancelled) = 0 := by decide
    have one := stopped.1
    rw [none] at one
    contradiction
  · exact (restored.2 ⟨5, 1, .user, "hello", some 10, false⟩ (by decide)).1 (by decide)

end MulticaOS.Chats
