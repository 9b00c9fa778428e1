import MulticaOS.Chats.Cancellation

/-!
A cancelled chat task settles at most once, and its input is in the transcript or handed back, in every
run whose restoring settlements own the whole input.
-/

namespace MulticaOS.Chats

def inputBatch (state : State) : List ChatMessage :=
  state.messages.filter (ChatMessage.inputOf (chatInputOwnerID state.task))

def ChatMessage.stopped (taskId : Id) (message : ChatMessage) : Bool :=
  message.taskId = some taskId && message.role = .assistant && message.content = "Stopped."

def stoppedRows (state : State) : Nat := state.messages.countP (ChatMessage.stopped state.task.id)

def CancelledChatMessageResult.holds (message : ChatMessage) (result : CancelledChatMessageResult) : Bool :=
  result.messageId = message.id && result.content = message.content

def ChatDraftRestore.holds (message : ChatMessage) (restore : ChatDraftRestore) : Bool :=
  restore.id = message.id && restore.content = message.content

def returned (state : State) (message : ChatMessage) : Nat :=
  state.results.countP (CancelledChatMessageResult.holds message) +
    state.restores.countP (ChatDraftRestore.holds message)

def Stopped (batch : List ChatMessage) (state : State) : Prop :=
  stoppedRows state = 1 ∧ ∀ message ∈ batch, message ∈ state.messages

def Restored (batch : List ChatMessage) (state : State) : Prop :=
  stoppedRows state = 0 ∧ ∀ message ∈ batch, message ∉ state.messages ∧ returned state message = 1

structure Settles (batch : List ChatMessage) (state : State) : Prop where
  once : state.settlements ≤ 1
  outcome : 0 < state.settlements → (liveSession state).isSome = true →
    Xor (Stopped batch state) (Restored batch state)
  kept : (liveSession state).isSome = true → ∀ message ∈ batch,
    (message ∈ state.messages ∧ returned state message = 0) ∨
      (message ∉ state.messages ∧ returned state message = 1)

def HandedBack (state : State) (id : Id) : Prop :=
  (∃ result ∈ state.results, result.messageId = id) ∨ ∃ restore ∈ state.restores, restore.id = id

structure Uncancelled (state : State) : Prop where
  session : (liveSession state).isSome = true
  uncancelled : state.cancel = none
  undeferred : state.task.chatFinalizeDeferred = false
  unsettled : state.settlements = 0
  distinct : (state.messages.map ChatMessage.id).Nodup
  bounded : ∀ message ∈ state.messages, message.id < state.nextId
  handed : ∀ id, HandedBack state id → id < state.nextId
  unstopped : stoppedRows state = 0
  unreturned : ∀ message ∈ state.messages, ¬HandedBack state message.id

def restoresDraft (state : State) (task : ChatTask) (clientSupportsDraftRestore : Bool) : Bool :=
  task.chatSessionId.isSome && restorable state task && !(task.started && clientSupportsDraftRestore)

def settlesByRestore (state : State) : Action → Bool
  | .finalize fails => !fails && state.cancel.any fun cancel =>
      restoresDraft state cancel.task cancel.clientSupportsDraftRestore
  | .settle fails => !fails && state.task.chatFinalizeDeferred && restorable state state.task
  | _ => false

def ownsInput (state : State) : Prop :=
  (inputBatch state).length ≤ 1 ∧ (inputBatch state ≠ [] → chatInputOwnerID state.task = state.task.id)

def RestoresOwnInput (state : State) (action : Action) : Prop :=
  settlesByRestore state action = true → (liveSession state).isSome = true → ownsInput state

theorem deleteUserChatMessageByTask_some {state deleted : State} {taskId : Id} {message : ChatMessage}
    (done : deleteUserChatMessageByTask state taskId = some (deleted, message)) :
    state.messages.find? (ChatMessage.inputOf taskId) = some message ∧
      deleted = { state with messages := state.messages.filter fun message => !message.inputOf taskId } := by
  obtain ⟨found, stored, same⟩ := Option.map_eq_some_iff.mp done
  cases same
  exact ⟨stored, rfl⟩

theorem createStoppedMessage_some {state stopped : State} {taskId session : Id}
    (done : createStoppedMessage state taskId session = some stopped) :
    session ∈ state.sessions ∧ stopped = { state with
      messages := state.messages ++ [⟨state.nextId, session, .assistant, "Stopped.", some taskId, false⟩]
      nextId := state.nextId + 1 } := by
  rw [createStoppedMessage] at done
  split at done
  · rename_i stored
    exact ⟨by simpa using stored, (Option.some.inj done).symm⟩
  · contradiction

theorem createChatDraftRestore_some {state restored : State} {session taskId : Id} {message : ChatMessage}
    (done : createChatDraftRestore state session taskId message = some restored) :
    restored =
      { state with restores := state.restores ++ [⟨message.id, session, taskId, message.content⟩] } := by
  rw [createChatDraftRestore] at done
  split at done
  · contradiction
  · exact (Option.some.inj done).symm

inductive Finalized (state : State) (task : ChatTask) (supports fails : Bool) : State → Prop
  | unchanged (idle : restoresDraft state task supports = false ∨ fails = true) :
      Finalized state task supports fails state
  | deferred (idle : restoresDraft state task supports = false) :
      Finalized state task supports fails { state with task := { state.task with chatFinalizeDeferred := true } }
  | noInput (restores : restoresDraft state task supports = true) (succeeds : fails = false)
      (none : state.messages.find? (ChatMessage.inputOf task.id) = none) :
      Finalized state task supports fails (settledOnce state)
  | restored (restores : restoresDraft state task supports = true) (succeeds : fails = false)
      (message : ChatMessage) (found : state.messages.find? (ChatMessage.inputOf task.id) = some message) :
      Finalized state task supports fails (settledOnce { state with
        messages := state.messages.filter fun message => !message.inputOf task.id
        results := state.results ++ [⟨message.chatSessionId, message.id, message.content⟩] })
  | stopped (idle : restoresDraft state task supports = false) (session : Id)
      (own : task.chatSessionId = some session) (stored : session ∈ state.sessions) :
      Finalized state task supports fails (settledOnce { state with
        messages := state.messages ++ [⟨state.nextId, session, .assistant, "Stopped.", some task.id, false⟩]
        nextId := state.nextId + 1 })

theorem finalizeCancelledChatMessage_cases (state : State) (task : ChatTask) (supports fails : Bool) :
    Finalized state task supports fails (finalizeCancelledChatMessage state task supports fails) := by
  rw [finalizeCancelledChatMessage]
  cases own : task.chatSessionId with
  | none => exact .unchanged (.inl (by simp [restoresDraft, own]))
  | some session =>
      dsimp only
      cases fails with
      | true => exact .unchanged (.inr rfl)
      | false =>
          simp only [Bool.false_eq_true, if_false]
          split
          · rename_i defers
            simp only [Bool.and_eq_true] at defers
            exact .deferred (by simp [restoresDraft, defers.1.2, defers.2])
          · rename_i prompt
            split
            · rename_i empty
              have restores : restoresDraft state task supports = true := by
                simp only [empty, Bool.true_and, Bool.and_eq_true, not_and, Bool.not_eq_true] at prompt
                cases started : task.started <;> simp_all [restoresDraft]
              split
              · rename_i missing
                exact .noInput restores rfl (by simpa [deleteUserChatMessageByTask] using missing)
              · rename_i deleted message done
                obtain ⟨found, rfl⟩ := deleteUserChatMessageByTask_some done
                exact .restored restores rfl message found
            · rename_i answered
              have idle : restoresDraft state task supports = false := by simp [restoresDraft, answered]
              split
              · exact .unchanged (.inl idle)
              · rename_i stopped done
                obtain ⟨stored, rfl⟩ := createStoppedMessage_some done
                exact .stopped idle session own stored

inductive Claimed (state : State) (fails : Bool) : State → Prop
  | unchanged (idle : fails = true ∨ state.task.chatFinalizeDeferred = false ∨
      restorable state state.task = false ∨ ∃ message ∈ state.messages, HandedBack state message.id) :
      Claimed state fails state
  | sessionGone (gone : (liveSession state).isSome = false) (marked : state.task.chatFinalizeDeferred = true) :
      Claimed state fails { state with task := { state.task with chatFinalizeDeferred := false } }
  | noInput (empty : restorable state state.task = true) (succeeds : fails = false)
      (marked : state.task.chatFinalizeDeferred = true)
      (none : state.messages.find? (ChatMessage.inputOf state.task.id) = none) :
      Claimed state fails
        (settledOnce { state with task := { state.task with chatFinalizeDeferred := false } })
  | restored (empty : restorable state state.task = true) (succeeds : fails = false)
      (marked : state.task.chatFinalizeDeferred = true) (message : ChatMessage) (session : Id)
      (found : state.messages.find? (ChatMessage.inputOf state.task.id) = some message) :
      Claimed state fails (settledOnce { state with
        task := { state.task with chatFinalizeDeferred := false }
        messages := state.messages.filter fun message => !message.inputOf state.task.id
        restores := state.restores ++ [⟨message.id, session, state.task.id, message.content⟩] })
  | stopped (answered : restorable state state.task = false) (marked : state.task.chatFinalizeDeferred = true)
      (session : Id) (own : liveSession state = some session) :
      Claimed state fails (settledOnce { state with
        task := { state.task with chatFinalizeDeferred := false }
        messages := state.messages ++ [⟨state.nextId, session, .assistant, "Stopped.", some state.task.id, false⟩]
        nextId := state.nextId + 1 })

theorem finalizeDeferredCancelledChat_cases (state : State) (fails : Bool) :
    Claimed state fails (finalizeDeferredCancelledChat state fails) := by
  rw [finalizeDeferredCancelledChat]
  split
  · rename_i idle
    simp only [Bool.or_eq_true, Bool.not_eq_true'] at idle
    rcases idle with failing | unmarked
    · exact .unchanged (.inl failing)
    · exact .unchanged (.inr (.inl unmarked))
  · rename_i claims
    simp only [Bool.or_eq_true, Bool.not_eq_true', not_or, Bool.not_eq_true, Bool.not_eq_false] at claims
    obtain ⟨succeeds, marked⟩ := claims
    dsimp only
    split
    · rename_i gone
      exact .sessionGone (by rw [gone]; rfl) marked
    · rename_i session live
      split
      · rename_i empty
        split
        · rename_i missing
          exact .noInput empty succeeds marked (by simpa [deleteUserChatMessageByTask] using missing)
        · rename_i deleted message done
          obtain ⟨found, rfl⟩ := deleteUserChatMessageByTask_some done
          split
          · rename_i taken
            refine .unchanged (.inr (.inr (.inr ⟨message, List.mem_of_find?_eq_some found, .inr ?_⟩)))
            simpa [createChatDraftRestore] using taken
          · rename_i restored done'
            rw [createChatDraftRestore_some done']
            exact @Claimed.restored state fails empty succeeds marked message session found
      · rename_i answered
        split
        · exact .unchanged (.inr (.inr (.inl (Bool.of_not_eq_true answered))))
        · rename_i stopped done
          obtain ⟨-, rfl⟩ := createStoppedMessage_some done
          exact @Claimed.stopped state fails (Bool.of_not_eq_true answered) marked session live

def chances (state : State) : Nat :=
  state.task.status.live.toNat + state.cancel.isSome.toNat + state.task.chatFinalizeDeferred.toNat +
    state.settlements

def CancelFits (state : State) : Prop :=
  ∀ cancel, state.cancel = some cancel → cancel.task.id = state.task.id ∧
    cancel.task.chatInputTaskId = state.task.chatInputTaskId ∧
    ((liveSession state).isSome = true → cancel.task.chatSessionId = state.task.chatSessionId)

structure SameTask (state next : State) : Prop where
  id : next.task.id = state.task.id
  input : next.task.chatInputTaskId = state.task.chatInputTaskId
  session : next.task.chatSessionId = state.task.chatSessionId
  sessions : next.sessions = state.sessions
  spends : chances next ≤ chances state
  fits : CancelFits next

structure Quiet (state next : State) : Prop extends SameTask state next where
  messages : next.messages = state.messages
  restores : next.restores = state.restores
  results : next.results = state.results
  nextId : next.nextId = state.nextId
  settlements : next.settlements = state.settlements

structure Withdrawn (state next : State) : Prop extends SameTask state next where
  messages : next.messages = state.messages.filter fun message => !message.inputOf state.task.id
  handed : ∀ id, HandedBack next id ↔ HandedBack state id ∨
    ∃ first, state.messages.find? (ChatMessage.inputOf state.task.id) = some first ∧ first.id = id
  returned : ∀ message, returned next message = returned state message +
    (state.messages.find? (ChatMessage.inputOf state.task.id)).toList.countP fun first =>
      first.id = message.id && first.content = message.content
  nextId : next.nextId = state.nextId
  settlements : next.settlements = state.settlements + 1

structure Added (state next : State) (message : ChatMessage) : Prop extends SameTask state next where
  messages : next.messages = state.messages ++ [message]
  own : message.id = state.nextId
  restores : next.restores = state.restores
  results : next.results = state.results
  nextId : next.nextId = state.nextId + 1

inductive Effect (state : State) (action : Action) : State → Prop
  | quiet {next : State} (idle : settlesByRestore state action = false ∨ (liveSession state).isSome = false)
      (quiet : Quiet state next) : Effect state action next
  | other {next : State} {message : ChatMessage} (idle : settlesByRestore state action = false)
      (added : Added state next message) (foreign : message.taskId ≠ some state.task.id)
      (unowned : message.taskId ≠ some (chatInputOwnerID state.task))
      (settlements : next.settlements = state.settlements) : Effect state action next
  | stopped {next : State} {message : ChatMessage} (idle : settlesByRestore state action = false)
      (added : Added state next message) (stops : message.stopped state.task.id = true)
      (settlements : next.settlements = state.settlements + 1) : Effect state action next
  | withdrawn {next : State} (settles : settlesByRestore state action = true)
      (withdrawn : Withdrawn state next) : Effect state action next
  | deleted (session : Id) (idle : settlesByRestore state action = false)
      (own : state.task.chatSessionId = some session) : Effect state action (deleteChatSession state session)

section

variable {state next : State}

theorem cancel_quiet (fits : CancelFits state) (supports : Bool) :
    Quiet state (cancelAgentTask state supports) := by
  rw [cancelAgentTask]
  split
  · rename_i live
    refine ⟨⟨rfl, rfl, rfl, rfl, ?_, ?_⟩, rfl, rfl, rfl, rfl, rfl⟩
    · have ended : TaskQueue.Status.live .cancelled = false := rfl
      simp only [chances, live, ended, Bool.toNat_true, Bool.toNat_false, Option.isSome_some]
      omega
    · intro cancel pending
      cases pending
      exact ⟨rfl, rfl, fun _ => rfl⟩
  · exact ⟨⟨rfl, rfl, rfl, rfl, Nat.le_refl _, fits⟩, rfl, rfl, rfl, rfl, rfl⟩

theorem fits_none (none : state.cancel = none) : CancelFits state := by
  intro cancel pending
  rw [none] at pending
  contradiction

theorem filter_of_noInput {messages : List ChatMessage} {taskId : Id}
    (none : messages.find? (ChatMessage.inputOf taskId) = none) :
    messages.filter (fun message => !message.inputOf taskId) = messages := by
  refine List.filter_eq_self.mpr fun message member => ?_
  have unlinked := List.find?_eq_none.mp none message member
  simpa using unlinked

theorem withdrawn_of_noInput (same : SameTask state next)
    (none : state.messages.find? (ChatMessage.inputOf state.task.id) = none)
    (messages : next.messages = state.messages) (results : next.results = state.results)
    (restores : next.restores = state.restores) (nextId : next.nextId = state.nextId)
    (settlements : next.settlements = state.settlements + 1) : Withdrawn state next := by
  refine ⟨same, by rw [messages, filter_of_noInput none], fun id => ?_, fun message => ?_, nextId, settlements⟩
  · simp [HandedBack, results, restores, none]
  · simp [returned, results, restores, none]

theorem finalize_effect (fits : CancelFits state) {cancel : Cancel} (pending : state.cancel = some cancel)
    (fails : Bool) : Effect state (.finalize fails) (finalizeCancelledChatMessage
      { state with cancel := none } cancel.task cancel.clientSupportsDraftRestore fails) := by
  obtain ⟨sameId, sameInput, sameSession⟩ := fits cancel pending
  have decides : settlesByRestore state (.finalize fails) = (!fails &&
      restoresDraft { state with cancel := none } cancel.task cancel.clientSupportsDraftRestore) := by
    simp only [settlesByRestore, pending, Option.any_some]
    rfl
  have cases := finalizeCancelledChatMessage_cases { state with cancel := none } cancel.task
    cancel.clientSupportsDraftRestore fails
  generalize finalizeCancelledChatMessage { state with cancel := none } cancel.task
    cancel.clientSupportsDraftRestore fails = next at cases
  cases cases with
  | unchanged idle =>
      refine .quiet (.inl ?_) ⟨⟨rfl, rfl, rfl, rfl, ?_, fits_none rfl⟩, rfl, rfl, rfl, rfl, rfl⟩
      · rw [decides]
        rcases idle with idle | failing
        · rw [idle, Bool.and_false]
        · rw [failing]
          rfl
      · simp [chances, pending]
  | deferred idle =>
      refine .quiet (.inl (by rw [decides, idle, Bool.and_false]))
        ⟨⟨rfl, rfl, rfl, rfl, ?_, fits_none rfl⟩, rfl, rfl, rfl, rfl, rfl⟩
      have once := Bool.toNat_le state.task.chatFinalizeDeferred
      simp only [chances, pending, Option.isSome_some, Option.isSome_none, Bool.toNat_true, Bool.toNat_false]
      omega
  | noInput restores succeeds none =>
      rw [sameId] at none
      refine .withdrawn (by rw [decides, restores, succeeds]; rfl)
        (withdrawn_of_noInput ⟨rfl, rfl, rfl, rfl, ?_, fits_none rfl⟩ none rfl rfl rfl rfl rfl)
      simp only [chances, pending, settledOnce, Option.isSome_some, Option.isSome_none, Bool.toNat_true,
        Bool.toNat_false]
      omega
  | restored restores succeeds message found =>
      rw [sameId] at found
      refine .withdrawn (by rw [decides, restores, succeeds]; rfl)
        ⟨⟨rfl, rfl, rfl, rfl, ?_, fits_none rfl⟩, by rw [← sameId]; rfl, fun id => ?_, fun other => ?_, rfl, rfl⟩
      · simp only [chances, pending, settledOnce, Option.isSome_some, Option.isSome_none, Bool.toNat_true,
          Bool.toNat_false]
        omega
      · simp only [HandedBack, settledOnce, List.mem_append, List.mem_singleton, found, Option.some.injEq,
          exists_eq_left', or_and_right, exists_or, exists_eq_left]
        exact or_right_comm
      · simp only [returned, settledOnce, List.countP_append, found, Option.toList_some]
        exact Nat.add_right_comm _ _ _
  | stopped idle session own stored =>
      refine .stopped (by rw [decides, idle, Bool.and_false])
        ⟨⟨rfl, rfl, rfl, rfl, ?_, fits_none rfl⟩, rfl, rfl, rfl, rfl, rfl⟩ ?_ rfl
      · simp only [chances, pending, settledOnce, Option.isSome_some, Option.isSome_none, Bool.toNat_true,
          Bool.toNat_false]
        omega
      · simp [ChatMessage.stopped, sameId]

theorem fits_unmarked (fits : CancelFits state) {claimed : State} (cancel : claimed.cancel = state.cancel)
    (task : claimed.task = { state.task with chatFinalizeDeferred := false })
    (sessions : claimed.sessions = state.sessions) : CancelFits claimed := by
  intro other pending
  rw [cancel] at pending
  obtain ⟨sameId, sameInput, sameSession⟩ := fits other pending
  refine ⟨by rw [task]; exact sameId, by rw [task]; exact sameInput, fun live => ?_⟩
  rw [liveSession, task, sessions] at live
  rw [task]
  exact sameSession live

theorem settle_effect (fits : CancelFits state)
    (kept : ∀ message ∈ state.messages, ¬HandedBack state message.id) (fails : Bool) :
    Effect state (.settle fails) (finalizeDeferredCancelledChat state fails) := by
  have cases := finalizeDeferredCancelledChat_cases state fails
  generalize finalizeDeferredCancelledChat state fails = next at cases
  cases cases with
  | unchanged idle =>
      refine .quiet (.inl ?_) ⟨⟨rfl, rfl, rfl, rfl, Nat.le_refl _, fits⟩, rfl, rfl, rfl, rfl, rfl⟩
      rcases idle with failing | unmarked | answered | ⟨message, member, handed⟩
      · simp [settlesByRestore, failing]
      · simp [settlesByRestore, unmarked]
      · simp [settlesByRestore, answered]
      · exact absurd handed (kept message member)
  | sessionGone gone marked =>
      refine .quiet (.inr gone)
        ⟨⟨rfl, rfl, rfl, rfl, ?_, fits_unmarked fits rfl rfl rfl⟩, rfl, rfl, rfl, rfl, rfl⟩
      simp only [chances, marked, Bool.toNat_true, Bool.toNat_false]
      omega
  | noInput empty succeeds marked none =>
      refine .withdrawn (by simp [settlesByRestore, empty, succeeds, marked])
        (withdrawn_of_noInput ⟨rfl, rfl, rfl, rfl, ?_, fits_unmarked fits rfl rfl rfl⟩ none rfl rfl rfl rfl rfl)
      simp only [chances, marked, settledOnce, Bool.toNat_true, Bool.toNat_false]
      omega
  | restored empty succeeds marked message session found =>
      refine .withdrawn (by simp [settlesByRestore, empty, succeeds, marked])
        ⟨⟨rfl, rfl, rfl, rfl, ?_, fits_unmarked fits rfl rfl rfl⟩, rfl, fun id => ?_, fun other => ?_, rfl, rfl⟩
      · simp only [chances, marked, settledOnce, Bool.toNat_true, Bool.toNat_false]
        omega
      · simp only [HandedBack, settledOnce, List.mem_append, List.mem_singleton, found, Option.some.injEq,
          exists_eq_left', or_and_right, exists_or, exists_eq_left]
        exact or_assoc.symm
      · simp only [returned, settledOnce, List.countP_append, found, Option.toList_some]
        exact (Nat.add_assoc _ _ _).symm
  | stopped answered marked session own =>
      refine .stopped (by simp [settlesByRestore, answered])
        ⟨⟨rfl, rfl, rfl, rfl, ?_, fits_unmarked fits rfl rfl rfl⟩, rfl, rfl, rfl, rfl, rfl⟩ ?_ rfl
      · simp only [chances, marked, settledOnce, Bool.toNat_true, Bool.toNat_false]
        omega
      · simp [ChatMessage.stopped]

theorem step_effect (fits : CancelFits state)
    (kept : ∀ message ∈ state.messages, ¬HandedBack state message.id) (action : Action) :
    Effect state action (step state action) := by
  have still : Quiet state state := ⟨⟨rfl, rfl, rfl, rfl, Nat.le_refl _, fits⟩, rfl, rfl, rfl, rfl, rfl⟩
  cases action with
  | cancel supports => exact .quiet (.inl rfl) (cancel_quiet fits supports)
  | finalize fails =>
      rw [step]
      cases pending : state.cancel with
      | none => exact .quiet (.inl (by simp [settlesByRestore, pending])) still
      | some cancel => exact finalize_effect fits pending fails
  | reportTaskMessages count =>
      exact .quiet (.inl rfl) ⟨⟨rfl, rfl, rfl, rfl, Nat.le_refl _, fits⟩, rfl, rfl, rfl, rfl, rfl⟩
  | settle fails => exact settle_effect fits kept fails
  | otherMessage session role content taskId ingested =>
      rw [step]
      split
      · exact .quiet (.inl rfl) still
      · rename_i others
        simp only [Bool.or_eq_true, decide_eq_true_eq, not_or] at others
        exact .other rfl ⟨⟨rfl, rfl, rfl, rfl, Nat.le_refl _, fits⟩, rfl, rfl, rfl, rfl, rfl⟩ others.1 others.2 rfl
  | deleteChatSession =>
      rw [step]
      split
      · exact .quiet (.inl rfl) still
      · rename_i session own
        exact .deleted session rfl own

end

end MulticaOS.Chats
