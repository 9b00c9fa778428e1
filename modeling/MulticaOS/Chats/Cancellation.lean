import MulticaOS.Lib.Runs
import MulticaOS.TaskQueue.Statements

/-!
The cancellation of a chat task: `CancelTaskWithResult` with its judgment in a transaction of its own,
and `FinalizeDeferredCancelledChat`, which settles the judgments that were put off.
-/

namespace MulticaOS.Chats

abbrev Id := TaskQueue.Id

inductive Role where
  | user
  | assistant
  deriving DecidableEq

structure ChatMessage where
  id : Id
  chatSessionId : Id
  role : Role
  content : String
  taskId : Option Id
  channelIngested : Bool
  deriving DecidableEq

structure ChatTask where
  id : Id
  chatSessionId : Option Id
  chatInputTaskId : Option Id
  status : TaskQueue.Status
  started : Bool
  chatFinalizeDeferred : Bool
  deriving DecidableEq

structure ChatDraftRestore where
  id : Id
  chatSessionId : Id
  taskId : Id
  content : String
  deriving DecidableEq

structure CancelledChatMessageResult where
  chatSessionId : Id
  messageId : Id
  content : String
  deriving DecidableEq

structure Cancel where
  task : ChatTask
  clientSupportsDraftRestore : Bool
  deriving DecidableEq

/-- One chat task among the messages of its workspace; `settlements` counts the transactions that
settled it. -/
structure State where
  sessions : List Id
  task : ChatTask
  taskMessages : Nat
  messages : List ChatMessage
  restores : List ChatDraftRestore
  cancel : Option Cancel
  results : List CancelledChatMessageResult
  nextId : Id
  settlements : Nat

def chatInputOwnerID (task : ChatTask) : Id := task.chatInputTaskId.getD task.id

def ChatMessage.inputOf (owner : Id) (message : ChatMessage) : Bool :=
  message.taskId = some owner && message.role = .user

def taskHasChannelIngestedMessages (state : State) (owner : Id) : Bool :=
  state.messages.any fun message => message.inputOf owner && message.channelIngested

def restorable (state : State) (task : ChatTask) : Bool :=
  state.taskMessages = 0 && !taskHasChannelIngestedMessages state (chatInputOwnerID task)

def deleteUserChatMessageByTask (state : State) (taskId : Id) : Option (State × ChatMessage) :=
  (state.messages.find? (ChatMessage.inputOf taskId)).map fun deleted =>
    ({ state with messages := state.messages.filter fun message => !message.inputOf taskId }, deleted)

def createStoppedMessage (state : State) (taskId session : Id) : Option State :=
  if state.sessions.contains session then
    some { state with
      messages := state.messages ++ [⟨state.nextId, session, .assistant, "Stopped.", some taskId, false⟩]
      nextId := state.nextId + 1 }
  else none

def settledOnce (state : State) : State := { state with settlements := state.settlements + 1 }

def cancelAgentTask (state : State) (clientSupportsDraftRestore : Bool) : State :=
  if state.task.status.live then
    let task := { state.task with status := .cancelled }
    { state with task := task, cancel := some ⟨task, clientSupportsDraftRestore⟩ }
  else state

def finalizeCancelledChatMessage (state : State) (task : ChatTask) (clientSupportsDraftRestore fails : Bool) :
    State :=
  match task.chatSessionId with
  | none => state
  | some session =>
      if fails then state
      else if restorable state task && task.started && clientSupportsDraftRestore then
        { state with task := { state.task with chatFinalizeDeferred := true } }
      else if restorable state task then
        match deleteUserChatMessageByTask state task.id with
        | none => settledOnce state
        | some (deleted, message) => settledOnce { deleted with
            results := deleted.results ++ [⟨message.chatSessionId, message.id, message.content⟩] }
      else
        match createStoppedMessage state task.id session with
        | none => state
        | some stopped => settledOnce stopped

def createChatDraftRestore (state : State) (session taskId : Id) (message : ChatMessage) : Option State :=
  if state.restores.any fun restore => restore.id = message.id then none
  else some { state with restores := state.restores ++ [⟨message.id, session, taskId, message.content⟩] }

def liveSession (state : State) : Option Id :=
  state.task.chatSessionId.filter fun session => state.sessions.contains session

def finalizeDeferredCancelledChat (state : State) (fails : Bool) : State :=
  if fails || !state.task.chatFinalizeDeferred then state
  else
    let claimed := { state with task := { state.task with chatFinalizeDeferred := false } }
    match liveSession state with
    | none => claimed
    | some session =>
        if restorable claimed claimed.task then
          match deleteUserChatMessageByTask claimed claimed.task.id with
          | none => settledOnce claimed
          | some (deleted, message) =>
              match createChatDraftRestore deleted session claimed.task.id message with
              | none => state
              | some restored => settledOnce restored
        else
          match createStoppedMessage claimed claimed.task.id session with
          | none => state
          | some stopped => settledOnce stopped

def deleteChatSession (state : State) (session : Id) : State :=
  { state with
    sessions := state.sessions.filter fun other => other ≠ session
    messages := state.messages.filter fun message => message.chatSessionId ≠ session
    restores := state.restores.filter fun restore => restore.chatSessionId ≠ session
    task :=
      if state.task.chatSessionId = some session then
        { state.task with
          chatSessionId := none
          status := if state.task.status.live then .cancelled else state.task.status }
      else state.task }

inductive Action where
  | cancel (clientSupportsDraftRestore : Bool)
  | finalize (fails : Bool)
  | reportTaskMessages (count : Nat)
  | settle (fails : Bool)
  | otherMessage (session : Id) (role : Role) (content : String) (taskId : Option Id) (channelIngested : Bool)
  | deleteChatSession

/-- `settle` is a cancel-ack or a pass of the sweeper, `otherMessage` a message that is neither the
task's nor its input's, and `deleteChatSession` deletes the session of the task. -/
def step (state : State) : Action → State
  | .cancel clientSupportsDraftRestore => cancelAgentTask state clientSupportsDraftRestore
  | .finalize fails =>
      match state.cancel with
      | none => state
      | some cancel => finalizeCancelledChatMessage { state with cancel := none } cancel.task
          cancel.clientSupportsDraftRestore fails
  | .reportTaskMessages count => { state with taskMessages := state.taskMessages + count }
  | .settle fails => finalizeDeferredCancelledChat state fails
  | .otherMessage session role content taskId channelIngested =>
      if taskId = some state.task.id || taskId = some (chatInputOwnerID state.task) then state
      else
        { state with
          messages := state.messages ++ [⟨state.nextId, session, role, content, taskId, channelIngested⟩]
          nextId := state.nextId + 1 }
  | .deleteChatSession =>
      match state.task.chatSessionId with
      | none => state
      | some session => deleteChatSession state session

end MulticaOS.Chats
