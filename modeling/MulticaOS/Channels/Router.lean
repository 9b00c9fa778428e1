import MulticaOS.Lib.Programs
import MulticaOS.Channels.Commands

/-!
The inbound pipeline that every channel shares, as a program over the calls that it makes to
its resolvers, to the database and to the services.
-/

namespace MulticaOS.Channels

abbrev ID := Nat

inductive ChatType
  | p2p
  | group
  deriving DecidableEq

/-- `commandText` is the text that the adapter parses for a command, when that is not the body. -/
structure InboundMessage where
  channelType : String
  messageID : String
  chatType : ChatType
  senderID : String
  threadID : String
  text : String
  commandText : String
  addressedToBot : Bool
  forceFresh : Bool
  hasMedia : Bool
  deriving DecidableEq

structure Installation where
  id : ID
  workspaceID : ID
  agentID : ID
  installerUserID : ID
  active : Bool
  deriving DecidableEq

inductive DropReason
  | unboundUser
  | nonWorkspaceMember
  | notAddressedInGroup
  | duplicate
  | revokedInstallation
  | invalidEvent
  deriving DecidableEq

inductive Outcome
  | dropped
  | needsBinding
  | ingested
  deriving DecidableEq

structure IssueRow where
  id : ID
  number : Nat
  title : String
  deriving DecidableEq

structure Result where
  outcome : Outcome
  dropReason : Option DropReason
  installationID : Option ID
  chatSessionID : Option ID
  sender : String
  issue : Option IssueRow
  issueIdentifier : String
  deriving DecidableEq

inductive Failure
  | noResolverSet
  | claimLost
  | emptyIssueTitle
  | reported (text : String)
  | wrapped (context : String) (cause : Failure)
  deriving DecidableEq

def Failure.text : Failure → String
  | .noResolverSet => "channel router: no resolver set for channel type"
  | .claimLost => "engine: dedup claim lost"
  | .emptyIssueTitle => "issue title is empty"
  | .reported text => text
  | .wrapped context cause => context ++ ": " ++ cause.text

def Failure.isClaimLost : Failure → Bool
  | .claimLost => true
  | .wrapped _ cause => cause.isClaimLost
  | _ => false

inductive InstallationAnswer
  | found (installation : Installation)
  | notFound
  | failed (text : String)

inductive ClaimAnswer
  | claimed (token : ID)
  | duplicate
  | failed (text : String)

inductive SenderAnswer
  | member (userID : ID)
  | unbound
  | notMember
  | failed (text : String)

inductive PreviousAnswer
  | found (content : String)
  | noRows
  | failed (text : String)

/-- A commit that reports an error may have taken effect all the same. -/
inductive CommitAnswer
  | committed
  | failed (text : String) (landed : Bool)

structure IssueCreateParams where
  workspaceID : ID
  title : String
  description : Option String
  status : String
  priority : String
  assigneeType : String
  assigneeID : ID
  creatorType : String
  creatorID : ID
  originID : ID
  deriving DecidableEq

inductive Call
  | resolveInstallation
  | recordDrop (installationID : Option ID) (reason : DropReason)
  | claim (installationID : ID) (messageID : String)
  | resolveSender
  | ensureSession (creator : ID)
  | begin
  | getMostRecentUserChatMessage (sessionID : ID)
  | createChatMessage (sessionID : ID) (content : String) (mediaPending : Bool)
  | touchChatSession (sessionID : ID)
  | updateReplyTarget (sessionID : ID) (messageID threadID : String)
  | markProcessed (installationID : ID) (messageID : String) (token : ID)
  | commit
  | rollback
  | createIssue (params : IssueCreateParams)
  | getWorkspace (workspaceID : ID)
  | scheduleRun (sessionID initiatorUserID : ID)
  | enqueueMedia (chatMessageID sessionID : ID)
  | mark (installationID : ID) (messageID : String) (token : ID)
  | release (installationID : ID) (messageID : String) (token : ID)
  deriving DecidableEq

def Answer : Call → Type
  | .resolveInstallation => InstallationAnswer
  | .recordDrop _ _ => Unit
  | .claim _ _ => ClaimAnswer
  | .resolveSender => SenderAnswer
  | .ensureSession _ => Except String ID
  | .begin => Except String Unit
  | .getMostRecentUserChatMessage _ => PreviousAnswer
  | .createChatMessage _ _ _ => Except String ID
  | .touchChatSession _ => Except String Unit
  | .updateReplyTarget _ _ _ => Except String Unit
  | .markProcessed _ _ _ => Except String Nat
  | .commit => CommitAnswer
  | .rollback => Unit
  | .createIssue _ => Except String IssueRow
  | .getWorkspace _ => Except String String
  | .scheduleRun _ _ => Unit
  | .enqueueMedia _ _ => Unit
  | .mark _ _ _ => Unit
  | .release _ _ _ => Unit

abbrev Program (Result : Type) := ProgramLib.Program Call Answer Result

abbrev ask (request : Call) : Program (Answer request) := ProgramLib.Program.ask request

structure AppendInput where
  sessionID : ID
  installationID : ID
  body : String
  commandText : String
  messageID : String
  threadID : String
  claimToken : Option ID
  mediaPending : Bool

structure AppendResult where
  messageID : ID
  issueCommand : Option IssueCommand
  dedupMarked : Bool

def abort (failure : Failure) : Program (Except Failure AppendResult) := do
  let _ ← ask .rollback
  return .error failure

def abortAt (context text : String) : Program (Except Failure AppendResult) :=
  abort (.wrapped context (.reported text))

def commitAppend (messageID : ID) (command : Option IssueCommand) (marked : Bool) :
    Program (Except Failure AppendResult) := do
  match ← ask .commit with
  | .failed text _ => abortAt "commit" text
  | .committed => return .ok ⟨messageID, command, marked⟩

def markAndCommit (input : AppendInput) (messageID : ID) (command : Option IssueCommand) :
    Program (Except Failure AppendResult) := do
  match input.claimToken with
  | none => commitAppend messageID command false
  | some token =>
      if input.messageID = "" then commitAppend messageID command false
      else
        match ← ask (.markProcessed input.installationID input.messageID token) with
        | .error text => abortAt "mark dedup processed" text
        | .ok rows => if rows = 0 then abort .claimLost else commitAppend messageID command true

def writeMessage (input : AppendInput) (command : Option IssueCommand) :
    Program (Except Failure AppendResult) := do
  match ← ask (.createChatMessage input.sessionID input.body input.mediaPending) with
  | .error text => abortAt "create chat message" text
  | .ok messageID =>
      match ← ask (.touchChatSession input.sessionID) with
      | .error text => abortAt "touch chat session" text
      | .ok _ =>
          if input.messageID = "" then markAndCommit input messageID command
          else
            match ← ask (.updateReplyTarget input.sessionID input.messageID input.threadID) with
            | .error text => abortAt "update reply target" text
            | .ok _ => markAndCommit input messageID command

def commandOf (input : AppendInput) : Option IssueCommand :=
  parseIssueCommand (if input.commandText = "" then input.body else input.commandText)

def appendUserMessage (input : AppendInput) : Program (Except Failure AppendResult) := do
  match ← ask .begin with
  | .error text => return .error (.wrapped "begin tx" (.reported text))
  | .ok _ =>
      match commandOf input with
      | none => writeMessage input none
      | some command =>
          if command.title ≠ "" then writeMessage input (some command)
          else
            match ← ask (.getMostRecentUserChatMessage input.sessionID) with
            | .failed text => abortAt "previous message lookup" text
            | .noRows => writeMessage input (some command)
            | .found content =>
                writeMessage input (some { command with title := titleFromPreviousMessage content })

inductive DedupFinalize
  | none
  | mark
  | release
  deriving DecidableEq

def dropped (installationID : Option ID) (reason : DropReason) : Result :=
  ⟨.dropped, some reason, installationID, none, "", none, ""⟩

def drop (installationID : ID) (reason : DropReason) : Program Result := do
  let _ ← ask (.recordDrop (some installationID) reason)
  return dropped (some installationID) reason

def issueParams (installation : Installation) (creatorUserID sessionID : ID) (command : IssueCommand) :
    IssueCreateParams :=
  { workspaceID := installation.workspaceID, title := command.title
    description := if command.description = "" then none else some command.description
    status := "todo", priority := "none", assigneeType := "agent", assigneeID := installation.agentID
    creatorType := "member", creatorID := creatorUserID, originID := sessionID }

def createIssue (installation : Installation) (creatorUserID sessionID : ID) (command : IssueCommand) :
    Program (Except Failure IssueRow) := do
  if command.title = "" then return .error .emptyIssueTitle
  else
    match ← ask (.createIssue (issueParams installation creatorUserID sessionID command)) with
    | .error text => return .error (.reported text)
    | .ok issue => return .ok issue

def schedule (message : InboundMessage) (sessionID userID chatMessageID : ID) (result : Result)
    (finalize : DedupFinalize) : Program (Except Failure Result × DedupFinalize) := do
  let _ ← ask (.scheduleRun sessionID userID)
  if message.hasMedia then
    let _ ← ask (.enqueueMedia chatMessageID sessionID)
    return (.ok result, finalize)
  else return (.ok result, finalize)

def afterAppend (message : InboundMessage) (installation : Installation) (userID sessionID : ID)
    (appended : AppendResult) : Program (Except Failure Result × DedupFinalize) := do
  let finalize : DedupFinalize := if appended.dedupMarked then .none else .mark
  let result : Result :=
    ⟨.ingested, none, some installation.id, some sessionID, message.senderID, none, ""⟩
  match appended.issueCommand with
  | none => schedule message sessionID userID appended.messageID result finalize
  | some command =>
      match ← createIssue installation userID sessionID command with
      | .error failure => return (.error (.wrapped "create issue from command" failure), finalize)
      | .ok issue =>
          let workspacePrefix ← ask (.getWorkspace installation.workspaceID)
          let identifier := match workspacePrefix with
            | .ok text => if text = "" then "#" ++ toString issue.number else text ++ "-" ++ toString issue.number
            | .error _ => "#" ++ toString issue.number
          schedule message sessionID userID appended.messageID
            { result with issue := some issue, issueIdentifier := identifier } finalize

def appendInput (message : InboundMessage) (installation : Installation) (sessionID : ID)
    (claimToken : Option ID) : AppendInput :=
  { sessionID := sessionID, installationID := installation.id, body := message.text
    commandText := message.commandText, messageID := message.messageID, threadID := message.threadID
    claimToken := claimToken, mediaPending := message.hasMedia }

def sessionCreator (message : InboundMessage) (installation : Installation) (userID : ID) : ID :=
  match message.chatType with
  | .group => installation.installerUserID
  | .p2p => userID

def ingest (message : InboundMessage) (installation : Installation) (claimToken : Option ID)
    (userID : ID) : Program (Except Failure Result × DedupFinalize) := do
  match ← ask (.ensureSession (sessionCreator message installation userID)) with
  | .error text => return (.error (.wrapped "ensure chat session" (.reported text)), .release)
  | .ok sessionID =>
      match ← appendUserMessage (appendInput message installation sessionID claimToken) with
      | .error failure =>
          if failure.isClaimLost then return (.error failure, .none)
          else return (.error (.wrapped "append user message" failure), .release)
      | .ok appended => afterAppend message installation userID sessionID appended

def processClaimed (message : InboundMessage) (installation : Installation) (claimToken : Option ID) :
    Program (Except Failure Result × DedupFinalize) := do
  if message.chatType = .group ∧ message.addressedToBot = false then
    let result ← drop installation.id .notAddressedInGroup
    return (.ok result, .mark)
  else
    match ← ask .resolveSender with
    | .unbound =>
        let _ ← ask (.recordDrop (some installation.id) .unboundUser)
        return (.ok ⟨.needsBinding, some .unboundUser, some installation.id, none, message.senderID, none, ""⟩,
          .mark)
    | .notMember =>
        let result ← drop installation.id .nonWorkspaceMember
        return (.ok result, .mark)
    | .failed text => return (.error (.wrapped "resolve sender" (.reported text)), .release)
    | .member userID => ingest message installation claimToken userID

def applyFinalize (installationID : ID) (messageID : String) (token : ID) : DedupFinalize → Program Unit
  | .none => return ()
  | .mark => do
      let _ ← ask (.mark installationID messageID token)
      return ()
  | .release => do
      let _ ← ask (.release installationID messageID token)
      return ()

def finish (message : InboundMessage) (installation : Installation) (token : ID)
    (outcome : Except Failure Result × DedupFinalize) : Program (Except Failure Result) := do
  applyFinalize installation.id message.messageID token outcome.2
  match outcome.1 with
  | .ok result => return .ok result
  | .error failure =>
      if failure.isClaimLost then
        let result ← drop installation.id .duplicate
        return .ok result
      else return .error failure

def dispatch (message : InboundMessage) : Program (Except Failure Result) := do
  match ← ask .resolveInstallation with
  | .notFound =>
      let _ ← ask (.recordDrop none .invalidEvent)
      return .ok (dropped none .invalidEvent)
  | .failed text => return .error (.wrapped "resolve installation" (.reported text))
  | .found installation =>
      if installation.active = false then
        let result ← drop installation.id .revokedInstallation
        return .ok result
      else if message.messageID = "" then
        let outcome ← processClaimed message installation none
        return outcome.1
      else
        match ← ask (.claim installation.id message.messageID) with
        | .duplicate =>
            let result ← drop installation.id .duplicate
            return .ok result
        | .failed text => return .error (.wrapped "dedup claim" (.reported text))
        | .claimed token =>
            let outcome ← processClaimed message installation (some token)
            finish message installation token outcome

def handle (registered : String → Bool) (message : InboundMessage) : Program (Option Failure) := do
  if registered message.channelType then
    match ← dispatch message with
    | .ok _ => return none
    | .error failure => return some failure
  else return some .noResolverSet

end MulticaOS.Channels
