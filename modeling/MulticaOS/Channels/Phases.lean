import MulticaOS.Channels.Router

/-!
The order of the calls in the dispatch of one identified message: what is asked of the
database before the claim, under the claim, inside the append transaction and after it.
-/

namespace MulticaOS.Channels

open ProgramLib

structure Delivery where
  installationID : ID
  messageID : String
  identified : messageID ≠ ""

inductive Phase
  | opening
  | elsewhere
  | turned
  | claimed (token : ID)
  | declined (token : ID) (reason : DropReason)
  | settled (reason : DropReason)
  | writing (token : ID) (written : Bool)
  | marked (token : ID)
  | failing (token : ID)
  | committed (issued : Bool)
  | over
  deriving DecidableEq

def DropReason.declines : DropReason → Bool
  | .unboundUser => true
  | .nonWorkspaceMember => true
  | .notAddressedInGroup => true
  | _ => false

inductive Moves (delivery : Delivery) : Phase → (request : Call) → Answer request → Phase → Prop
  | resolveInstallation (answer : InstallationAnswer)
      (own : ∀ installation, answer = .found installation → installation.id = delivery.installationID) :
      Moves delivery .opening .resolveInstallation answer .opening
  | resolveOther (installation : Installation) (other : installation.id ≠ delivery.installationID) :
      Moves delivery .opening .resolveInstallation (InstallationAnswer.found installation) .elsewhere
  | elsewhere (request answer) : Moves delivery .elsewhere request answer .elsewhere
  | dropUnclaimed (installationID reason answer) :
      Moves delivery .opening (.recordDrop installationID reason) answer .opening
  | claim (token) : Moves delivery .opening (.claim delivery.installationID delivery.messageID)
      (ClaimAnswer.claimed token) (.claimed token)
  | claimRefused : Moves delivery .opening (.claim delivery.installationID delivery.messageID)
      ClaimAnswer.duplicate .turned
  | claimFailed (text) : Moves delivery .opening (.claim delivery.installationID delivery.messageID)
      (ClaimAnswer.failed text) .opening
  | dropTurned (installationID reason answer) :
      Moves delivery .turned (.recordDrop installationID reason) answer .turned
  | decline (token installationID reason answer) (declines : reason.declines = true) :
      Moves delivery (.claimed token) (.recordDrop installationID reason) answer (.declined token reason)
  | dropLost (token installationID answer) :
      Moves delivery (.claimed token) (.recordDrop installationID .duplicate) answer .over
  | resolveSender (token answer) : Moves delivery (.claimed token) .resolveSender answer (.claimed token)
  | ensureSession (token creator answer) :
      Moves delivery (.claimed token) (.ensureSession creator) answer (.claimed token)
  | release (token answer) : Moves delivery (.claimed token)
      (.release delivery.installationID delivery.messageID token) answer .over
  | mark (token reason answer) : Moves delivery (.declined token reason)
      (.mark delivery.installationID delivery.messageID token) answer (.settled reason)
  | begin (token answer) : Moves delivery (.claimed token) .begin (Except.ok answer) (.writing token false)
  | beginFailed (token text) : Moves delivery (.claimed token) .begin (Except.error text) (.claimed token)
  | lookup (token sessionID answer) : Moves delivery (.writing token false)
      (.getMostRecentUserChatMessage sessionID) answer (.writing token false)
  | lookupFailed (token sessionID answer) : Moves delivery (.writing token false)
      (.getMostRecentUserChatMessage sessionID) answer (.failing token)
  | create (token sessionID content media messageID) : Moves delivery (.writing token false)
      (.createChatMessage sessionID content media) (Except.ok messageID) (.writing token true)
  | createFailed (token sessionID content media text) : Moves delivery (.writing token false)
      (.createChatMessage sessionID content media) (Except.error text) (.failing token)
  | touch (token sessionID answer) : Moves delivery (.writing token true)
      (.touchChatSession sessionID) answer (.writing token true)
  | touchFailed (token sessionID answer) : Moves delivery (.writing token true)
      (.touchChatSession sessionID) answer (.failing token)
  | reply (token sessionID messageID threadID answer) : Moves delivery (.writing token true)
      (.updateReplyTarget sessionID messageID threadID) answer (.writing token true)
  | replyFailed (token sessionID messageID threadID answer) : Moves delivery (.writing token true)
      (.updateReplyTarget sessionID messageID threadID) answer (.failing token)
  | markProcessed (token rows) (some : rows ≠ 0) : Moves delivery (.writing token true)
      (.markProcessed delivery.installationID delivery.messageID token) (Except.ok rows) (.marked token)
  | markLost (token) : Moves delivery (.writing token true)
      (.markProcessed delivery.installationID delivery.messageID token) (Except.ok 0) (.failing token)
  | markFailed (token text) : Moves delivery (.writing token true)
      (.markProcessed delivery.installationID delivery.messageID token) (Except.error text) (.failing token)
  | commit (token) : Moves delivery (.marked token) .commit CommitAnswer.committed (.committed false)
  | commitFailed (token text landed) :
      Moves delivery (.marked token) .commit (CommitAnswer.failed text landed) (.failing token)
  | rollback (token answer) : Moves delivery (.failing token) .rollback answer (.claimed token)
  | createIssue (params answer) :
      Moves delivery (.committed false) (.createIssue params) answer (.committed true)
  | getWorkspace (issued workspaceID answer) :
      Moves delivery (.committed issued) (.getWorkspace workspaceID) answer (.committed issued)
  | scheduleRun (issued sessionID userID answer) :
      Moves delivery (.committed issued) (.scheduleRun sessionID userID) answer (.committed issued)
  | enqueueMedia (issued messageID sessionID answer) :
      Moves delivery (.committed issued) (.enqueueMedia messageID sessionID) answer (.committed issued)

theorem answer_exists (request : Call) : Nonempty (Answer request) := by
  cases request with
  | resolveInstallation => exact ⟨InstallationAnswer.notFound⟩
  | claim => exact ⟨ClaimAnswer.duplicate⟩
  | resolveSender => exact ⟨SenderAnswer.unbound⟩
  | getMostRecentUserChatMessage => exact ⟨PreviousAnswer.noRows⟩
  | commit => exact ⟨CommitAnswer.committed⟩
  | ensureSession | begin | createChatMessage | touchChatSession | updateReplyTarget | markProcessed |
    createIssue | getWorkspace => exact ⟨Except.error ""⟩
  | recordDrop | rollback | scheduleRun | enqueueMedia | mark | release => exact ⟨()⟩

def Ends (delivery : Delivery) : Phase → Except Failure Result → Prop
  | .opening, result =>
      result = .ok (dropped none .invalidEvent) ∨
        result = .ok (dropped (some delivery.installationID) .revokedInstallation) ∨
        (∃ text, result = .error (.wrapped "resolve installation" (.reported text))) ∨
        ∃ text, result = .error (.wrapped "dedup claim" (.reported text))
  | .turned, result => result = .ok (dropped (some delivery.installationID) .duplicate)
  | .settled reason, result =>
      reason.declines = true ∧ ∃ answered, result = .ok answered ∧ answered.dropReason = some reason
  | _, _ => True

def Appended (token : ID) : Phase → Except Failure AppendResult → Prop
  | .committed false, .ok appended => appended.dedupMarked = true
  | .claimed later, .error _ => later = token
  | _, _ => False

section Appending

variable {delivery : Delivery} {token : ID}

theorem abort_appended (failure : Failure) :
    (abort failure).Obeys (Moves delivery) (Appended token) (.failing token) :=
  fun answer => ⟨.claimed token, .rollback token answer, rfl⟩

theorem commitAppend_appended (messageID : ID) (command : Option IssueCommand) :
    (commitAppend messageID command true).Obeys (Moves delivery) (Appended token) (.marked token) := by
  intro answer
  cases answer with
  | committed => exact ⟨.committed false, .commit token, rfl⟩
  | failed text landed => exact ⟨.failing token, .commitFailed token text landed, abort_appended _⟩

theorem markAndCommit_appended {input : AppendInput} (messageID : ID) (command : Option IssueCommand)
    (sameInstallation : input.installationID = delivery.installationID)
    (sameMessage : input.messageID = delivery.messageID) (claimed : input.claimToken = some token) :
    (markAndCommit input messageID command).Obeys (Moves delivery) (Appended token)
      (.writing token true) := by
  have named : input.messageID ≠ "" := sameMessage ▸ delivery.identified
  unfold markAndCommit
  simp only [claimed, if_neg named, Program.ask_bind]
  rw [sameInstallation, sameMessage]
  intro answer
  cases answer with
  | error text => exact ⟨.failing token, .markFailed token text, abort_appended _⟩
  | ok rows =>
      by_cases lost : rows = 0
      · subst lost
        exact ⟨.failing token, .markLost token, abort_appended _⟩
      · refine ⟨.marked token, .markProcessed token rows lost, ?_⟩
        simp only [if_neg lost]
        exact commitAppend_appended messageID command

theorem writeMessage_appended {input : AppendInput} (command : Option IssueCommand)
    (sameInstallation : input.installationID = delivery.installationID)
    (sameMessage : input.messageID = delivery.messageID) (claimed : input.claimToken = some token) :
    (writeMessage input command).Obeys (Moves delivery) (Appended token) (.writing token false) := by
  have named : input.messageID ≠ "" := sameMessage ▸ delivery.identified
  have marks := fun messageID => markAndCommit_appended messageID command sameInstallation sameMessage claimed
  unfold writeMessage
  rw [Program.ask_bind]
  intro answer
  cases answer with
  | error text => exact ⟨.failing token, .createFailed token _ _ _ text, abort_appended _⟩
  | ok messageID =>
      refine ⟨.writing token true, .create token _ _ _ messageID, ?_⟩
      dsimp only
      rw [Program.ask_bind]
      intro touched
      cases touched with
      | error text => exact ⟨.failing token, .touchFailed token _ _, abort_appended _⟩
      | ok _ =>
          refine ⟨.writing token true, .touch token _ _, ?_⟩
          dsimp only
          rw [if_neg named, Program.ask_bind]
          intro replied
          cases replied with
          | error text => exact ⟨.failing token, .replyFailed token _ _ _ _, abort_appended _⟩
          | ok _ => exact ⟨.writing token true, .reply token _ _ _ _, marks messageID⟩

theorem appendUserMessage_appended {input : AppendInput}
    (sameInstallation : input.installationID = delivery.installationID)
    (sameMessage : input.messageID = delivery.messageID) (claimed : input.claimToken = some token) :
    (appendUserMessage input).Obeys (Moves delivery) (Appended token) (.claimed token) := by
  have writes := fun command => writeMessage_appended command sameInstallation sameMessage claimed
  unfold appendUserMessage
  rw [Program.ask_bind]
  intro answer
  cases answer with
  | error text => exact ⟨.claimed token, .beginFailed token text, rfl⟩
  | ok begun =>
      refine ⟨.writing token false, .begin token begun, ?_⟩
      dsimp only
      cases commandOf input with
      | none => exact writes none
      | some command =>
          dsimp only
          by_cases titled : command.title ≠ ""
          · rw [if_pos titled]
            exact writes (some command)
          · rw [if_neg titled, Program.ask_bind]
            intro previous
            cases previous with
            | failed text => exact ⟨.failing token, .lookupFailed token _ _, abort_appended _⟩
            | noRows => exact ⟨.writing token false, .lookup token _ _, writes _⟩
            | found content => exact ⟨.writing token false, .lookup token _ _, writes _⟩

end Appending

section Dispatching

variable {delivery : Delivery} {token : ID}

def Processed (token : ID) : Phase → Except Failure Result × DedupFinalize → Prop
  | .declined later reason, (.ok result, .mark) =>
      later = token ∧ reason.declines = true ∧ result.dropReason = some reason
  | .claimed later, (.error failure, .release) => later = token ∧ failure.isClaimLost = false
  | .claimed later, (.error failure, .none) => later = token ∧ failure.isClaimLost = true
  | .committed _, (.ok _, .none) => True
  | .committed _, (.error failure, .none) => failure.isClaimLost = false
  | _, _ => False

theorem schedule_processed (message : InboundMessage) (sessionID userID chatMessageID : ID)
    (result : Result) (issued : Bool) :
    (schedule message sessionID userID chatMessageID result .none).Obeys (Moves delivery)
      (Processed token) (.committed issued) := by
  unfold schedule
  rw [Program.ask_bind]
  intro answer
  refine ⟨.committed issued, .scheduleRun issued _ _ answer, ?_⟩
  by_cases media : message.hasMedia = true
  · rw [if_pos media]
    exact fun answer => ⟨.committed issued, .enqueueMedia issued _ _ answer, trivial⟩
  · rw [if_neg media]
    trivial

theorem afterAppend_processed (message : InboundMessage) (installation : Installation)
    (userID sessionID : ID) {appended : AppendResult} (marked : appended.dedupMarked = true) :
    (afterAppend message installation userID sessionID appended).Obeys (Moves delivery)
      (Processed token) (.committed false) := by
  unfold afterAppend
  simp only [marked, if_true]
  cases appended.issueCommand with
  | none => exact schedule_processed _ _ _ _ _ _
  | some command =>
      dsimp only
      unfold createIssue
      by_cases untitled : command.title = ""
      · rw [if_pos untitled]
        exact rfl
      · rw [if_neg untitled]
        intro answer
        refine ⟨.committed true, .createIssue _ answer, ?_⟩
        cases answer with
        | error text => exact rfl
        | ok issue =>
            exact fun answer => ⟨.committed true, .getWorkspace true _ answer,
              schedule_processed _ _ _ _ _ _⟩

theorem ingest_processed {message : InboundMessage} {installation : Installation} (userID : ID)
    (sameInstallation : installation.id = delivery.installationID)
    (sameMessage : message.messageID = delivery.messageID) :
    (ingest message installation (some token) userID).Obeys (Moves delivery) (Processed token)
      (.claimed token) := by
  unfold ingest
  rw [Program.ask_bind]
  intro answer
  refine ⟨.claimed token, .ensureSession token _ answer, ?_⟩
  cases answer with
  | error text => exact ⟨rfl, rfl⟩
  | ok sessionID =>
      have appends : (appendUserMessage (appendInput message installation sessionID (some token))).Obeys
          (Moves delivery) (Appended token) (.claimed token) :=
        appendUserMessage_appended sameInstallation sameMessage rfl
      refine Program.Obeys.bind (appends.mono ?_)
      intro phase result reached
      cases result with
      | ok appended =>
          cases phase with
          | committed issued =>
              cases issued with
              | false => exact afterAppend_processed _ _ _ _ reached
              | true => exact reached.elim
          | _ => exact reached.elim
      | error failure =>
          cases phase with
          | claimed later =>
              by_cases lost : failure.isClaimLost = true
              · simp only [lost, if_true]
                exact ⟨reached, lost⟩
              · simp only [lost]
                exact ⟨reached, by simpa [Failure.isClaimLost] using lost⟩
          | committed issued => cases issued <;> exact reached.elim
          | _ => exact reached.elim

theorem processClaimed_processed {message : InboundMessage} {installation : Installation}
    (sameInstallation : installation.id = delivery.installationID)
    (sameMessage : message.messageID = delivery.messageID) :
    (processClaimed message installation (some token)).Obeys (Moves delivery) (Processed token)
      (.claimed token) := by
  unfold processClaimed
  by_cases filtered : message.chatType = .group ∧ message.addressedToBot = false
  · rw [if_pos filtered]
    exact fun answer => ⟨_, .decline token _ .notAddressedInGroup answer rfl, rfl, rfl, rfl⟩
  · rw [if_neg filtered, Program.ask_bind]
    intro answer
    refine ⟨.claimed token, .resolveSender token answer, ?_⟩
    cases answer with
    | member userID => exact ingest_processed userID sameInstallation sameMessage
    | unbound => exact fun answer => ⟨_, .decline token _ .unboundUser answer rfl, rfl, rfl, rfl⟩
    | notMember => exact fun answer => ⟨_, .decline token _ .nonWorkspaceMember answer rfl, rfl, rfl, rfl⟩
    | failed text => exact ⟨rfl, rfl⟩

theorem finish_ends {message : InboundMessage} {installation : Installation} {phase : Phase}
    {outcome : Except Failure Result × DedupFinalize}
    (sameInstallation : installation.id = delivery.installationID)
    (sameMessage : message.messageID = delivery.messageID) (processed : Processed token phase outcome) :
    (finish message installation token outcome).Obeys (Moves delivery) (Ends delivery) phase := by
  obtain ⟨result, finalize⟩ := outcome
  unfold finish
  rw [sameInstallation, sameMessage]
  cases phase with
  | declined later reason =>
      cases result with
      | error failure => cases finalize <;> exact processed.elim
      | ok result =>
          cases finalize with
          | mark =>
              obtain ⟨rfl, declines, dropReason⟩ := processed
              exact fun answer => ⟨.settled reason, .mark later reason answer, declines, result, rfl,
                dropReason⟩
          | none => exact processed.elim
          | release => exact processed.elim
  | claimed later =>
      cases result with
      | ok result => cases finalize <;> exact processed.elim
      | error failure =>
          cases finalize with
          | mark => exact processed.elim
          | release =>
              obtain ⟨rfl, kept⟩ := processed
              intro answer
              refine ⟨.over, .release later answer, ?_⟩
              simp only [kept]
              trivial
          | none =>
              obtain ⟨rfl, lost⟩ := processed
              simp only [applyFinalize, lost]
              exact fun answer => ⟨.over, .dropLost later _ answer, trivial⟩
  | committed issued =>
      cases result with
      | ok result => cases finalize with
        | none => trivial
        | _ => exact processed.elim
      | error failure => cases finalize with
        | none =>
            simp only [applyFinalize, show failure.isClaimLost = false from processed]
            trivial
        | _ => exact processed.elim
  | _ => exact processed.elim

theorem elsewhere_obeys (program : Program (Except Failure Result)) :
    program.Obeys (Moves delivery) (Ends delivery) .elsewhere := by
  induction program with
  | done result => trivial
  | call request next ih => exact fun answer => ⟨.elsewhere, .elsewhere request answer, ih answer⟩

theorem dispatch_obeys {message : InboundMessage} (sameMessage : message.messageID = delivery.messageID) :
    (dispatch message).Obeys (Moves delivery) (Ends delivery) .opening := by
  have named : message.messageID ≠ "" := sameMessage ▸ delivery.identified
  unfold dispatch
  rw [Program.ask_bind]
  intro answer
  cases answer with
  | notFound =>
      refine ⟨.opening, .resolveInstallation _ (by simp), ?_⟩
      exact fun dropped => ⟨.opening, .dropUnclaimed _ _ dropped, Or.inl rfl⟩
  | failed text =>
      exact ⟨.opening, .resolveInstallation _ (by simp), Or.inr (Or.inr (Or.inl ⟨text, rfl⟩))⟩
  | found installation =>
      by_cases other : installation.id = delivery.installationID
      · refine ⟨.opening, .resolveInstallation _ (by rintro _ ⟨⟩; exact other), ?_⟩
        dsimp only
        by_cases revoked : installation.active = false
        · rw [if_pos revoked, other]
          exact fun dropped => ⟨.opening, .dropUnclaimed _ _ dropped, Or.inr (Or.inl rfl)⟩
        · rw [if_neg revoked, if_neg named, other, sameMessage, Program.ask_bind]
          intro answer
          cases answer with
          | claimed token =>
              refine ⟨.claimed token, .claim token, ?_⟩
              have processed := @processClaimed_processed delivery token message installation other sameMessage
              exact Program.Obeys.bind (processed.mono fun _ _ => finish_ends other sameMessage)
          | duplicate =>
              exact ⟨.turned, .claimRefused, fun dropped => ⟨.turned, .dropTurned _ _ dropped, rfl⟩⟩
          | failed text =>
              exact ⟨.opening, .claimFailed text, Or.inr (Or.inr (Or.inr ⟨text, rfl⟩))⟩
      · exact ⟨.elsewhere, .resolveOther installation other, elsewhere_obeys _⟩

end Dispatching

end MulticaOS.Channels
