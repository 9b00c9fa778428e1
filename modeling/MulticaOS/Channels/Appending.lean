import MulticaOS.Channels.Router

/-!
The append transaction under every combination of answers: when it commits, and what it
answers with.
-/

namespace MulticaOS.Channels

open ProgramLib

abbrev Environment := (request : Call) → Answer request

def CommitAnswer.landed : CommitAnswer → Bool
  | .committed => true
  | .failed _ landed => landed

def fails : (request : Call) → Answer request → Bool
  | .resolveInstallation, answer => match answer with
    | .failed _ => true
    | _ => false
  | .claim _ _, answer => match answer with
    | .failed _ => true
    | _ => false
  | .resolveSender, answer => match answer with
    | .failed _ => true
    | _ => false
  | .getMostRecentUserChatMessage _, answer => match answer with
    | .failed _ => true
    | _ => false
  | .ensureSession _, answer => !answer.isOk
  | .begin, answer => !answer.isOk
  | .createChatMessage _ _ _, answer => !answer.isOk
  | .touchChatSession _, answer => !answer.isOk
  | .updateReplyTarget _ _ _, answer => !answer.isOk
  | .markProcessed _ _ _, answer => !answer.isOk
  | .createIssue _, answer => !answer.isOk
  | .getWorkspace _, answer => !answer.isOk
  | .commit, answer => match answer with
    | .failed _ _ => true
    | .committed => false
  | _, _ => false
def resolvedCommand (environment : Environment) (input : AppendInput) : Option IssueCommand :=
  match commandOf input with
  | none => none
  | some command =>
      if command.title ≠ "" then some command
      else
        match environment (.getMostRecentUserChatMessage input.sessionID) with
        | .found content => some { command with title := titleFromPreviousMessage content }
        | _ => some command

def lookupFails (environment : Environment) (input : AppendInput) : Bool :=
  match commandOf input with
  | none => false
  | some command =>
      command.title = "" && fails (.getMostRecentUserChatMessage input.sessionID)
        (environment (.getMostRecentUserChatMessage input.sessionID))

structure WritesMessage (environment : Environment) (input : AppendInput) : Prop where
  creates : (environment (.createChatMessage input.sessionID input.body input.mediaPending)).isOk = true
  touches : (environment (.touchChatSession input.sessionID)).isOk = true
  replies : input.messageID ≠ "" →
    (environment (.updateReplyTarget input.sessionID input.messageID input.threadID)).isOk = true
  marks : ∀ token, input.claimToken = some token → input.messageID ≠ "" →
    ∃ rows, rows ≠ 0 ∧ environment (.markProcessed input.installationID input.messageID token) = .ok rows

structure Writes (environment : Environment) (input : AppendInput) : Prop
    extends WritesMessage environment input where
  begins : (environment .begin).isOk = true
  lookup : lookupFails environment input = false

def appends (sessionID : ID) : Call → Bool
  | .begin => true
  | .getMostRecentUserChatMessage _ => true
  | .createChatMessage other _ _ => other = sessionID
  | .touchChatSession _ => true
  | .updateReplyTarget _ _ _ => true
  | .markProcessed _ _ _ => true
  | .commit => true
  | .rollback => true
  | _ => false

/-- The transaction reaches its commit exactly under `condition`, and answers with the command once
the commit is acknowledged. Any other error comes from a failing call or from a lost claim. -/
structure Lands (environment : Environment) (sessionID : ID)
    (program : Program (Except Failure AppendResult)) (condition : Prop) (command : Option IssueCommand)
    (claimed : Bool) : Prop where
  within : ∀ call ∈ (program.run environment).1, appends sessionID call = true
  commits : .commit ∈ (program.run environment).1 ↔ condition
  answers : (∃ appended, (program.run environment).2 = .ok appended) ↔
    condition ∧ environment .commit = .committed
  command : ∀ appended, (program.run environment).2 = .ok appended → appended.issueCommand = command
  failed : ∀ failure, (program.run environment).2 = .error failure → failure.isClaimLost = false →
    ∃ request ∈ (program.run environment).1, fails request (environment request) = true
  lost : ∀ failure, (program.run environment).2 = .error failure → failure.isClaimLost = true →
    claimed = true

section Landing

variable {environment : Environment} {sessionID : ID} {command : Option IssueCommand} {claimed : Bool}
  {condition : Prop}

theorem Lands.congr {program : Program (Except Failure AppendResult)} {other : Prop}
    (lands : Lands environment sessionID program condition command claimed) (same : condition ↔ other) :
    Lands environment sessionID program other command claimed :=
  ⟨lands.within, lands.commits.trans same, by rw [lands.answers, same], lands.command,
    lands.failed, lands.lost⟩

theorem Lands.call {request : Call} {next : Answer request → Program (Except Failure AppendResult)}
    (other : request ≠ .commit) (own : appends sessionID request = true)
    (lands : Lands environment sessionID (next (environment request)) condition command claimed) :
    Lands environment sessionID (.call request next) condition command claimed where
  within := by
    intro call member
    rw [Program.run_call] at member
    rcases List.mem_cons.mp member with rfl | later
    · exact own
    · exact lands.within call later
  commits := by
    rw [Program.run_call, List.mem_cons, lands.commits]
    exact or_iff_right (Ne.symm other)
  answers := lands.answers
  command := lands.command
  failed := by
    intro failure errs kept
    obtain ⟨found, member, failing⟩ := lands.failed failure errs kept
    exact ⟨found, List.mem_cons_of_mem _ member, failing⟩
  lost := lands.lost

theorem lands_failed {request : Call} {next : Answer request → Program (Except Failure AppendResult)}
    {context text : String} {later : List Call} (other : request ≠ .commit)
    (own : appends sessionID request = true)
    (failing : fails request (environment request) = true)
    (ends : (next (environment request)).run environment =
      (later, .error (.wrapped context (.reported text))))
    (harmless : ∀ call ∈ later, call = .rollback) (never : ¬condition) :
    Lands environment sessionID (.call request next) condition command claimed := by
  have result : (Program.call request next).run environment =
      (request :: later, .error (.wrapped context (.reported text))) := by
    rw [Program.run_call, ends]
  refine ⟨?_, ?_, ?_, ?_, ?_, ?_⟩
  · intro call member
    rw [result] at member
    rcases List.mem_cons.mp member with rfl | rolls
    · exact own
    · rw [harmless call rolls]
      rfl
  · rw [result]
    refine iff_of_false (fun member => ?_) never
    rcases List.mem_cons.mp member with same | rolls
    · exact other same.symm
    · cases harmless _ rolls
  · rw [result]
    simp [never]
  · rw [result]
    simp
  · intro failure _ _
    rw [result]
    exact ⟨request, List.mem_cons_self, failing⟩
  · intro failure errs lost
    rw [result] at errs
    obtain rfl := Except.error.inj errs
    cases lost

theorem rollback_harmless : ∀ call ∈ [Call.rollback], call = .rollback := by simp

theorem commitAppend_lands (messageID : ID) (marked : Bool) :
    Lands environment sessionID (commitAppend messageID command marked) True command claimed := by
  cases commit : environment .commit with
  | committed =>
      have result : (commitAppend messageID command marked).run environment =
          ([.commit], .ok ⟨messageID, command, marked⟩) := by
        simp [commitAppend, commit]
      have answered : ∃ appended, (Except.ok ⟨messageID, command, marked⟩ :
          Except Failure AppendResult) = .ok appended := ⟨_, rfl⟩
      refine ⟨by simp [result, appends], by simp [result], ?_, by simp [result], by simp [result],
        by simp [result]⟩
      rw [result]
      exact iff_of_true answered ⟨trivial, commit⟩
  | failed text landed =>
      have result : (commitAppend messageID command marked).run environment =
          ([.commit, .rollback], .error (.wrapped "commit" (.reported text))) := by
        simp [commitAppend, commit, abortAt, abort]
      refine ⟨?_, ?_, ?_, ?_, ?_, ?_⟩ <;> simp [result, commit, fails, Failure.isClaimLost, appends]

theorem abort_lands : Lands environment sessionID (abort .claimLost) False command true := by
  have result : (abort .claimLost).run environment = ([.rollback], .error .claimLost) := rfl
  refine ⟨?_, ?_, ?_, ?_, ?_, ?_⟩ <;> simp [result, Failure.isClaimLost, appends]

theorem markAndCommit_lands (input : AppendInput) (messageID : ID) :
    Lands environment input.sessionID (markAndCommit input messageID command)
      (∀ token, input.claimToken = some token → input.messageID ≠ "" →
        ∃ rows, rows ≠ 0 ∧
          environment (.markProcessed input.installationID input.messageID token) = .ok rows)
      command input.claimToken.isSome := by
  unfold markAndCommit
  cases claim : input.claimToken with
  | none => exact (commitAppend_lands messageID false).congr (by simp)
  | some token =>
      dsimp only
      by_cases unnamed : input.messageID = ""
      · rw [if_pos unnamed]
        exact (commitAppend_lands messageID false).congr (by simp [unnamed])
      · rw [if_neg unnamed, Program.ask_bind]
        cases marks : environment (.markProcessed input.installationID input.messageID token) with
        | error text =>
            refine lands_failed (by simp) (by simp [appends]) (by rw [fails, marks]; rfl) (by rw [marks]; rfl)
              rollback_harmless ?_
            intro each
            obtain ⟨rows, -, same⟩ := each token rfl unnamed
            rw [marks] at same
            cases same
        | ok rows =>
            by_cases none : rows = 0
            · refine Lands.call (by simp) (by simp [appends]) ?_
              rw [marks]
              simp only [if_pos none]
              refine abort_lands.congr (iff_of_false (fun wrong => wrong) ?_)
              intro each
              obtain ⟨other, some, same⟩ := each token rfl unnamed
              rw [marks] at same
              exact some ((Except.ok.inj same).symm.trans none)
            · refine Lands.call (by simp) (by simp [appends]) ?_
              rw [marks]
              simp only [if_neg none]
              refine (commitAppend_lands messageID true).congr (iff_of_true trivial ?_)
              intro other same _
              obtain rfl := Option.some.inj same
              exact ⟨rows, none, marks⟩

theorem writeMessage_lands (input : AppendInput) :
    Lands environment input.sessionID (writeMessage input command) (WritesMessage environment input) command
      input.claimToken.isSome := by
  unfold writeMessage
  rw [Program.ask_bind]
  cases creates : environment (.createChatMessage input.sessionID input.body input.mediaPending) with
  | error text =>
      refine lands_failed (by simp) (by simp [appends]) (by rw [fails, creates]; rfl) (by rw [creates]; rfl)
        rollback_harmless ?_
      intro writes
      have created := writes.creates
      rw [creates] at created
      cases created
  | ok messageID =>
      refine Lands.call (by simp) (by simp [appends]) ?_
      rw [creates]
      dsimp only
      rw [Program.ask_bind]
      cases touches : environment (.touchChatSession input.sessionID) with
      | error text =>
          refine lands_failed (by simp) (by simp [appends]) (by rw [fails, touches]; rfl) (by rw [touches]; rfl)
            rollback_harmless ?_
          intro writes
          have touched := writes.touches
          rw [touches] at touched
          cases touched
      | ok _ =>
          refine Lands.call (by simp) (by simp [appends]) ?_
          rw [touches]
          dsimp only
          have created : (environment (.createChatMessage input.sessionID input.body
              input.mediaPending)).isOk = true := by rw [creates]; rfl
          have touched : (environment (.touchChatSession input.sessionID)).isOk = true := by
            rw [touches]; rfl
          by_cases unnamed : input.messageID = ""
          · rw [if_pos unnamed]
            refine (markAndCommit_lands input messageID).congr ?_
            exact ⟨fun marks => ⟨created, touched, fun named => absurd unnamed named, marks⟩,
              WritesMessage.marks⟩
          · rw [if_neg unnamed, Program.ask_bind]
            cases replies : environment
                (.updateReplyTarget input.sessionID input.messageID input.threadID) with
            | error text =>
                refine lands_failed (by simp) (by simp [appends]) (by rw [fails, replies]; rfl) (by rw [replies]; rfl)
                  rollback_harmless ?_
                intro writes
                have replied := writes.replies unnamed
                rw [replies] at replied
                cases replied
            | ok _ =>
                refine Lands.call (by simp) (by simp [appends]) ?_
                rw [replies]
                refine (markAndCommit_lands input messageID).congr ?_
                exact ⟨fun marks => ⟨created, touched, fun _ => by rw [replies]; rfl, marks⟩,
                  WritesMessage.marks⟩

theorem appendUserMessage_lands (input : AppendInput) :
    Lands environment input.sessionID (appendUserMessage input) (Writes environment input)
      (resolvedCommand environment input) input.claimToken.isSome := by
  unfold appendUserMessage
  rw [Program.ask_bind]
  cases begins : environment .begin with
  | error text =>
      refine lands_failed (by simp) (by simp [appends]) (by rw [fails, begins]; rfl) (by rw [begins]; rfl)
        (by simp) ?_
      intro writes
      have begun := writes.begins
      rw [begins] at begun
      cases begun
  | ok _ =>
      have begun : (environment .begin).isOk = true := by rw [begins]; rfl
      refine Lands.call (by simp) (by simp [appends]) ?_
      rw [begins]
      dsimp only
      cases parsed : commandOf input with
      | none =>
          have looked : lookupFails environment input = false := by simp [lookupFails, parsed]
          have resolved : resolvedCommand environment input = none := by simp [resolvedCommand, parsed]
          rw [resolved]
          exact (writeMessage_lands input).congr
            ⟨fun writes => ⟨writes, begun, looked⟩, Writes.toWritesMessage⟩
      | some command =>
          dsimp only
          by_cases titled : command.title ≠ ""
          · have looked : lookupFails environment input = false := by simp [lookupFails, parsed, titled]
            have resolved : resolvedCommand environment input = some command := by
              simp [resolvedCommand, parsed, titled]
            rw [if_pos titled, resolved]
            exact (writeMessage_lands input).congr
              ⟨fun writes => ⟨writes, begun, looked⟩, Writes.toWritesMessage⟩
          · rw [if_neg titled, Program.ask_bind]
            have bare : command.title = "" := not_not.mp titled
            cases previous : environment (.getMostRecentUserChatMessage input.sessionID) with
            | failed text =>
                refine lands_failed (by simp) (by simp [appends]) (by simp [fails, previous])
                  (by rw [previous]; rfl)
                    rollback_harmless ?_
                intro writes
                have looked := writes.lookup
                simp [lookupFails, parsed, bare, fails, previous] at looked
            | noRows =>
                refine Lands.call (by simp) (by simp [appends]) ?_
                rw [previous]
                have looked : lookupFails environment input = false := by
                  simp [lookupFails, parsed, fails, previous]
                have resolved : resolvedCommand environment input = some command := by
                  simp [resolvedCommand, parsed, previous]
                rw [resolved]
                exact (writeMessage_lands input).congr
                  ⟨fun writes => ⟨writes, begun, looked⟩, Writes.toWritesMessage⟩
            | found content =>
                refine Lands.call (by simp) (by simp [appends]) ?_
                rw [previous]
                have looked : lookupFails environment input = false := by
                  simp [lookupFails, parsed, fails, previous]
                have resolved : resolvedCommand environment input =
                    some { command with title := titleFromPreviousMessage content } := by
                  simp [resolvedCommand, parsed, bare, previous]
                rw [resolved]
                exact (writeMessage_lands input).congr
                  ⟨fun writes => ⟨writes, begun, looked⟩, Writes.toWritesMessage⟩

theorem writeMessage_creates (input : AppendInput) :
    .createChatMessage input.sessionID input.body input.mediaPending ∈
      ((writeMessage input command).run environment).1 := by
  unfold writeMessage
  rw [Program.ask_bind, Program.run_call]
  exact List.mem_cons_self

theorem appendUserMessage_creates {input : AppendInput} (writes : Writes environment input) :
    .createChatMessage input.sessionID input.body input.mediaPending ∈
      ((appendUserMessage input).run environment).1 := by
  have begins := writes.begins
  have looked := writes.lookup
  unfold appendUserMessage
  rw [Program.ask_bind, Program.run_call]
  refine List.mem_cons_of_mem _ ?_
  cases begun : environment .begin with
  | error text =>
      rw [begun] at begins
      cases begins
  | ok _ =>
      dsimp only
      cases parsed : commandOf input with
      | none => exact writeMessage_creates input
      | some command =>
          dsimp only
          by_cases titled : command.title ≠ ""
          · rw [if_pos titled]
            exact writeMessage_creates input
          · rw [if_neg titled, Program.ask_bind, Program.run_call]
            refine List.mem_cons_of_mem _ ?_
            cases previous : environment (.getMostRecentUserChatMessage input.sessionID) with
            | failed text => simp [lookupFails, parsed, not_not.mp titled, fails, previous] at looked
            | noRows => exact writeMessage_creates input
            | found content => exact writeMessage_creates input

end Landing

end MulticaOS.Channels
