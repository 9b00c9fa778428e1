import MulticaOS.Channels.Appending

/-!
What becomes of a message that is admitted to a session: whether it is stored, whether its
run is scheduled, and what its error is owed to.
-/

namespace MulticaOS.Channels

open ProgramLib

def claimFor (message : InboundMessage) (installation : Installation) (environment : Environment) :
    Option (Option ID) :=
  if message.messageID = "" then some none
  else
    match environment (.claim installation.id message.messageID) with
    | .claimed token => some (some token)
    | _ => none

structure Admission where
  installation : Installation
  claimToken : Option ID
  userID : ID
  sessionID : ID

def admitted (registered : String → Bool) (message : InboundMessage) (environment : Environment) :
    Option Admission :=
  if registered message.channelType then
    match environment .resolveInstallation with
    | .found installation =>
        if installation.active = false then none
        else
          match claimFor message installation environment with
          | none => none
          | some claimToken =>
              if message.chatType = .group ∧ message.addressedToBot = false then none
              else
                match environment .resolveSender with
                | .member userID =>
                    match environment (.ensureSession (sessionCreator message installation userID)) with
                    | .ok sessionID => some ⟨installation, claimToken, userID, sessionID⟩
                    | .error _ => none
                | _ => none
    | _ => none
  else none

def Admission.input (admission : Admission) (message : InboundMessage) : AppendInput :=
  appendInput message admission.installation admission.sessionID admission.claimToken
def commandServed (environment : Environment) (installation : Installation) (userID sessionID : ID)
    (command : Option IssueCommand) : Prop :=
  ∀ found, command = some found → found.title ≠ "" ∧
    (environment (.createIssue (issueParams installation userID sessionID found))).isOk = true

theorem afterAppend_run (environment : Environment) (message : InboundMessage)
    (installation : Installation) (userID sessionID : ID) (appended : AppendResult) :
    let ran := (afterAppend message installation userID sessionID appended).run environment
    .commit ∉ ran.1 ∧ (∀ other content media, .createChatMessage other content media ∉ ran.1) ∧
      ((∃ result, ran.2.1 = .ok result) ∧ .scheduleRun sessionID userID ∈ ran.1 ∧
          commandServed environment installation userID sessionID appended.issueCommand ∨
        (∃ failure, ran.2.1 = .error failure ∧ failure.isClaimLost = false) ∧
          (∀ other initiator, .scheduleRun other initiator ∉ ran.1) ∧
          ¬commandServed environment installation userID sessionID appended.issueCommand ∧
          ((∃ found, appended.issueCommand = some found ∧ found.title = "") ∨
            ∃ request ∈ ran.1, fails request (environment request) = true)) := by
  have answers : ∀ (result : Result) (finalize : DedupFinalize),
      ((schedule message sessionID userID appended.messageID result finalize).run environment).2 =
        (.ok result, finalize) := by
    intro result finalize
    by_cases media : message.hasMedia = true <;> simp [schedule, media]
  have calls : ∀ (result : Result) (finalize : DedupFinalize), .scheduleRun sessionID userID ∈
      ((schedule message sessionID userID appended.messageID result finalize).run environment).1 := by
    intro result finalize
    by_cases media : message.hasMedia = true <;> simp [schedule, media]
  have others : ∀ (result : Result) (finalize : DedupFinalize) (call : Call), call ∈
      ((schedule message sessionID userID appended.messageID result finalize).run environment).1 →
      call ≠ .commit ∧ ∀ other content media, call ≠ .createChatMessage other content media := by
    intro result finalize call
    by_cases media : message.hasMedia = true
    · simp only [schedule, media, if_true, Program.ask_bind, Program.run_call, Program.run_pure]
      simp only [List.mem_cons, List.not_mem_nil, or_false]
      rintro (rfl | rfl) <;> simp
    · simp only [schedule, media, Program.ask_bind, Program.run_call]
      simp only [Bool.false_eq_true, if_false, Program.run_pure, List.mem_cons, List.not_mem_nil, or_false]
      rintro rfl
      simp
  unfold afterAppend
  dsimp only
  cases command : appended.issueCommand with
  | none =>
      dsimp only
      refine ⟨fun member => (others _ _ _ member).1 rfl,
        fun _ _ _ member => (others _ _ _ member).2 _ _ _ rfl,
        Or.inl ⟨⟨_, by rw [answers]⟩, calls _ _, ?_⟩⟩
      simp [commandServed]
  | some found =>
      dsimp only
      by_cases untitled : found.title = ""
      · have unserved : ¬commandServed environment installation userID sessionID (some found) :=
          fun served => (served found rfl).1 untitled
        simp [createIssue, untitled, unserved, Failure.isClaimLost]
      · cases creates : environment
            (.createIssue (issueParams installation userID sessionID found)) with
        | error text =>
            have unserved : ¬commandServed environment installation userID sessionID (some found) := by
              intro served
              have created := (served found rfl).2
              rw [creates] at created
              cases created
            have failing : fails (.createIssue (issueParams installation userID sessionID found))
                (Except.error text) = true := rfl
            simp [createIssue, untitled, unserved, Failure.isClaimLost, creates, failing]
        | ok issue =>
            have served : commandServed environment installation userID sessionID (some found) := by
              rintro other same
              obtain rfl := Option.some.inj same
              exact ⟨untitled, by rw [creates]; rfl⟩
            have creating : (createIssue installation userID sessionID found).run environment =
                ([.createIssue (issueParams installation userID sessionID found)], .ok issue) := by
              simp [createIssue, untitled, creates]
            rw [Program.run_bind, creating]
            dsimp only
            rw [Program.ask_bind, Program.run_call]
            refine ⟨?_, ?_, Or.inl ⟨⟨_, by rw [answers]⟩, ?_, served⟩⟩
            · simp only [List.cons_append, List.nil_append, List.mem_cons, reduceCtorEq, false_or]
              exact fun member => (others _ _ _ member).1 rfl
            · intro other content media
              simp only [List.cons_append, List.nil_append, List.mem_cons, reduceCtorEq, false_or]
              exact fun member => (others _ _ _ member).2 _ _ _ rfl
            · exact List.mem_append_right _ (List.mem_cons_of_mem _ (calls _ _))

def surrounds : Call → Bool
  | .resolveInstallation => true
  | .recordDrop _ _ => true
  | .claim _ _ => true
  | .resolveSender => true
  | .ensureSession _ => true
  | .mark _ _ _ => true
  | .release _ _ _ => true
  | _ => false

structure Fate (environment : Environment) (message : InboundMessage) (admission : Admission)
    (calls : List Call) (result : Except Failure Result) : Prop where
  commits : .commit ∈ calls ↔ Writes environment (admission.input message)
  stores : Writes environment (admission.input message) →
    .createChatMessage admission.sessionID message.text message.hasMedia ∈ calls
  creates : ∀ sessionID content media, .createChatMessage sessionID content media ∈ calls →
    sessionID = admission.sessionID
  served : Writes environment (admission.input message) → environment .commit = .committed →
    commandServed environment admission.installation admission.userID admission.sessionID
      (resolvedCommand environment (admission.input message)) →
    .scheduleRun admission.sessionID admission.userID ∈ calls
  unserved : ¬(Writes environment (admission.input message) ∧ environment .commit = .committed ∧
    commandServed environment admission.installation admission.userID admission.sessionID
      (resolvedCommand environment (admission.input message))) →
    ∀ sessionID userID, .scheduleRun sessionID userID ∉ calls
  blames : ∀ failure, result = .error failure → failure.isClaimLost = false →
    (∃ request ∈ calls, fails request (environment request) = true) ∨
      Writes environment (admission.input message) ∧ environment .commit = .committed ∧
        ∃ found, resolvedCommand environment (admission.input message) = some found ∧ found.title = ""
  untitled : Writes environment (admission.input message) → environment .commit = .committed →
    ∀ found, resolvedCommand environment (admission.input message) = some found → found.title = "" →
      ∃ failure, result = .error failure ∧ failure.isClaimLost = false
  lost : ∀ failure, result = .error failure → failure.isClaimLost = true →
    admission.claimToken.isSome = true

theorem Fate.surround {environment : Environment} {message : InboundMessage} {admission : Admission}
    {calls before after : List Call} {result : Except Failure Result}
    (fate : Fate environment message admission calls result)
    (front : ∀ call ∈ before, surrounds call = true) (back : ∀ call ∈ after, surrounds call = true) :
    Fate environment message admission (before ++ calls ++ after) result := by
  have inside : ∀ call, surrounds call = false → (call ∈ before ++ calls ++ after ↔ call ∈ calls) := by
    intro call other
    simp only [List.mem_append]
    constructor
    · rintro ((early | own) | late)
      · rw [front call early] at other
        cases other
      · exact own
      · rw [back call late] at other
        cases other
    · exact fun own => Or.inl (Or.inr own)
  refine ⟨?_, ?_, ?_, ?_, ?_, ?_, fate.untitled, fate.lost⟩
  · rw [inside _ rfl, fate.commits]
  · rw [inside _ rfl]
    exact fate.stores
  · intro sessionID content media
    rw [inside _ rfl]
    exact fate.creates sessionID content media
  · rw [inside _ rfl]
    exact fate.served
  · intro unserved sessionID userID
    rw [inside _ rfl]
    exact fate.unserved unserved sessionID userID
  · intro failure errs kept
    refine (fate.blames failure errs kept).imp_left ?_
    rintro ⟨request, member, failing⟩
    exact ⟨request, List.mem_append_left _ (List.mem_append_right _ member), failing⟩

section Appending

variable {environment : Environment} {message : InboundMessage} {admission : Admission}

theorem failed_fate {calls : List Call} {failure reported : Failure}
    {program : Program (Except Failure AppendResult)}
    (stores : Writes environment (admission.input message) →
      .createChatMessage admission.sessionID message.text message.hasMedia ∈ (program.run environment).1)
    (lands : Lands environment admission.sessionID program (Writes environment (admission.input message))
      (resolvedCommand environment (admission.input message)) admission.claimToken.isSome)
    (ran : program.run environment = (calls, .error failure))
    (same : reported.isClaimLost = failure.isClaimLost) :
    Fate environment message admission calls (.error reported) := by
  have unanswered : ¬(Writes environment (admission.input message) ∧
      environment .commit = .committed) := by
    intro both
    obtain ⟨appended, answered⟩ := lands.answers.mpr both
    rw [ran] at answered
    cases answered
  have within := lands.within
  have commits := lands.commits
  have failed := lands.failed failure
  have lost := lands.lost failure
  rw [ran] at within commits failed lost stores
  refine ⟨commits, stores, ?_, ?_, ?_, ?_, ?_, ?_⟩
  · intro sessionID content media member
    simpa [appends] using within _ member
  · exact fun writes committed => absurd ⟨writes, committed⟩ unanswered
  · intro _ sessionID userID member
    cases within _ member
  · intro other errs kept
    obtain rfl := Except.error.inj errs
    exact Or.inl (failed rfl (same ▸ kept))
  · exact fun writes committed => absurd ⟨writes, committed⟩ unanswered
  · intro other errs claimLost
    obtain rfl := Except.error.inj errs
    exact lost rfl (same ▸ claimLost)

theorem appended_fate {calls : List Call} {appended : AppendResult}
    {program : Program (Except Failure AppendResult)}
    (stores : Writes environment (admission.input message) →
      .createChatMessage admission.sessionID message.text message.hasMedia ∈ (program.run environment).1)
    (lands : Lands environment admission.sessionID program (Writes environment (admission.input message))
      (resolvedCommand environment (admission.input message)) admission.claimToken.isSome)
    (ran : program.run environment = (calls, .ok appended)) :
    Fate environment message admission
      (calls ++ ((afterAppend message admission.installation admission.userID admission.sessionID
        appended).run environment).1)
      ((afterAppend message admission.installation admission.userID admission.sessionID
        appended).run environment).2.1 := by
  have within := lands.within
  have commits := lands.commits
  have answers := lands.answers
  have command := lands.command appended
  rw [ran] at within commits answers command stores
  obtain ⟨writes, committed⟩ := answers.mp ⟨appended, rfl⟩
  obtain ⟨uncommitted, uncreated, ends⟩ := afterAppend_run environment message admission.installation
    admission.userID admission.sessionID appended
  rw [command rfl] at ends
  have created : ∀ sessionID content media, .createChatMessage sessionID content media ∈ calls ++
      ((afterAppend message admission.installation admission.userID admission.sessionID
        appended).run environment).1 → sessionID = admission.sessionID := by
    intro sessionID content media member
    rcases List.mem_append.mp member with own | later
    · simpa [appends] using within _ own
    · exact absurd later (uncreated _ _ _)
  have commit : .commit ∈ calls ++ ((afterAppend message admission.installation admission.userID
      admission.sessionID appended).run environment).1 ↔ Writes environment (admission.input message) :=
    iff_of_true (List.mem_append_left _ (commits.mpr writes)) writes
  rcases ends with ⟨⟨result, answered⟩, runs, serves⟩ | ⟨⟨failure, answered, kept⟩, silent, unserved, cause⟩
  · refine ⟨commit, fun writes => List.mem_append_left _ (stores writes), created, fun _ _ _ => List.mem_append_right _ runs,
      fun refused => absurd ⟨writes, committed, serves⟩ refused, ?_, ?_, ?_⟩
    · intro failure errs
      rw [answered] at errs
      cases errs
    · intro _ _ found resolved empty
      exact absurd empty (serves found resolved).1
    · intro failure errs
      rw [answered] at errs
      cases errs
  · refine ⟨commit, fun writes => List.mem_append_left _ (stores writes), created,
      fun _ _ serves => absurd serves unserved, ?_, ?_, fun _ _ _ _ _ => ⟨failure, answered, kept⟩, ?_⟩
    · intro _ sessionID userID member
      rcases List.mem_append.mp member with own | later
      · cases within _ own
      · exact silent sessionID userID later
    · intro other errs _
      rcases cause with ⟨found, resolved, empty⟩ | ⟨request, member, failing⟩
      · exact Or.inr ⟨writes, committed, found, resolved, empty⟩
      · exact Or.inl ⟨request, List.mem_append_right _ member, failing⟩
    · intro other errs lost
      rw [answered] at errs
      obtain rfl := Except.error.inj errs
      rw [kept] at lost
      cases lost

theorem ingest_fate (ensures : environment (.ensureSession
      (sessionCreator message admission.installation admission.userID)) = .ok admission.sessionID) :
    let ran := (ingest message admission.installation admission.claimToken admission.userID).run environment
    Fate environment message admission ran.1 ran.2.1 := by
  have lands := @appendUserMessage_lands environment (admission.input message)
  have stores : Writes environment (admission.input message) →
      .createChatMessage admission.sessionID message.text message.hasMedia ∈
        ((appendUserMessage (admission.input message)).run environment).1 :=
    appendUserMessage_creates
  let request : Call := .ensureSession (sessionCreator message admission.installation admission.userID)
  have opening : ∀ call ∈ [request], surrounds call = true := by simp [request, surrounds]
  have nothing : ∀ call ∈ ([] : List Call), surrounds call = true := by simp
  have same : appendInput message admission.installation admission.sessionID admission.claimToken =
      admission.input message := rfl
  unfold ingest
  rw [Program.ask_bind, Program.run_call, ensures]
  dsimp only
  rw [same, Program.run_bind]
  cases ran : (appendUserMessage (admission.input message)).run environment with
  | mk calls result =>
      cases result with
      | error failure =>
          by_cases lost : failure.isClaimLost = true
          · have fate := (failed_fate stores lands ran rfl).surround opening nothing
            simpa [lost] using fate
          · have failed : Fate environment message admission calls
                (.error (.wrapped "append user message" failure)) := failed_fate stores lands ran rfl
            have fate := failed.surround opening nothing
            simpa [lost] using fate
      | ok appended =>
          have fate := (appended_fate stores lands ran).surround opening nothing
          simpa using fate

end Appending

end MulticaOS.Channels
