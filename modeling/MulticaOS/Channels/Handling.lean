import MulticaOS.Channels.Admission

/-!
What `Handle` does under every combination of answers: which messages it stores, which
stored ones get their run, and when it reports a failure.
-/

namespace MulticaOS.Channels

open ProgramLib

section Handling

variable {environment : Environment} {message : InboundMessage} {registered : String → Bool}

theorem admitted_spec {admission : Admission}
    (admits : admitted registered message environment = some admission) :
    registered message.channelType = true ∧
      environment .resolveInstallation = .found admission.installation ∧
      admission.installation.active = true ∧
      claimFor message admission.installation environment = some admission.claimToken ∧
      ¬(message.chatType = .group ∧ message.addressedToBot = false) ∧
      environment .resolveSender = .member admission.userID ∧
      environment (.ensureSession (sessionCreator message admission.installation admission.userID)) =
        .ok admission.sessionID := by
  unfold admitted at admits
  split at admits
  · rename_i known
    split at admits
    · rename_i installation found
      split at admits
      · contradiction
      · rename_i active
        split at admits
        · contradiction
        · rename_i claimToken claimed
          split at admits
          · contradiction
          · rename_i addressed
            split at admits
            · rename_i userID member
              split at admits
              · rename_i sessionID ensures
                obtain rfl := Option.some.inj admits
                exact ⟨known, found, by simpa using active, claimed, addressed, member, ensures⟩
              · contradiction
            · contradiction
    · contradiction
  · contradiction

def returned : Except Failure Result → Option Failure
  | .ok _ => none
  | .error failure => if failure.isClaimLost then none else some failure

theorem finish_run (installation : Installation) (token : ID)
    (outcome : Except Failure Result × DedupFinalize) :
    let ran := (finish message installation token outcome).run environment
    (∀ call ∈ ran.1, surrounds call = true) ∧
      ((∃ result, ran.2 = .ok result) ∧ returned outcome.1 = none ∨
        ∃ failure, ran.2 = .error failure ∧ returned outcome.1 = some failure) := by
  obtain ⟨result, finalize⟩ := outcome
  have settles : ∀ call ∈ ((applyFinalize installation.id message.messageID token finalize).run
      environment).1, surrounds call = true := by
    cases finalize <;> simp [applyFinalize, surrounds]
  cases result with
  | ok result => simpa [finish, returned] using settles
  | error failure =>
      by_cases lost : failure.isClaimLost = true
      · refine ⟨?_, Or.inl ⟨⟨dropped (some installation.id) .duplicate, ?_⟩, by simp [returned, lost]⟩⟩
        · simp only [finish, Program.run_bind, lost, if_true, drop, Program.ask_bind, Program.run_call,
            Program.run_pure, List.append_nil, List.mem_append, List.mem_cons, List.not_mem_nil, or_false]
          rintro call (settled | rfl)
          · exact settles call settled
          · rfl
        · simp [finish, lost, drop]
      · simpa [finish, returned, lost] using settles

theorem processClaimed_ingests {installation : Installation} {claimToken : Option ID} {userID : ID}
    (addressed : ¬(message.chatType = .group ∧ message.addressedToBot = false))
    (member : environment .resolveSender = .member userID) :
    (processClaimed message installation claimToken).run environment =
      (.resolveSender :: ((ingest message installation claimToken userID).run environment).1,
        ((ingest message installation claimToken userID).run environment).2) := by
  unfold processClaimed
  rw [if_neg addressed, Program.ask_bind, Program.run_call, member]

theorem handle_run (known : registered message.channelType = true) :
    (handle registered message).run environment =
      (((dispatch message).run environment).1,
        match ((dispatch message).run environment).2 with
        | .ok _ => none
        | .error failure => some failure) := by
  unfold handle
  rw [if_pos known, Program.run_bind]
  cases ((dispatch message).run environment).2 with
  | ok _ => simp
  | error _ => simp

theorem dispatch_unnamed {admission : Admission}
    (admits : admitted registered message environment = some admission) (unnamed : message.messageID = "") :
    let ran := (ingest message admission.installation admission.claimToken admission.userID).run environment
    (dispatch message).run environment = ([.resolveInstallation, .resolveSender] ++ ran.1, ran.2.1) ∧
      admission.claimToken = none := by
  obtain ⟨-, found, active, claimed, addressed, member, -⟩ := admitted_spec admits
  have unclaimed : admission.claimToken = none := by
    rw [claimFor, if_pos unnamed] at claimed
    exact (Option.some.inj claimed).symm
  refine ⟨?_, unclaimed⟩
  unfold dispatch
  rw [Program.ask_bind, Program.run_call, found]
  dsimp only
  rw [active, if_neg (by simp), if_pos unnamed, Program.run_bind, processClaimed_ingests addressed member,
    Program.run_pure, List.append_nil, unclaimed]
  rfl

theorem dispatch_claimed {admission : Admission}
    (admits : admitted registered message environment = some admission) (named : message.messageID ≠ "") :
    ∃ token, admission.claimToken = some token ∧
      let ran := (ingest message admission.installation admission.claimToken admission.userID).run environment
      let finished := (finish message admission.installation token ran.2).run environment
      (dispatch message).run environment =
        ([.resolveInstallation, .claim admission.installation.id message.messageID, .resolveSender] ++
          ran.1 ++ finished.1, finished.2) := by
  obtain ⟨-, found, active, claimed, addressed, member, -⟩ := admitted_spec admits
  rw [claimFor, if_neg named] at claimed
  cases claim : environment (.claim admission.installation.id message.messageID) with
  | duplicate => simp [claim] at claimed
  | failed text => simp [claim] at claimed
  | claimed token =>
      rw [claim] at claimed
      have owned : admission.claimToken = some token := (Option.some.inj claimed).symm
      refine ⟨token, owned, ?_⟩
      unfold dispatch
      rw [Program.ask_bind, Program.run_call, found]
      dsimp only
      rw [active, if_neg (by simp), if_neg named, Program.ask_bind, Program.run_call, claim]
      dsimp only
      rw [Program.run_bind, processClaimed_ingests addressed member, owned]
      rfl

theorem handle_admitted {admission : Admission}
    (admits : admitted registered message environment = some admission) :
    let ran := (handle registered message).run environment
    ∃ result, Fate environment message admission ran.1 result ∧ ran.2 = returned result := by
  obtain ⟨known, -, -, -, -, -, ensures⟩ := admitted_spec admits
  have fate := @ingest_fate environment message admission ensures
  dsimp only at fate ⊢
  rw [handle_run known]
  by_cases unnamed : message.messageID = ""
  · obtain ⟨dispatched, unclaimed⟩ := dispatch_unnamed admits unnamed
    rw [dispatched]
    refine ⟨_, by simpa using (@Fate.surround _ _ _ _ [.resolveInstallation, .resolveSender] [] _ fate
      (by simp [surrounds]) (by simp)), ?_⟩
    cases answered : ((ingest message admission.installation admission.claimToken
        admission.userID).run environment).2.1 with
    | ok result => rfl
    | error failure =>
        have kept : failure.isClaimLost = false := by
          by_contra lost
          have claimed := fate.lost failure answered (by simpa using lost)
          rw [unclaimed] at claimed
          cases claimed
        simp [returned, kept]
  · obtain ⟨token, -, dispatched⟩ := dispatch_claimed admits unnamed
    dsimp only at dispatched
    obtain ⟨settled, ends⟩ := @finish_run environment message admission.installation token ((ingest message admission.installation admission.claimToken
        admission.userID).run environment).2
    rw [dispatched]
    refine ⟨_, fate.surround (by simp [surrounds]) settled, ?_⟩
    rcases ends with ⟨⟨result, answered⟩, silent⟩ | ⟨failure, answered, reported⟩
    · rw [answered, silent]
    · rw [answered, reported]

structure Stops (environment : Environment) (calls : List Call) (result : Except Failure Result) : Prop where
  uncommitted : .commit ∉ calls
  blames : ∀ failure, result = .error failure →
    ∃ request ∈ calls, fails request (environment request) = true

theorem Stops.answered {calls : List Call} (result : Result) (silent : .commit ∉ calls) :
    Stops environment calls (.ok result) := by
  refine ⟨silent, ?_⟩
  intro failure errs
  cases errs

theorem Stops.before {calls earlier : List Call} {result : Except Failure Result}
    (stops : Stops environment calls result) (silent : .commit ∉ earlier) :
    Stops environment (earlier ++ calls) result := by
  refine ⟨?_, ?_⟩
  · intro member
    rcases List.mem_append.mp member with early | own
    · exact silent early
    · exact stops.uncommitted own
  · intro failure errs
    obtain ⟨request, member, failing⟩ := stops.blames failure errs
    exact ⟨request, List.mem_append_right _ member, failing⟩

theorem processClaimed_stops {installation : Installation} {claimToken : Option ID}
    (refused : ∀ userID sessionID, ¬(message.chatType = .group ∧ message.addressedToBot = false) →
      environment .resolveSender = .member userID →
      environment (.ensureSession (sessionCreator message installation userID)) ≠ .ok sessionID) :
    let ran := (processClaimed message installation claimToken).run environment
    Stops environment ran.1 ran.2.1 := by
  unfold processClaimed
  by_cases filtered : message.chatType = .group ∧ message.addressedToBot = false
  · rw [if_pos filtered]
    exact Stops.answered _ (by simp [drop])
  · rw [if_neg filtered, Program.ask_bind, Program.run_call]
    cases sender : environment .resolveSender with
    | unbound => exact Stops.answered _ (by simp)
    | notMember => exact Stops.answered _ (by simp [drop])
    | failed text =>
        refine ⟨by simp, fun _ _ => ⟨.resolveSender, List.mem_cons_self, ?_⟩⟩
        simp [fails, sender]
    | member userID =>
        dsimp only
        unfold ingest
        rw [Program.ask_bind, Program.run_call]
        cases session : environment (.ensureSession (sessionCreator message installation userID)) with
        | ok sessionID => exact absurd session (refused userID sessionID filtered sender)
        | error text =>
            refine ⟨by simp, fun _ _ => ⟨.ensureSession (sessionCreator message installation userID),
              by simp, ?_⟩⟩
            rw [fails, session]
            rfl

theorem finish_stops {installation : Installation} {token : ID} {calls : List Call}
    {outcome : Except Failure Result × DedupFinalize} (stops : Stops environment calls outcome.1) :
    let ran := (finish message installation token outcome).run environment
    Stops environment (calls ++ ran.1) ran.2 := by
  obtain ⟨settled, ends⟩ := @finish_run environment message installation token outcome
  refine ⟨?_, ?_⟩
  · intro member
    rcases List.mem_append.mp member with own | later
    · exact stops.uncommitted own
    · cases settled _ later
  · intro failure errs
    rcases ends with ⟨⟨result, answered⟩, -⟩ | ⟨other, -, reported⟩
    · rw [answered] at errs
      cases errs
    · cases first : outcome.1 with
      | ok result => simp [first, returned] at reported
      | error cause =>
          obtain ⟨request, member, failing⟩ := stops.blames cause first
          exact ⟨request, List.mem_append_left _ member, failing⟩

theorem dispatch_stops (known : registered message.channelType = true)
    (refused : admitted registered message environment = none) :
    let ran := (dispatch message).run environment
    Stops environment ran.1 ran.2 := by
  unfold dispatch
  rw [Program.ask_bind, Program.run_call]
  cases found : environment .resolveInstallation with
  | notFound => exact Stops.answered _ (by simp)
  | failed text =>
      refine ⟨by simp, fun _ _ => ⟨.resolveInstallation, List.mem_cons_self, ?_⟩⟩
      simp [fails, found]
  | found installation =>
      dsimp only
      by_cases revoked : installation.active = false
      · rw [if_pos revoked]
        exact Stops.answered _ (by simp [drop])
      · rw [if_neg revoked]
        have unreached : ∀ claimToken, claimFor message installation environment = some claimToken →
            ∀ userID sessionID, ¬(message.chatType = .group ∧ message.addressedToBot = false) →
            environment .resolveSender = .member userID →
            environment (.ensureSession (sessionCreator message installation userID)) ≠
              .ok sessionID := by
          intro claimToken claimed userID sessionID addressed member ensures
          simp [admitted, known, found, revoked, claimed, addressed, member, ensures] at refused
        by_cases unnamed : message.messageID = ""
        · rw [if_pos unnamed, Program.run_bind]
          have claimed : claimFor message installation environment = some none := if_pos unnamed
          have stops := @processClaimed_stops environment message installation none
            (unreached none claimed)
          have silent : Call.commit ∉ [Call.resolveInstallation] := by simp
          simpa using stops.before silent
        · rw [if_neg unnamed, Program.ask_bind, Program.run_call]
          cases claim : environment (.claim installation.id message.messageID) with
          | duplicate => exact Stops.answered _ (by simp [drop])
          | failed text =>
              refine ⟨by simp, fun _ _ => ⟨.claim installation.id message.messageID, by simp, ?_⟩⟩
              simp [fails, claim]
          | claimed token =>
              have claimed : claimFor message installation environment = some (some token) := by
                simp [claimFor, unnamed, claim]
              have stops := @processClaimed_stops environment message installation (some token)
                (unreached (some token) claimed)
              have finished := @finish_stops environment message installation token _ _ stops
              have silent : Call.commit ∉
                  [Call.resolveInstallation, .claim installation.id message.messageID] := by simp
              dsimp only
              rw [Program.run_bind]
              exact finished.before silent

theorem handle_refused (refused : admitted registered message environment = none)
    (known : registered message.channelType = true) :
    let ran := (handle registered message).run environment
    .commit ∉ ran.1 ∧ (ran.2 = none ∨ ∃ request ∈ ran.1, fails request (environment request) = true) := by
  have stops := @dispatch_stops environment message registered known refused
  dsimp only at stops ⊢
  rw [handle_run known]
  refine ⟨stops.uncommitted, ?_⟩
  cases answered : ((dispatch message).run environment).2 with
  | ok result => exact Or.inl rfl
  | error failure => exact Or.inr (stops.blames failure answered)

/-- What is asked of one run of `Handle`: an error is owed to a failing call, and each message row that
the append committed is followed by the run of its session. -/
structure Honoured (registered : String → Bool) (message : InboundMessage) (environment : Environment) :
    Prop where
  answers : let ran := (handle registered message).run environment
    registered message.channelType = true →
    (∀ request ∈ ran.1, fails request (environment request) = false) → ran.2 = none
  runs : let ran := (handle registered message).run environment
    ∀ sessionID content media, .createChatMessage sessionID content media ∈ ran.1 → .commit ∈ ran.1 →
      (environment .commit).landed = true → ∃ userID, .scheduleRun sessionID userID ∈ ran.1

/-- Exactly the messages whose stored command cannot be served, and those whose commit takes effect
without being acknowledged, are left without their run. -/
theorem handle_honoured_iff (registered : String → Bool) (message : InboundMessage)
    (environment : Environment) :
    Honoured registered message environment ↔
      ∀ admission, admitted registered message environment = some admission →
        Writes environment (admission.input message) → (environment .commit).landed = true →
        environment .commit = .committed ∧
          commandServed environment admission.installation admission.userID admission.sessionID
            (resolvedCommand environment (admission.input message)) := by
  constructor
  · intro honoured admission admits writes landed
    obtain ⟨result, fate, -⟩ := handle_admitted admits
    obtain ⟨userID, runs⟩ := honoured.runs _ _ _ (fate.stores writes) (fate.commits.mpr writes) landed
    by_contra unserved
    exact fate.unserved (fun served => unserved served.2) _ userID runs
  · intro serves
    cases admits : admitted registered message environment with
    | none =>
        refine ⟨fun known calm => ?_, ?_⟩
        · rcases (handle_refused admits known).2 with silent | ⟨request, member, failing⟩
          · exact silent
          · rw [calm request member] at failing
            cases failing
        · intro ran sessionID content media _ commits _
          by_cases known : registered message.channelType = true
          · exact absurd commits (handle_refused admits known).1
          · simp [ran, handle, known] at commits
    | some admission =>
        have served := serves admission admits
        obtain ⟨result, fate, reports⟩ := handle_admitted admits
        refine ⟨fun _ calm => ?_, ?_⟩
        · rw [reports]
          cases result with
          | ok answered => rfl
          | error failure =>
              by_cases lost : failure.isClaimLost = true
              · exact if_pos lost
              · rcases fate.blames failure rfl (by simpa using lost) with
                  ⟨request, member, failing⟩ | ⟨writes, committed, found, resolved, empty⟩
                · rw [calm request member] at failing
                  cases failing
                · exact absurd empty ((served writes (by rw [committed]; rfl)).2 found resolved).1
        · intro ran sessionID content media creates commits landed
          obtain rfl := fate.creates sessionID content media creates
          have writes := fate.commits.mp commits
          obtain ⟨committed, commanded⟩ := served writes landed
          exact ⟨admission.userID, fate.served writes committed commanded⟩

def bareIssue : InboundMessage :=
  { channelType := "feishu", messageID := "om_1", chatType := .p2p, senderID := "ou_1", threadID := ""
    text := "/issue", commandText := "", addressedToBot := true, forceFresh := false, hasMedia := false }

def calmEnvironment : Environment
  | .resolveInstallation => .found ⟨1, 2, 3, 4, true⟩
  | .recordDrop _ _ => ()
  | .claim _ _ => .claimed 5
  | .resolveSender => .member 6
  | .ensureSession _ => .ok 7
  | .begin => .ok ()
  | .getMostRecentUserChatMessage _ => .noRows
  | .createChatMessage _ _ _ => .ok 8
  | .touchChatSession _ => .ok ()
  | .updateReplyTarget _ _ _ => .ok ()
  | .markProcessed _ _ _ => .ok 1
  | .commit => .committed
  | .rollback => ()
  | .createIssue params => .ok ⟨9, 1, params.title⟩
  | .getWorkspace _ => .ok "MUL"
  | .scheduleRun _ _ => ()
  | .enqueueMedia _ _ => ()
  | .mark _ _ _ => ()
  | .release _ _ _ => ()

theorem handle_bareIssue :
    ((handle (fun _ => true) bareIssue).run calmEnvironment).2 =
        some (.wrapped "create issue from command" .emptyIssueTitle) ∧
      ¬Honoured (fun _ => true) bareIssue calmEnvironment := by
  have ran : (handle (fun _ => true) bareIssue).run calmEnvironment =
      ([.resolveInstallation, .claim 1 "om_1", .resolveSender, .ensureSession 6, .begin,
        .getMostRecentUserChatMessage 7, .createChatMessage 7 "/issue" false, .touchChatSession 7,
        .updateReplyTarget 7 "om_1" "", .markProcessed 1 "om_1" 5, .commit],
        some (.wrapped "create issue from command" .emptyIssueTitle)) := by
    decide +kernel
  refine ⟨by rw [ran], fun honoured => ?_⟩
  have runs := honoured.runs 7 "/issue" false
  rw [ran] at runs
  simp [calmEnvironment, CommitAnswer.landed] at runs

end Handling

end MulticaOS.Channels
