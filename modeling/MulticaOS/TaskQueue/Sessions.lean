import MulticaOS.Lib.GoText
import MulticaOS.Lib.Patterns
import MulticaOS.TaskQueue.Statements

/-!
Which session a follow-up task resumes: the Go predicate `ResumeUnsafeFailure`, the two queries
that repeat its blacklist, and the sessions that a resume-unsafe failure has poisoned.
-/

namespace MulticaOS.TaskQueue

def FailureReason.name : FailureReason → String
  | .runtimeOffline => "runtime_offline"
  | .runtimeRecovery => "runtime_recovery"
  | .timeout => "timeout"
  | .codexSemanticInactivity => "codex_semantic_inactivity"
  | .providerNetwork => "agent_error.provider_network"
  | .queuedExpired => "queued_expired"
  | .other name => name

/-- `COALESCE(failure_reason, '')`, and the string that Go reads of the nullable column. -/
def Task.reasonText (task : Task) : String := (task.failureReason.map FailureReason.name).getD ""

def Task.errorText (task : Task) : String := task.error.getD ""

def resumeUnsafeFailureReason (reason : String) : Bool :=
  match reason with
  | "iteration_limit" => true
  | "agent_fallback_message" => true
  | "api_invalid_request" => true
  | "codex_semantic_inactivity" => true
  | "agent_error.context_overflow" => true
  | _ => false

def resumeUnsafeFailure (failureReason errorText : String) : Bool :=
  if resumeUnsafeFailureReason failureReason then true
  else
    let lower := errorText.toList.map GoLib.lowerRune
    GoLib.contains lower "400".toList && GoLib.contains lower "invalid_request_error".toList

def ilike (text pattern : String) : Bool :=
  PatternLib.like (pattern.toList.map GoLib.lowerRune) (text.toList.map GoLib.lowerRune)

/-- The filter of `GetLastTaskSession`. -/
def issueResumable (task : Task) : Bool :=
  task.status = .completed ||
    (task.status = .failed &&
      decide (task.reasonText ∉ ["iteration_limit", "agent_fallback_message", "api_invalid_request",
        "codex_semantic_inactivity", "agent_error.context_overflow"]) &&
      !(ilike task.errorText "%400%" && ilike task.errorText "%invalid_request_error%") &&
      !(ilike task.errorText "%image dimensions exceed max allowed size%" &&
        ilike task.errorText "%image.source.base64.data%"))

/-- The filter of `GetLastChatTaskSession`. -/
def chatResumable (task : Task) : Bool :=
  task.status = .completed ||
    (task.status = .failed &&
      decide (task.reasonText ∉ ["iteration_limit", "agent_fallback_message", "api_invalid_request",
        "codex_semantic_inactivity", "agent_error.context_overflow"]) &&
      !(ilike task.errorText "%400%" && ilike task.errorText "%invalid_request_error%"))

structure SessionRow where
  sessionId : Option String
  workDir : Option String
  runtimeId : Id
  deriving DecidableEq

def Task.sessionRow (task : Task) : SessionRow := ⟨task.sessionId, task.workDir, task.runtimeId⟩

/-- `COALESCE(completed_at, started_at, dispatched_at, created_at)`. -/
def Task.terminalAt (task : Task) : Nat :=
  task.completedAt.getD (task.startedAt.getD (task.dispatchedAt.getD task.createdAt))

def Task.endedSession (task : Task) : Bool :=
  task.sessionId.isSome && (task.status = .completed || task.status = .failed)

def Task.ofPair (agent issue : Id) (task : Task) : Bool := task.agentId = agent && task.issueId = some issue

def Task.ofChat (chat : Id) (task : Task) : Bool := task.chatSessionId = some chat

def endedLater (left right : Task) : Bool := decide (right.terminalAt < left.terminalAt)

/-- `ORDER BY completed_at DESC`, which puts a null first. -/
def Task.completedKey (task : Task) : WithTop Nat := task.completedAt

def completedLater (left right : Task) : Bool := decide (right.completedKey < left.completedKey)

def latestPerSession (rows : List Task) (agent issue : Id) : List Task :=
  let ended := rows.filter fun task => task.ofPair agent issue && task.endedSession
  (ended.map Task.sessionId).dedup.filterMap fun session =>
    TableLib.first endedLater (ended.filter fun task => task.sessionId = session)

def getLastTaskSession (rows : List Task) (agent issue : Id) : Option SessionRow :=
  (TableLib.first endedLater ((latestPerSession rows agent issue).filter issueResumable)).map Task.sessionRow

def Task.chatCandidate (chat : Id) (task : Task) : Bool :=
  task.ofChat chat && chatResumable task && task.sessionId.isSome

def getLastChatTaskSession (rows : List Task) (chat : Id) : Option SessionRow :=
  (TableLib.first completedLater (rows.filter (Task.chatCandidate chat))).map Task.sessionRow

def Task.unsafeFailure (task : Task) : Prop :=
  task.status = .failed ∧ resumeUnsafeFailure task.reasonText task.errorText = true

/-- The session's most recent terminal row in a history is a resume-unsafe failure. -/
def Poisoned (history : List Task) (session : Option String) : Prop :=
  ∃ task ∈ history, task.endedSession = true ∧ task.sessionId = session ∧
    ∀ other ∈ history, other.endedSession = true → other.sessionId = session →
      task.terminalAt ≤ other.terminalAt → other.unsafeFailure

/-- One notion of a poisoned session, over every order in which the rows are read. -/
structure OneNotion (tasks : List Task) : Prop where
  issueAgrees : ∀ task ∈ tasks, task.status = .failed →
    issueResumable task = !resumeUnsafeFailure task.reasonText task.errorText
  chatAgrees : ∀ task ∈ tasks, task.status = .failed →
    chatResumable task = !resumeUnsafeFailure task.reasonText task.errorText
  issueHealthy : ∀ rows, rows.Perm tasks → ∀ agent issue row,
    getLastTaskSession rows agent issue = some row →
      ¬Poisoned (tasks.filter (Task.ofPair agent issue)) row.sessionId
  chatHealthy : ∀ rows, rows.Perm tasks → ∀ chat row,
    getLastChatTaskSession rows chat = some row →
      ¬Poisoned (tasks.filter (Task.ofChat chat)) row.sessionId

def Task.loweredError (task : Task) : List Char := task.errorText.toList.map GoLib.lowerRune

def resumeUnsafeReasons : List String :=
  ["iteration_limit", "agent_fallback_message", "api_invalid_request", "codex_semantic_inactivity",
    "agent_error.context_overflow"]

def Task.namesInvalidRequest (task : Task) : Prop :=
  "400".toList <:+: task.loweredError ∧ "invalid_request_error".toList <:+: task.loweredError

/-- What the queries match: `_` in their pattern stands for any character. -/
def Task.resemblesInvalidRequest (task : Task) : Prop :=
  "400".toList <:+: task.loweredError ∧ ∃ first second,
    "invalid".toList ++ first :: ("request".toList ++ second :: "error".toList) <:+: task.loweredError

def Task.namesOversizedImage (task : Task) : Prop :=
  "image dimensions exceed max allowed size".toList <:+: task.loweredError ∧
    "image.source.base64.data".toList <:+: task.loweredError

theorem resembles_of_names {task : Task} (names : task.namesInvalidRequest) :
    task.resemblesInvalidRequest :=
  ⟨names.1, '_', '_', names.2⟩

theorem resumeUnsafeFailureReason_iff (reason : String) :
    resumeUnsafeFailureReason reason = true ↔ reason ∈ resumeUnsafeReasons := by
  unfold resumeUnsafeFailureReason
  split <;> simp_all [resumeUnsafeReasons]

theorem resumeUnsafeFailure_iff (task : Task) :
    resumeUnsafeFailure task.reasonText task.errorText = true ↔
      task.reasonText ∈ resumeUnsafeReasons ∨ task.namesInvalidRequest := by
  rw [resumeUnsafeFailure, ← resumeUnsafeFailureReason_iff]
  split
  · rename_i listed
    simp [listed]
  · rename_i unlisted
    simp only [unlisted, Bool.false_eq_true, false_or, Bool.and_eq_true, GoLib.contains, decide_eq_true_eq,
      Task.namesInvalidRequest, Task.loweredError]

theorem ilike_literal {text pattern : String} {part : List Char}
    (shape : pattern.toList.map GoLib.lowerRune = '%' :: (part ++ ['%'])) (fixed : '%' ∉ part)
    (literal : '_' ∉ part) :
    ilike text pattern = true ↔ part <:+: text.toList.map GoLib.lowerRune := by
  rw [ilike, shape, PatternLib.like_anywhere_literal fixed literal]

theorem ilike_invalidRequest (text : String) : ilike text "%invalid_request_error%" = true ↔
    ∃ first second, "invalid".toList ++ first :: ("request".toList ++ second :: "error".toList) <:+:
      text.toList.map GoLib.lowerRune := by
  have shape : "%invalid_request_error%".toList.map GoLib.lowerRune =
      '%' :: (("invalid".toList ++ '_' :: ("request".toList ++ '_' :: "error".toList)) ++ ['%']) := by
    decide
  rw [ilike, shape, PatternLib.like_anywhere (by decide)]
  constructor
  · rintro ⟨found, inside, fit⟩
    obtain ⟨first, rest, rfl, later⟩ := (PatternLib.forall₂_fits_any (by decide)).mp fit
    obtain ⟨second, last, rfl, ending⟩ := (PatternLib.forall₂_fits_any (by decide)).mp later
    rw [(PatternLib.forall₂_fits_literal (by decide)).mp ending] at inside
    exact ⟨first, second, inside⟩
  · rintro ⟨first, second, inside⟩
    refine ⟨_, inside, (PatternLib.forall₂_fits_any (by decide)).mpr ⟨first, _, rfl, ?_⟩⟩
    refine (PatternLib.forall₂_fits_any (by decide)).mpr ⟨second, _, rfl, ?_⟩
    exact (PatternLib.forall₂_fits_literal (by decide)).mpr rfl

theorem ilike_400 (text : String) :
    ilike text "%400%" = true ↔ "400".toList <:+: text.toList.map GoLib.lowerRune :=
  ilike_literal (by decide) (by decide) (by decide)

theorem ilike_dimensions (text : String) : ilike text "%image dimensions exceed max allowed size%" = true ↔
    "image dimensions exceed max allowed size".toList <:+: text.toList.map GoLib.lowerRune :=
  ilike_literal (by decide) (by decide) (by decide)

theorem ilike_imageSource (text : String) : ilike text "%image.source.base64.data%" = true ↔
    "image.source.base64.data".toList <:+: text.toList.map GoLib.lowerRune :=
  ilike_literal (by decide) (by decide) (by decide)

theorem chatResumable_failed {task : Task} (failed : task.status = .failed) :
    chatResumable task = false ↔ task.reasonText ∈ resumeUnsafeReasons ∨ task.resemblesInvalidRequest := by
  simp only [chatResumable, failed, Task.resemblesInvalidRequest, Task.loweredError,
    ← ilike_invalidRequest, ← ilike_400, resumeUnsafeReasons]
  simp only [reduceCtorEq, decide_false, Bool.false_or, decide_true, Bool.true_and,
    Bool.and_eq_false_iff, decide_eq_false_iff_not, not_not, Bool.not_eq_false', Bool.and_eq_true]

theorem issueResumable_failed {task : Task} (failed : task.status = .failed) :
    issueResumable task = false ↔ task.reasonText ∈ resumeUnsafeReasons ∨
      task.resemblesInvalidRequest ∨ task.namesOversizedImage := by
  simp only [issueResumable, failed, Task.resemblesInvalidRequest, Task.namesOversizedImage,
    Task.loweredError, ← ilike_invalidRequest, ← ilike_400, ← ilike_dimensions, ← ilike_imageSource,
    resumeUnsafeReasons]
  simp only [reduceCtorEq, decide_false, Bool.false_or, decide_true, Bool.true_and,
    Bool.and_eq_false_iff, decide_eq_false_iff_not, not_not, Bool.not_eq_false', Bool.and_eq_true,
    or_assoc]

theorem latestPerSession_spec {rows : List Task} {agent issue : Id} {task : Task}
    (latest : task ∈ latestPerSession rows agent issue) :
    task ∈ rows ∧ task.ofPair agent issue = true ∧ task.endedSession = true ∧
      ∀ other ∈ rows, other.ofPair agent issue = true → other.endedSession = true →
        other.sessionId = task.sessionId → other.terminalAt ≤ task.terminalAt := by
  rw [latestPerSession, List.mem_filterMap] at latest
  obtain ⟨session, _, chosen⟩ := latest
  have member := TableLib.first_mem chosen
  simp only [List.mem_filter, Bool.and_eq_true, decide_eq_true_eq] at member
  obtain ⟨⟨listed, paired, ended⟩, same⟩ := member
  refine ⟨listed, paired, ended, fun other otherListed otherPaired otherEnded otherSame => ?_⟩
  refine TableLib.first_greatest chosen other (List.mem_filter.mpr ⟨?_, ?_⟩)
  · exact List.mem_filter.mpr ⟨otherListed, by rw [otherPaired, otherEnded]; rfl⟩
  · exact decide_eq_true (otherSame.trans same)

theorem getLastTaskSession_spec {rows : List Task} {agent issue : Id} {row : SessionRow}
    (answered : getLastTaskSession rows agent issue = some row) :
    ∃ task ∈ latestPerSession rows agent issue, issueResumable task = true ∧ task.sessionId = row.sessionId := by
  rw [getLastTaskSession, Option.map_eq_some_iff] at answered
  obtain ⟨task, chosen, rfl⟩ := answered
  obtain ⟨latest, resumable⟩ := List.mem_filter.mp (TableLib.first_mem chosen)
  exact ⟨task, latest, resumable, rfl⟩

theorem not_unsafe_of_issueResumable {task : Task} (resumable : issueResumable task = true) :
    ¬task.unsafeFailure := by
  rintro ⟨failed, poison⟩
  have excluded : issueResumable task = false := by
    rw [issueResumable_failed failed]
    rcases (resumeUnsafeFailure_iff task).mp poison with listed | names
    · exact .inl listed
    · exact .inr (.inl (resembles_of_names names))
  rw [excluded] at resumable
  contradiction

theorem getLastTaskSession_healthy {rows tasks : List Task} (order : rows.Perm tasks) {agent issue : Id}
    {row : SessionRow} (answered : getLastTaskSession rows agent issue = some row) :
    ¬Poisoned (tasks.filter (Task.ofPair agent issue)) row.sessionId := by
  obtain ⟨task, latest, resumable, same⟩ := getLastTaskSession_spec answered
  obtain ⟨listed, paired, ended, greatest⟩ := latestPerSession_spec latest
  rintro ⟨failure, member, failureEnded, failureSame, last⟩
  obtain ⟨failureListed, failurePaired⟩ := List.mem_filter.mp member
  have before : failure.terminalAt ≤ task.terminalAt :=
    greatest failure (order.mem_iff.mpr failureListed) failurePaired failureEnded (failureSame.trans same.symm)
  have inHistory : task ∈ tasks.filter (Task.ofPair agent issue) :=
    List.mem_filter.mpr ⟨order.mem_iff.mp listed, paired⟩
  exact not_unsafe_of_issueResumable resumable (last task inHistory ended same before)

theorem getLastChatTaskSession_spec {rows : List Task} {chat : Id} {row : SessionRow}
    (answered : getLastChatTaskSession rows chat = some row) :
    ∃ task ∈ rows, task.chatCandidate chat = true ∧ task.sessionId = row.sessionId ∧
      ∀ other ∈ rows, other.chatCandidate chat = true → other.completedKey ≤ task.completedKey := by
  rw [getLastChatTaskSession, Option.map_eq_some_iff] at answered
  obtain ⟨task, chosen, rfl⟩ := answered
  obtain ⟨listed, candidate⟩ := List.mem_filter.mp (TableLib.first_mem chosen)
  refine ⟨task, listed, candidate, rfl, fun other otherListed otherCandidate => ?_⟩
  exact TableLib.first_greatest chosen other (List.mem_filter.mpr ⟨otherListed, otherCandidate⟩)

theorem getLastChatTaskSession_of_greatest {tasks : List Task} {chat : Id} {task : Task}
    (listed : task ∈ tasks) (candidate : task.chatCandidate chat = true)
    (greatest : ∀ other ∈ tasks, other.chatCandidate chat = true →
      other.completedKey ≤ task.completedKey) :
    ∃ rows, rows.Perm tasks ∧ getLastChatTaskSession rows chat = some task.sessionRow := by
  obtain ⟨front, back, rfl⟩ := List.append_of_mem listed
  refine ⟨task :: (front ++ back), List.perm_middle.symm, ?_⟩
  rw [getLastChatTaskSession, List.filter_cons_of_pos candidate, TableLib.first]
  split
  · rfl
  · rename_i best chosen
    obtain ⟨member, bestCandidate⟩ := List.mem_filter.mp (TableLib.first_mem chosen)
    have below : best.completedKey ≤ task.completedKey :=
      greatest best (List.perm_middle.mem_iff.mpr (List.mem_cons_of_mem _ member)) bestCandidate
    rw [completedLater, if_neg (by simpa using below)]
    rfl

/-- The error texts do not tell the blacklists apart, and in every chat a later candidate of a healthy
session stands before the candidates of the poisoned ones. -/
structure PoisonSeen (tasks : List Task) : Prop where
  texts : ∀ task ∈ tasks, task.status = .failed → task.reasonText ∉ resumeUnsafeReasons →
    task.resemblesInvalidRequest ∨ task.namesOversizedImage → task.namesInvalidRequest
  chats : ∀ chat, ∀ task ∈ tasks, task.chatCandidate chat = true →
    Poisoned (tasks.filter (Task.ofChat chat)) task.sessionId →
      ∃ other ∈ tasks, other.chatCandidate chat = true ∧
        ¬Poisoned (tasks.filter (Task.ofChat chat)) other.sessionId ∧
          task.completedKey < other.completedKey

theorem bool_eq_not_iff {left right : Bool} : left = !right ↔ (left = false ↔ right = true) := by
  cases left <;> cases right <;> simp

theorem blacklists_agree_iff {task : Task} (failed : task.status = .failed) :
    (issueResumable task = (!resumeUnsafeFailure task.reasonText task.errorText) ∧
      chatResumable task = !resumeUnsafeFailure task.reasonText task.errorText) ↔
        (task.reasonText ∉ resumeUnsafeReasons →
          task.resemblesInvalidRequest ∨ task.namesOversizedImage → task.namesInvalidRequest) := by
  rw [bool_eq_not_iff, bool_eq_not_iff, issueResumable_failed failed, chatResumable_failed failed,
    resumeUnsafeFailure_iff]
  have resembles := @resembles_of_names task
  by_cases listed : task.reasonText ∈ resumeUnsafeReasons
  · simp [listed]
  · simp only [listed, false_or, not_false_eq_true, true_implies]
    constructor
    · rintro ⟨issue, _⟩ matched
      exact issue.mp matched
    · intro told
      exact ⟨⟨told, fun names => .inl (resembles names)⟩,
        ⟨fun matched => told (.inl matched), resembles⟩⟩

theorem exists_greatest_candidate {tasks : List Task} {chat : Id} {task : Task} (listed : task ∈ tasks)
    (candidate : task.chatCandidate chat = true) :
    ∃ best ∈ tasks, best.chatCandidate chat = true ∧
      ∀ other ∈ tasks, other.chatCandidate chat = true → other.completedKey ≤ best.completedKey := by
  have member : task ∈ tasks.filter (Task.chatCandidate chat) := List.mem_filter.mpr ⟨listed, candidate⟩
  have found : TableLib.first completedLater (tasks.filter (Task.chatCandidate chat)) ≠ none := by
    intro none
    exact List.ne_nil_of_mem member (TableLib.first_eq_none.mp none)
  obtain ⟨best, chosen⟩ := Option.ne_none_iff_exists'.mp found
  obtain ⟨bestListed, bestCandidate⟩ := List.mem_filter.mp (TableLib.first_mem chosen)
  refine ⟨best, bestListed, bestCandidate, fun other otherListed otherCandidate => ?_⟩
  exact TableLib.first_greatest chosen other (List.mem_filter.mpr ⟨otherListed, otherCandidate⟩)

/-- There is one notion of a poisoned session just when no text tells the blacklists apart and every
poisoned chat session has a later healthy one. -/
theorem one_notion_iff (tasks : List Task) : OneNotion tasks ↔ PoisonSeen tasks := by
  constructor
  · intro one
    constructor
    · intro task listed failed
      exact (blacklists_agree_iff failed).mp
        ⟨one.issueAgrees task listed failed, one.chatAgrees task listed failed⟩
    · intro chat task listed candidate poisoned
      obtain ⟨best, bestListed, bestCandidate, greatest⟩ := exists_greatest_candidate listed candidate
      have healthy : ∀ top ∈ tasks, top.chatCandidate chat = true →
          best.completedKey ≤ top.completedKey →
            ¬Poisoned (tasks.filter (Task.ofChat chat)) top.sessionId := by
        intro top topListed topCandidate above
        obtain ⟨rows, order, answered⟩ := getLastChatTaskSession_of_greatest topListed topCandidate
          fun other otherListed otherCandidate =>
            (greatest other otherListed otherCandidate).trans above
        exact one.chatHealthy rows order chat top.sessionRow answered
      refine ⟨best, bestListed, bestCandidate, healthy best bestListed bestCandidate le_rfl, ?_⟩
      by_contra notLater
      exact healthy task listed candidate (not_lt.mp notLater) poisoned
  · intro seen
    constructor
    · intro task listed failed
      exact ((blacklists_agree_iff failed).mpr (seen.texts task listed failed)).1
    · intro task listed failed
      exact ((blacklists_agree_iff failed).mpr (seen.texts task listed failed)).2
    · intro rows order agent issue row answered
      exact getLastTaskSession_healthy order answered
    · intro rows order chat row answered poisoned
      obtain ⟨task, listed, candidate, same, greatest⟩ := getLastChatTaskSession_spec answered
      rw [← same] at poisoned
      obtain ⟨other, otherListed, otherCandidate, _, later⟩ :=
        seen.chats chat task (order.mem_iff.mp listed) candidate poisoned
      have below := greatest other (order.mem_iff.mpr otherListed) otherCandidate
      exact absurd later (not_lt.mpr below)

def sampleNewTask : NewTask where
  agentId := 1
  runtimeId := 1
  priority := 2
  triggerCommentId := none
  coalescedCommentIds := []
  triggerSummary := none
  headSha := none
  forceFreshSession := false
  isLeaderTask := false
  squadId := none
  attribution := noAttribution
  overlay := noOverlay
  maxAttempts := 2

def completedTurn : Task :=
  { Task.forChat 7 none false sampleNewTask 1 1 with
    status := .completed, completedAt := some 10, sessionId := some "conversation" }

def poisonedTurn : Task :=
  { Task.forChat 7 none false sampleNewTask 11 2 with
    status := .failed, completedAt := some 20, sessionId := some "conversation"
    failureReason := some (.other "iteration_limit") }

/-- The chat query skips the failed row and answers with the same session of the older row. -/
theorem chat_resumes_poisoned_session : ¬OneNotion [completedTurn, poisonedTurn] := by
  intro one
  refine one.chatHealthy [completedTurn, poisonedTurn] (.refl _) 7 completedTurn.sessionRow
    (by decide +kernel) ?_
  have inChat : poisonedTurn ∈ [completedTurn, poisonedTurn].filter (Task.ofChat 7) :=
    List.mem_filter.mpr ⟨by simp, rfl⟩
  refine ⟨poisonedTurn, inChat, rfl, rfl, fun other member _ _ later => ?_⟩
  rcases List.mem_pair.mp (List.mem_of_mem_filter member) with rfl | rfl
  · exact absurd later (by decide)
  · exact ⟨rfl, rfl⟩

end MulticaOS.TaskQueue
