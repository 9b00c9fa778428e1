import MulticaOS.Lib.Upserts
import MulticaOS.PullRequests.Identifiers

/-!
The mirror of pull requests, translated from `github.go`, `vcs_webhook.go` and their queries.
The rows of both providers are in one table, under the key of their own; a timestamp of an
event is what `time.Parse` makes of it.
-/

namespace MulticaOS.PullRequests

open UpsertLib

abbrev Time := Nat

inductive State where
  | opened
  | draft
  | closed
  | merged
  deriving DecidableEq

inductive Status where
  | backlog
  | todo
  | inProgress
  | inReview
  | blocked
  | done
  | cancelled
  deriving DecidableEq

inductive Key where
  | github (workspaceID : Nat) (repoOwner repoName : String) (prNumber : Int)
  | vcs (connectionID : Nat) (repoOwner repoName : String) (prNumber : Int)
  deriving DecidableEq

structure Columns where
  title : String
  state : State
  htmlURL : String
  branch : Option String
  authorLogin : Option String
  authorAvatarURL : Option String
  mergedAt : Option Time
  closedAt : Option Time
  prUpdatedAt : Time
  headSHA : String
  additions : Int
  deletions : Int
  changedFiles : Int
  deriving DecidableEq

/-- A row of `github_pull_request` or of `vcs_pull_request`: the columns that only the other one
has are `none`. -/
structure PullRequest where
  key : Key
  columns : Columns
  prCreatedAt : Time
  installationID : Option Int
  mergeableState : Option String
  workspaceID : Nat
  provider : Option String
  deriving DecidableEq

structure Link where
  issueID : Nat
  pullRequest : Key
  closeIntent : Bool
  referenceOnly : Bool
  deriving DecidableEq

def Link.key (link : Link) : Nat × Key := (link.issueID, link.pullRequest)

/-- The issues by their number in a workspace, their statuses, and what the webhooks write. -/
structure Database where
  issuePrefix : Nat → String
  autoLinkPRsEnabled : Nat → Bool
  numbered : Nat → Int → Option Nat
  status : Nat → Status
  pulls : Table PullRequest Key PullRequest.key
  links : Table Link (Nat × Key) Link.key

def strPtrOrNil (text : String) : Option String := if text = "" then none else some text

def required (now : Time) (parsed : Option Time) : Time := parsed.getD now

def lookupIssueByIdentifier (database : Database) (workspaceID : Nat) (identifier : Identifier) :
    Option Nat :=
  (issueNumber (database.issuePrefix workspaceID) identifier).bind (database.numbered workspaceID)

def relink (link : Link) (preserveCloseIntent : Bool) (old : Link) : Link :=
  if preserveCloseIntent then old
  else { old with closeIntent := link.closeIntent, referenceOnly := link.referenceOnly }

theorem relink_key (link : Link) (preserveCloseIntent : Bool) (old : Link) (same : old.key = link.key) :
    (relink link preserveCloseIntent old).key = link.key := by
  cases preserveCloseIntent
  · exact same
  · exact same

def linkIssue (database : Database) (link : Link) (preserveCloseIntent : Bool) : Database :=
  { database with
    links := database.links.upsert link (relink link preserveCloseIntent)
      (relink_key link preserveCloseIntent) }

structure Texts where
  workspaceID : Nat
  pullRequest : Key
  title : String
  body : String
  branch : String
  preserveCloseIntent : Bool

def identifiers (texts : Texts) : List Identifier :=
  extractIdentifiers [texts.title, texts.body, texts.branch]

def declares (texts : Texts) (identifier : Identifier) : Bool :=
  identifier ∈ extractClosingIdentifiers [texts.title, texts.body]

def qualifies (texts : Texts) (identifier : Identifier) : Bool :=
  identifier ∈ extractIdentifiers [texts.title, texts.branch] || declares texts identifier

def linkOf (texts : Texts) (issueID : Nat) (identifier : Identifier) : Link :=
  ⟨issueID, texts.pullRequest, declares texts identifier && !texts.preserveCloseIntent,
    !qualifies texts identifier⟩

/-- The loop over the identifiers: the links are written, and the issues listed with the status
they are read with. -/
def linkIssues (texts : Texts) (database : Database) :
    List Identifier → Database × List (Nat × Status)
  | [] => (database, [])
  | identifier :: rest =>
      match lookupIssueByIdentifier database texts.workspaceID identifier with
      | none => linkIssues texts database rest
      | some issueID =>
          let linked := linkIssues texts
            (linkIssue database (linkOf texts issueID identifier) texts.preserveCloseIntent) rest
          (linked.1, (issueID, database.status issueID) :: linked.2)

/-- `GetIssueCombinedPullRequestCloseAggregate`: how many linked pull requests are in flight, and
how many are merged with close intent. -/
def closeAggregate (database : Database) (issueID : Nat) : Nat × Nat :=
  let combined := database.links.rows.flatMap fun link =>
    if link.issueID = issueID && !link.referenceOnly then
      ((database.pulls.lookup link.pullRequest).map fun pull =>
        (pull.columns.state, link.closeIntent)).toList
    else []
  (combined.countP fun row => row.1 = .opened || row.1 = .draft,
    combined.countP fun row => row.1 = .merged && row.2)

def advanceIssueToDone (database : Database) (issueID : Nat) : Database :=
  { database with status := Function.update database.status issueID .done }

def reevaluate (database : Database) : List (Nat × Status) → Database
  | [] => database
  | (issueID, status) :: rest =>
      if status = .done || status = .cancelled then reevaluate database rest
      else
        let counts := closeAggregate database issueID
        if counts.1 = 0 ∧ 0 < counts.2 then reevaluate (advanceIssueToDone database issueID) rest
        else reevaluate database rest

def linkAndAdvance (texts : Texts) (state : State) (database : Database) : Database :=
  let linked := linkIssues texts database (identifiers texts)
  if state = .merged || state = .closed then reevaluate linked.1 linked.2 else linked.1

structure GhPullRequestPayload where
  action : String
  repoOwner : String
  repoName : String
  number : Int
  title : String
  body : String
  state : String
  draft : Bool
  merged : Bool
  htmlURL : String
  headRef : String
  headSHA : String
  userLogin : String
  userAvatarURL : String
  mergedAt : Option Time
  closedAt : Option Time
  createdAt : Option Time
  updatedAt : Option Time
  mergeableState : String
  additions : Int
  deletions : Int
  changedFiles : Int
  baseRefFrom : Option String
  deriving DecidableEq

def derivePRState (state : String) (draft merged : Bool) : State :=
  if merged then .merged else if state = "closed" then .closed else if draft then .draft else .opened

def baseRefChanged (change : Option String) : Bool := change.any (· ≠ "")

def derivePRMergeableState (action payload : String) (baseRefChanged : Bool) : Option String × Bool :=
  if action = "opened" ∨ action = "synchronize" ∨ action = "reopened" then (none, true)
  else if action = "edited" ∧ baseRefChanged then (none, true)
  else if payload = "" then (none, false)
  else (some payload, false)

def remirrorGitHub (pull : PullRequest) (clearMergeableState : Bool) (old : PullRequest) : PullRequest :=
  { old with
    installationID := pull.installationID
    columns := pull.columns
    mergeableState :=
      if clearMergeableState then none else pull.mergeableState.or old.mergeableState }

theorem remirrorGitHub_key (pull : PullRequest) (clearMergeableState : Bool) (old : PullRequest)
    (same : old.key = pull.key) : (remirrorGitHub pull clearMergeableState old).key = pull.key := same

def upsertGitHubPullRequest (database : Database) (pull : PullRequest) (clearMergeableState : Bool) :
    Database :=
  { database with
    pulls := database.pulls.upsert pull (remirrorGitHub pull clearMergeableState)
      (remirrorGitHub_key pull clearMergeableState) }

def GhPullRequestPayload.prState (p : GhPullRequestPayload) : State :=
  derivePRState p.state p.draft p.merged

def GhPullRequestPayload.columns (p : GhPullRequestPayload) (now : Time) : Columns :=
  ⟨p.title, p.prState, p.htmlURL, strPtrOrNil p.headRef, strPtrOrNil p.userLogin,
    strPtrOrNil p.userAvatarURL, p.mergedAt, p.closedAt, required now p.updatedAt, p.headSHA,
    p.additions, p.deletions, p.changedFiles⟩

def GhPullRequestPayload.key (p : GhPullRequestPayload) (workspaceID : Nat) : Key :=
  .github workspaceID p.repoOwner p.repoName p.number

def GhPullRequestPayload.preserveCloseIntent (p : GhPullRequestPayload) : Bool :=
  p.action ≠ "closed" && (p.prState = .merged || p.prState = .closed)

def GhPullRequestPayload.texts (p : GhPullRequestPayload) (workspaceID : Nat) : Texts :=
  ⟨workspaceID, p.key workspaceID, p.title, p.body, p.headRef, p.preserveCloseIntent⟩

def GhPullRequestPayload.mergeable (p : GhPullRequestPayload) : Option String × Bool :=
  derivePRMergeableState p.action p.mergeableState (baseRefChanged p.baseRefFrom)

def GhPullRequestPayload.row (p : GhPullRequestPayload) (now : Time) (workspaceID : Nat)
    (installationID : Int) : PullRequest :=
  ⟨p.key workspaceID, p.columns now, required now p.createdAt, some installationID, p.mergeable.1,
    workspaceID, none⟩

def mirrorPullRequestForWorkspace (now : Time) (database : Database) (workspaceID : Nat)
    (installationID : Int) (p : GhPullRequestPayload) : Database :=
  let mirrored := upsertGitHubPullRequest database (p.row now workspaceID installationID) p.mergeable.2
  if database.autoLinkPRsEnabled workspaceID then
    linkAndAdvance (p.texts workspaceID) p.prState mirrored
  else mirrored

structure VcsConnection where
  id : Nat
  workspaceID : Nat
  provider : String
  deriving DecidableEq

structure PullRequestEvent where
  action : String
  repoOwner : String
  repoName : String
  number : Int
  title : String
  body : String
  state : State
  htmlURL : String
  branch : String
  headSHA : String
  authorLogin : String
  authorAvatarURL : String
  additions : Int
  deletions : Int
  changedFiles : Int
  mergedAt : Option Time
  closedAt : Option Time
  createdAt : Option Time
  updatedAt : Option Time
  deriving DecidableEq

def PullRequestEvent.terminal (ev : PullRequestEvent) : Bool :=
  ev.action ∈ ["closed", "merged", "merge", "close"]

/-- The `DO UPDATE` of `UpsertVCSPullRequest`: an event that is older than the row keeps it. -/
def remirrorVCS (pull old : PullRequest) : PullRequest :=
  if old.columns.prUpdatedAt ≤ pull.columns.prUpdatedAt then
    { old with
      workspaceID := pull.workspaceID
      provider := pull.provider
      columns := pull.columns }
  else old

theorem remirrorVCS_key (pull old : PullRequest) (same : old.key = pull.key) :
    (remirrorVCS pull old).key = pull.key := by
  rw [remirrorVCS]
  split
  · exact same
  · exact same

def upsertVCSPullRequest (database : Database) (pull : PullRequest) : Database :=
  { database with pulls := database.pulls.upsert pull (remirrorVCS pull) (remirrorVCS_key pull) }

def PullRequestEvent.columns (ev : PullRequestEvent) (now : Time) : Columns :=
  ⟨ev.title, ev.state, ev.htmlURL, strPtrOrNil ev.branch, strPtrOrNil ev.authorLogin,
    strPtrOrNil ev.authorAvatarURL, ev.mergedAt, ev.closedAt, required now ev.updatedAt, ev.headSHA,
    ev.additions, ev.deletions, ev.changedFiles⟩

def PullRequestEvent.key (ev : PullRequestEvent) (conn : VcsConnection) : Key :=
  .vcs conn.id ev.repoOwner ev.repoName ev.number

def PullRequestEvent.preserveCloseIntent (ev : PullRequestEvent) : Bool :=
  !ev.terminal && (ev.state = .merged || ev.state = .closed)

def PullRequestEvent.texts (ev : PullRequestEvent) (conn : VcsConnection) : Texts :=
  ⟨conn.workspaceID, ev.key conn, ev.title, ev.body, ev.branch, ev.preserveCloseIntent⟩

def PullRequestEvent.row (ev : PullRequestEvent) (now : Time) (conn : VcsConnection) : PullRequest :=
  ⟨ev.key conn, ev.columns now, required now ev.createdAt, none, none, conn.workspaceID,
    some conn.provider⟩

def PullRequestEvent.nameless (ev : PullRequestEvent) : Bool :=
  ev.repoOwner = "" || ev.repoName = "" || ev.number = 0

def mirrorVCSPullRequest (now : Time) (database : Database) (conn : VcsConnection)
    (ev : PullRequestEvent) : Database :=
  if ev.nameless then database
  else
    let mirrored := upsertVCSPullRequest database (ev.row now conn)
    match mirrored.pulls.lookup (ev.key conn) with
    | none => mirrored
    | some pr =>
        if required now ev.updatedAt < pr.columns.prUpdatedAt then mirrored
        else linkAndAdvance (ev.texts conn) ev.state mirrored

end MulticaOS.PullRequests
