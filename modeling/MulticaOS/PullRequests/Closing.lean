import MulticaOS.Lib.Runs
import MulticaOS.PullRequests.Linking

/-!
When merged work closes its issue.  The gate is asked for the issues that the texts of the
event name, with every link of the event already written.
-/

namespace MulticaOS.PullRequests

open UpsertLib
open RunLib

inductive Event where
  | github (workspaceID : Nat) (installationID : Int) (p : GhPullRequestPayload)
  | vcs (conn : VcsConnection) (ev : PullRequestEvent)
  deriving DecidableEq

def Event.texts : Event → Texts
  | .github workspaceID _ p => p.texts workspaceID
  | .vcs conn ev => ev.texts conn

def Event.state : Event → State
  | .github _ _ p => p.prState
  | .vcs _ ev => ev.state

def Event.key : Event → Key
  | .github workspaceID _ p => p.key workspaceID
  | .vcs conn ev => ev.key conn

def Event.updatedAt : Event → Option Time
  | .github _ _ p => p.updatedAt
  | .vcs _ ev => ev.updatedAt

def mirror (now : Time) (database : Database) : Event → Database
  | .github workspaceID installationID p =>
      mirrorPullRequestForWorkspace now database workspaceID installationID p
  | .vcs conn ev => mirrorVCSPullRequest now database conn ev

section Mirror

variable {now : Time} {database : Database} {event : Event}

/-- The event belongs to a pull request, no newer one of it has been mirrored, and auto-linking is
on in its workspace. -/
def InOrder (now : Time) (database : Database) (event : Event) : Prop :=
  (∀ pull ∈ database.pulls.lookup event.key,
    pull.columns.prUpdatedAt ≤ required now event.updatedAt) ∧
  match event with
  | .github workspaceID _ _ => database.autoLinkPRsEnabled workspaceID = true
  | .vcs _ ev => ev.nameless = false

structure Mirrored (database mirrored : Database) (key : Key) : Prop where
  links : mirrored.links = database.links
  status : mirrored.status = database.status
  numbered : mirrored.numbered = database.numbered
  issuePrefix : mirrored.issuePrefix = database.issuePrefix
  others : ∀ other, other ≠ key → mirrored.pulls.lookup other = database.pulls.lookup other

theorem Mirrored.named {mirrored : Database} {key : Key} (same : Mirrored database mirrored key)
    (texts : Texts) (issueID : Nat) : Named mirrored texts issueID ↔ Named database texts issueID := by
  simp only [Named, lookupIssueByIdentifier, same.numbered, same.issuePrefix]

theorem upsertGitHub_mirrored (database : Database) (pull : PullRequest) (clear : Bool) :
    Mirrored database (upsertGitHubPullRequest database pull clear) pull.key :=
  ⟨rfl, rfl, rfl, rfl, fun _ apart => Table.lookup_upsert_ne (remirrorGitHub_key pull clear) apart⟩

theorem upsertVCS_mirrored (database : Database) (pull : PullRequest) :
    Mirrored database (upsertVCSPullRequest database pull) pull.key :=
  ⟨rfl, rfl, rfl, rfl, fun _ apart => Table.lookup_upsert_ne (remirrorVCS_key pull) apart⟩

theorem upsertVCS_lookup (database : Database) (pull : PullRequest) :
    (upsertVCSPullRequest database pull).pulls.lookup pull.key =
      some (((database.pulls.lookup pull.key).map (remirrorVCS pull)).getD pull) :=
  Table.lookup_upsert_self (remirrorVCS_key pull)

theorem upsertVCS_columns {database : Database} {pull : PullRequest}
    (order : ∀ old, database.pulls.lookup pull.key = some old →
      old.columns.prUpdatedAt ≤ pull.columns.prUpdatedAt) :
    ∃ row, (upsertVCSPullRequest database pull).pulls.lookup pull.key = some row ∧
      row.columns = pull.columns := by
  refine ⟨_, upsertVCS_lookup database pull, ?_⟩
  cases found : database.pulls.lookup pull.key with
  | none => rfl
  | some old =>
      rw [Option.map_some, Option.getD_some, remirrorVCS, if_pos (order old found)]

theorem mirror_inOrder (inOrder : InOrder now database event) :
    ∃ mirrored, Mirrored database mirrored event.key ∧
      mirror now database event = linkAndAdvance event.texts event.state mirrored := by
  obtain ⟨order, belongs⟩ := inOrder
  cases event with
  | github workspaceID installationID p =>
      exact ⟨_, upsertGitHub_mirrored database (p.row now workspaceID installationID) p.mergeable.2,
        if_pos belongs⟩
  | vcs conn ev =>
      refine ⟨_, upsertVCS_mirrored database (ev.row now conn), ?_⟩
      have belongs : ev.nameless = false := belongs
      have taken : ∃ row, (upsertVCSPullRequest database (ev.row now conn)).pulls.lookup (ev.key conn) =
          some row ∧ row.columns = ev.columns now := upsertVCS_columns order
      obtain ⟨row, found, columns⟩ := taken
      have fresh : ¬required now ev.updatedAt < row.columns.prUpdatedAt := by
        rw [columns]
        exact Nat.lt_irrefl _
      simp only [mirror, mirrorVCSPullRequest, belongs, Bool.false_eq_true, if_false, found, if_neg fresh]
      rfl

structure Closes (database : Database) (event : Event) (next : Database) : Prop where
  closes : event.state.terminal = true → ∀ issueID, Named database event.texts issueID →
    (database.status issueID).live = true → Resolved next issueID → next.status issueID = .done
  only : ∀ issueID, next.status issueID ≠ database.status issueID →
    next.status issueID = .done ∧ event.state.terminal = true ∧ Named database event.texts issueID ∧
      (database.status issueID).live = true ∧ Resolved next issueID
  linked : ∀ issueID, Named database event.texts issueID →
    ∃ link, next.links.lookup (issueID, event.key) = some link

theorem mirror_closes (inOrder : InOrder now database event) :
    Closes database event (mirror now database event) := by
  obtain ⟨mirrored, same, result⟩ := mirror_inOrder inOrder
  rw [result]
  constructor
  · intro terminal issueID named live resolved
    rcases linkAndAdvance_status event.state mirrored issueID with done | ⟨-, refused⟩
    · exact done.1
    · rw [same.named, same.status] at refused
      exact absurd ⟨terminal, named, live, resolved⟩ refused
  · intro issueID changed
    rcases linkAndAdvance_status event.state mirrored issueID with done | ⟨kept, -⟩
    · rw [same.named, same.status] at done
      exact done
    · rw [kept, same.status] at changed
      contradiction
  · intro issueID named
    have wrote := written_isSome.mpr ((same.named event.texts issueID).mpr named)
    obtain ⟨link, wrote⟩ := Option.isSome_iff_exists.mp wrote
    have found := linkAndAdvance_lookup event.texts event.state mirrored issueID
    have key : event.texts.pullRequest = event.key := by cases event <;> rfl
    rw [key, wrote, relinked] at found
    rw [found]
    split
    · exact ⟨_, Option.or_some⟩
    · exact ⟨link, rfl⟩

end Mirror

inductive Action where
  | deliver (now : Time) (event : Event)
  | edit (numbered : Nat → Int → Option Nat) (status : Nat → Status) (kept : Link → Bool)
  | configure (issuePrefix : Nat → String) (autoLinkPRsEnabled : Nat → Bool)

def step (database : Database) : Action → Database
  | .deliver now event => mirror now database event
  | .edit numbered status kept =>
      { database with numbered := numbered, status := status, links := database.links.delete kept }
  | .configure issuePrefix autoLinkPRsEnabled =>
      { database with issuePrefix := issuePrefix, autoLinkPRsEnabled := autoLinkPRsEnabled }

def Ordered (database : Database) : Action → Prop
  | .deliver now event => InOrder now database event
  | _ => True

def Closing (database : Database) : Action → Prop
  | .deliver now event => Closes database event (mirror now database event)
  | _ => True

instance (now : Time) (database : Database) (event : Event) : Decidable (InOrder now database event) := by
  unfold InOrder
  cases event
  · infer_instance
  · infer_instance

instance (database : Database) : DecidablePred (Ordered database) := fun action => by
  cases action
  · exact inferInstanceAs (Decidable (InOrder _ _ _))
  · exact inferInstanceAs (Decidable True)
  · exact inferInstanceAs (Decidable True)

/-- Merged work closes the issues that the event names, and webhooks close no others. -/
theorem merged_work_closes (database : Database) (actions : List Action)
    (ordered : Every step Ordered database actions) : Every step Closing database actions := by
  refine ordered.mono fun database action inOrder => ?_
  cases action with
  | deliver now event => exact mirror_closes inOrder
  | edit numbered status kept => trivial
  | configure issuePrefix autoLinkPRsEnabled => trivial

def tracker : Database :=
  ⟨fun _ => "MUL", fun _ => true, fun _ number => if number = 1 then some 1 else none, fun _ => .todo,
    .empty, .empty⟩

def delivery (action title state : String) (merged : Bool) (updatedAt : Time) : Event :=
  .github 1 7 ⟨action, "octo", "repo", 42, title, "", state, false, merged, "", "work", "head", "dev", "",
    none, none, some 1, some updatedAt, "", 0, 0, 0, none⟩

theorem merged_work_closes_tracker :
    Every step Closing tracker [.deliver 9 (delivery "opened" "Closes MUL-1" "open" false 1),
      .deliver 9 (delivery "closed" "Closes MUL-1" "closed" true 2)] :=
  merged_work_closes tracker _ (by decide +kernel)

def LinkedCloses (database : Database) : Action → Prop
  | .deliver now event =>
      event.state.terminal = true → ∀ issueID link pull,
        Linked (mirror now database event) issueID link pull → link.pullRequest = event.key →
        (database.status issueID).live = true → Resolved (mirror now database event) issueID →
        (mirror now database event).status issueID = .done
  | _ => True

def renamedBeforeMerge : List Action :=
  [.deliver 9 (delivery "opened" "Closes MUL-1" "open" false 1),
    .deliver 9 (delivery "edited" "Tidy up" "open" false 2),
    .deliver 9 (delivery "closed" "Tidy up" "closed" true 3)]

def mergedPull : PullRequest :=
  ⟨.github 1 "octo" "repo" 42, ⟨"Tidy up", .merged, "", some "work", some "dev", none, none, none, 3,
    "head", 0, 0, 0⟩, 1, some 7, none, 1, none⟩

theorem linked_issue_stays_open : ¬Every step LinkedCloses tracker renamedBeforeMerge := by
  rintro ⟨-, -, closes, -⟩
  have linked : Linked (run step tracker renamedBeforeMerge) 1 ⟨1, mergedPull.key, true, false⟩ mergedPull :=
    ⟨by decide +kernel, rfl, rfl, by decide +kernel⟩
  have resolved : Resolved (run step tracker renamedBeforeMerge) 1 := opens_iff.mp (by decide +kernel)
  have stays : (run step tracker renamedBeforeMerge).status 1 = .todo := by decide +kernel
  have done := closes (by decide) 1 _ _ linked rfl (by decide +kernel) resolved
  rw [show (run step tracker renamedBeforeMerge).status 1 = .done from done] at stays
  contradiction

end MulticaOS.PullRequests
