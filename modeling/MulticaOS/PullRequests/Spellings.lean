import MulticaOS.PullRequests.Closing

/-!
One issue under several spellings of its number.  The texts are compared identifier by identifier,
and the links are written issue by issue, so that the last spelling decides.
-/

namespace MulticaOS.PullRequests

open UpsertLib

def Identifier.value (identifier : Identifier) : Nat := Nat.ofDigitChars 10 identifier.number 0

def spells (database : Database) (workspaceID : Nat) (number : Int) (identifier : Identifier) : Bool :=
  identifier.letters.map foldChar = (database.issuePrefix workspaceID).toList.map foldChar &&
    (identifier.value : Int) = number

section Intent

variable (texts : Texts) (database : Database) (number : Int)

def names : Bool :=
  (extractIdentifiers [texts.title, texts.body, texts.branch]).any
    (spells database texts.workspaceID number)

def states : Bool :=
  (extractClosingIdentifiers [texts.title, texts.body]).any (spells database texts.workspaceID number)

def onlyMentions : Bool :=
  (extractIdentifiers [texts.title, texts.body, texts.branch]).all fun identifier =>
    !spells database texts.workspaceID number identifier ||
      identifier ∉ extractIdentifiers [texts.title, texts.branch] &&
        identifier ∉ extractClosingIdentifiers [texts.title, texts.body]

def intended (issueID : Nat) : Link :=
  ⟨issueID, texts.pullRequest, states texts database number, onlyMentions texts database number⟩

/-- The event links the issue with its intent, or does not touch its link. -/
def LinksExactly (after : Database) (issueID : Nat) : Prop :=
  after.links.lookup (issueID, texts.pullRequest) =
    if names texts database number then some (intended texts database number issueID)
    else database.links.lookup (issueID, texts.pullRequest)

def lastSpelling (issueID : Nat) : Option Identifier :=
  (mentions texts database (identifiers texts) issueID).getLast?

/-- The last spelling is declared as any is, and qualifies as any does; where it names another
number that wraps to this one, the link stood so before. -/
def SpelledAlike (issueID : Nat) : Prop :=
  ∀ last, lastSpelling texts database issueID = some last →
    if names texts database number then
      declares texts last = states texts database number ∧
        qualifies texts last = !onlyMentions texts database number
    else database.links.lookup (issueID, texts.pullRequest) = some (linkOf texts issueID last)

def Standing (issueID : Nat) : Prop :=
  names texts database number = true →
    database.links.lookup (issueID, texts.pullRequest) = some (intended texts database number issueID)

end Intent

/-- The loop over the identifiers is reached: auto-linking is on, or the event has a pull request
and is not older than its row. -/
def Event.reaches (now : Time) (database : Database) : Event → Bool
  | .github workspaceID _ _ => database.autoLinkPRsEnabled workspaceID
  | .vcs conn ev =>
      !ev.nameless && (database.pulls.lookup (ev.key conn)).all fun pull =>
        pull.columns.prUpdatedAt ≤ required now ev.updatedAt

section Spelled

variable {texts : Texts} {database : Database} {number : Int} {issueID : Nat}

theorem issueNumber_of_spells {identifier : Identifier}
    (column : -2 ^ 31 ≤ number ∧ number < 2 ^ 31)
    (spelled : spells database texts.workspaceID number identifier = true) :
    issueNumber (database.issuePrefix texts.workspaceID) identifier = some number := by
  simp only [spells, Bool.and_eq_true, decide_eq_true_eq] at spelled
  obtain ⟨letters, value⟩ := spelled
  have small : identifier.value < 2 ^ 63 := by omega
  have exact : (identifier.value : Int).bmod (2 ^ 32) = number := by
    rw [value]
    exact Int.bmod_eq_of_le (by omega) (by omega)
  simp only [Identifier.value] at small exact
  rw [issueNumber, if_pos letters]
  dsimp only
  rw [if_pos small, exact]

theorem lastSpelling_of_names (column : -2 ^ 31 ≤ number ∧ number < 2 ^ 31)
    (stored : database.numbered texts.workspaceID number = some issueID)
    (named : names texts database number = true) :
    ∃ last, lastSpelling texts database issueID = some last := by
  simp only [names, List.any_eq_true] at named
  obtain ⟨identifier, listed, spelled⟩ := named
  have found : lookupIssueByIdentifier database texts.workspaceID identifier = some issueID := by
    rw [lookupIssueByIdentifier, issueNumber_of_spells column spelled]
    exact stored
  have member := mem_mentions.mpr ⟨listed, found⟩
  cases last : lastSpelling texts database issueID with
  | none =>
      rw [lastSpelling, List.getLast?_eq_none_iff] at last
      rw [last] at member
      contradiction
  | some identifier => exact ⟨identifier, rfl⟩

theorem linkOf_eq_intended {last : Identifier} (mayChange : texts.preserveCloseIntent = false) :
    linkOf texts issueID last = intended texts database number issueID ↔
      declares texts last = states texts database number ∧
        qualifies texts last = !onlyMentions texts database number := by
  simp only [linkOf, intended, mayChange, Bool.not_false, Bool.and_true, Link.mk.injEq, true_and]
  rw [Bool.not_eq_eq_eq_not]

theorem linksExactly_of_written {after : Database} (column : -2 ^ 31 ≤ number ∧ number < 2 ^ 31)
    (stored : database.numbered texts.workspaceID number = some issueID)
    (mayChange : texts.preserveCloseIntent = false)
    (wrote : after.links.lookup (issueID, texts.pullRequest) =
      relinked false (database.links.lookup (issueID, texts.pullRequest))
        (written texts database (identifiers texts) issueID)) :
    LinksExactly texts database number after issueID ↔ SpelledAlike texts database number issueID := by
  rw [LinksExactly, SpelledAlike, wrote, relinked, written, mayChange]
  simp only [Bool.false_eq_true, if_false]
  change ((lastSpelling texts database issueID).map (linkOf texts issueID)).or _ = _ ↔ _
  cases last : lastSpelling texts database issueID with
  | none =>
      have unnamed : names texts database number = false := by
        refine Bool.eq_false_iff.mpr fun named => ?_
        obtain ⟨identifier, found⟩ := lastSpelling_of_names column stored named
        rw [last] at found
        cases found
      simp [unnamed]
  | some identifier =>
      simp only [Option.map_some, Option.some_or, Option.some.injEq, forall_eq']
      cases names texts database number with
      | true =>
          simp only [if_true, Option.some.injEq]
          exact linkOf_eq_intended mayChange
      | false =>
          simp only [Bool.false_eq_true, if_false]
          exact eq_comm

end Spelled

section Events

variable {now : Time} {database : Database} {event : Event} {issueID : Nat}

theorem remirrorVCS_newer (pull : PullRequest) (old : Option PullRequest) :
    pull.columns.prUpdatedAt < ((old.map (remirrorVCS pull)).getD pull).columns.prUpdatedAt ↔
      ¬(old.all fun row => row.columns.prUpdatedAt ≤ pull.columns.prUpdatedAt) = true := by
  cases old with
  | none => simp
  | some row =>
      simp only [Option.map_some, Option.getD_some, Option.all_some, decide_eq_true_eq, remirrorVCS]
      split
      · rename_i taken
        simp [taken]
      · rename_i kept
        exact ⟨fun _ => kept, fun _ => Nat.lt_of_not_le kept⟩

theorem mirror_lookup :
    (mirror now database event).links.lookup (issueID, event.texts.pullRequest) =
      if event.reaches now database then
        relinked event.texts.preserveCloseIntent
          (database.links.lookup (issueID, event.texts.pullRequest))
          (written event.texts database (identifiers event.texts) issueID)
      else database.links.lookup (issueID, event.texts.pullRequest) := by
  cases event with
  | github workspaceID installationID p =>
      simp only [mirror, mirrorPullRequestForWorkspace]
      by_cases enabled : database.autoLinkPRsEnabled workspaceID = true
      · rw [if_pos enabled, if_pos (show Event.reaches now database (.github _ _ p) = true from enabled)]
        exact linkAndAdvance_lookup (p.texts workspaceID) p.prState _ issueID
      · rw [if_neg enabled, if_neg (show ¬Event.reaches now database (.github _ _ p) = true from enabled)]
        rfl
  | vcs conn ev =>
      simp only [mirror, mirrorVCSPullRequest]
      by_cases nameless : ev.nameless = true
      · rw [if_pos nameless, if_neg (by simp [Event.reaches, nameless])]
      · have upserted : (upsertVCSPullRequest database (ev.row now conn)).pulls.lookup (ev.key conn) = _ :=
          upsertVCS_lookup database (ev.row now conn)
        have reached : Event.reaches now database (.vcs conn ev) =
            (database.pulls.lookup (ev.row now conn).key).all fun row =>
              row.columns.prUpdatedAt ≤ (ev.row now conn).columns.prUpdatedAt := by
          simp only [Event.reaches, nameless]
          rfl
        rw [if_neg nameless, upserted, reached]
        have newer := remirrorVCS_newer (ev.row now conn) (database.pulls.lookup (ev.row now conn).key)
        dsimp only
        by_cases fresh : ((database.pulls.lookup (ev.row now conn).key).all fun row =>
            row.columns.prUpdatedAt ≤ (ev.row now conn).columns.prUpdatedAt) = true
        · rw [if_pos fresh]
          refine Eq.trans (congrArg (fun mirrored : Database => mirrored.links.lookup _)
            (if_neg fun late => newer.mp late fresh)) ?_
          exact linkAndAdvance_lookup (ev.texts conn) ev.state _ issueID
        · rw [if_neg fresh]
          exact (congrArg (fun mirrored : Database => mirrored.links.lookup _)
            (if_pos (newer.mpr fresh))).trans rfl

/-- For each issue and each event that may set intent: the links say what the texts say exactly
where the spellings of its number agree. -/
theorem mirror_linksExactly (now : Time) (database : Database) (event : Event) (number : Int)
    (issueID : Nat) (column : -2 ^ 31 ≤ number ∧ number < 2 ^ 31)
    (stored : database.numbered event.texts.workspaceID number = some issueID)
    (mayChange : event.texts.preserveCloseIntent = false) :
    LinksExactly event.texts database number (mirror now database event) issueID ↔
      if event.reaches now database then SpelledAlike event.texts database number issueID
      else Standing event.texts database number issueID := by
  have after := @mirror_lookup now database event issueID
  rw [mayChange] at after
  split
  · rename_i reached
    rw [if_pos reached] at after
    exact linksExactly_of_written column stored mayChange after
  · rename_i ignored
    rw [if_neg ignored] at after
    rw [LinksExactly, Standing, after]
    cases names event.texts database number with
    | true => simp
    | false => simp

end Events

theorem mirror_linksExactly_padded :
    LinksExactly (delivery "opened" "Fixes MUL-01" "open" false 1).texts tracker 1
      (mirror 9 tracker (delivery "opened" "Fixes MUL-01" "open" false 1)) 1 := by
  refine (mirror_linksExactly 9 tracker _ 1 1 (by decide) (by decide) (by decide)).mpr ?_
  rw [if_pos (by decide)]
  intro last found
  have spelled : lastSpelling (delivery "opened" "Fixes MUL-01" "open" false 1).texts tracker 1 =
      some ⟨"MUL".toList, "01".toList⟩ := by decide +kernel
  rw [spelled] at found
  cases found
  rw [if_pos (by decide +kernel)]
  decide +kernel

/-- The intent is lost to another spelling, and a number that wraps around links an issue. -/
theorem padded_and_wrapped_links :
    ¬LinksExactly (delivery "opened" "Fixes MUL-01, see MUL-1" "open" false 1).texts tracker 1
        (mirror 9 tracker (delivery "opened" "Fixes MUL-01, see MUL-1" "open" false 1)) 1 ∧
      ¬LinksExactly (delivery "opened" "MUL-4294967297" "open" false 1).texts tracker 1
        (mirror 9 tracker (delivery "opened" "MUL-4294967297" "open" false 1)) 1 := by
  simp only [LinksExactly]
  decide +kernel

end MulticaOS.PullRequests
