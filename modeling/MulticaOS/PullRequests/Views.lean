import MulticaOS.PullRequests.Closing

/-!
One pull request and one issue.  An event acts on the row of the pull request, on its link to the
issue and on the status of the issue as if nothing else were stored; of the other pull
requests it matters only whether they have landed and whether a merged one closes the issue.
-/

namespace MulticaOS.PullRequests

open UpsertLib

def without (database : Database) (key : Key) : Database :=
  { database with links := database.links.delete fun link => link.pullRequest ≠ key }

def othersLanded (database : Database) (key : Key) (issueID : Nat) : Bool :=
  (closeAggregate (without database key) issueID).1 = 0

def othersMerged (database : Database) (key : Key) (issueID : Nat) : Bool :=
  0 < (closeAggregate (without database key) issueID).2

def closing (link : Option Link) : Bool := link.any fun link => link.closeIntent && !link.referenceOnly

def takeOver (pull old : PullRequest) : PullRequest :=
  { old with
    workspaceID := pull.workspaceID
    provider := pull.provider
    columns := pull.columns }

namespace Event

def createdAt : Event → Option Time
  | .github _ _ p => p.createdAt
  | .vcs _ ev => ev.createdAt

def time (event : Event) : Time := required 0 event.updatedAt

def stamped (event : Event) : Bool := event.updatedAt.isSome && event.createdAt.isSome

def row : Event → PullRequest
  | .github workspaceID installationID p => p.row 0 workspaceID installationID
  | .vcs conn ev => ev.row 0 conn

def merge (event : Event) (old : Option PullRequest) : PullRequest :=
  match event with
  | .github _ _ p => (old.map (remirrorGitHub event.row p.mergeable.2)).getD event.row
  | .vcs _ _ => (old.map (takeOver event.row)).getD event.row

def links (database : Database) : Event → Bool
  | .github workspaceID _ _ => database.autoLinkPRsEnabled workspaceID
  | .vcs _ _ => true

def writes (database : Database) (issueID : Nat) (event : Event) : Option Link :=
  if event.links database then written event.texts database (identifiers event.texts) issueID else none

end Event

def Event.ignored (row : Option PullRequest) : Event → Bool
  | .github _ _ _ => false
  | .vcs conn ev =>
      ev.nameless || row.any fun pull => (Event.vcs conn ev).time < pull.columns.prUpdatedAt

structure View where
  row : Option PullRequest
  link : Option Link
  status : Status
  deriving DecidableEq

def viewOf (key : Key) (issueID : Nat) (database : Database) : View :=
  ⟨database.pulls.lookup key, database.links.lookup (issueID, key), database.status issueID⟩

def gate (database : Database) (issueID : Nat) (event : Event) (link : Option Link) : Bool :=
  event.state.terminal && (event.writes database issueID).isSome &&
    othersLanded database event.key issueID &&
    (othersMerged database event.key issueID || (event.state = .merged && closing link))

def View.advance (database : Database) (issueID : Nat) (view : View) (event : Event) : View :=
  let link := relinked event.texts.preserveCloseIntent view.link (event.writes database issueID)
  ⟨some (event.merge view.row), link,
    if view.status.live && gate database issueID event link then .done else view.status⟩

section Others

variable {start database next : Database} {key : Key} {issueID : Nat}

structure Beside (start database : Database) (key : Key) : Prop where
  numbered : database.numbered = start.numbered
  issuePrefix : database.issuePrefix = start.issuePrefix
  autoLink : database.autoLinkPRsEnabled = start.autoLinkPRsEnabled
  pulls : ∀ other, other ≠ key → database.pulls.lookup other = start.pulls.lookup other
  links : ∀ other, other ≠ key → ∀ issueID,
    database.links.lookup (issueID, other) = start.links.lookup (issueID, other)

theorem Beside.refl (start : Database) (key : Key) : Beside start start key :=
  ⟨rfl, rfl, rfl, fun _ _ => rfl, fun _ _ _ => rfl⟩

theorem Beside.named (beside : Beside start database key) (texts : Texts) :
    Named database texts issueID ↔ Named start texts issueID := by
  simp only [Named, lookupIssueByIdentifier, beside.numbered, beside.issuePrefix]

theorem Beside.written (beside : Beside start database key) (texts : Texts) (idents : List Identifier) :
    written texts database idents issueID = written texts start idents issueID := by
  have same : mentions texts database idents issueID = mentions texts start idents issueID := by
    refine List.filter_congr fun identifier _ => ?_
    rw [lookupIssueByIdentifier, lookupIssueByIdentifier, beside.numbered, beside.issuePrefix]
  rw [PullRequests.written, PullRequests.written, same]

theorem Beside.linked (beside : Beside start database key) {link : Link} {pull : PullRequest}
    (apart : link.pullRequest ≠ key) :
    Linked database issueID link pull ↔ Linked start issueID link pull := by
  rw [Linked, Linked, Table.mem_rows, Table.mem_rows, Link.key, beside.links _ apart, beside.pulls _ apart]

theorem linked_without {link : Link} {pull : PullRequest} :
    Linked (without database key) issueID link pull ↔
      Linked database issueID link pull ∧ link.pullRequest ≠ key := by
  have stored : link ∈ (without database key).links.rows ↔
      link ∈ database.links.rows ∧ link.pullRequest ≠ key := by
    show link ∈ database.links.rows.filter _ ↔ _
    rw [List.mem_filter, decide_eq_true_eq]
  rw [Linked, stored, Linked]
  constructor
  · rintro ⟨⟨member, apart⟩, rest⟩
    exact ⟨⟨member, rest⟩, apart⟩
  · rintro ⟨⟨member, rest⟩, apart⟩
    exact ⟨⟨member, apart⟩, rest⟩

theorem othersLanded_iff : othersLanded database key issueID = true ↔
    ∀ link pull, Linked database issueID link pull → link.pullRequest ≠ key →
      pull.columns.state ≠ .opened ∧ pull.columns.state ≠ .draft := by
  rw [othersLanded, decide_eq_true_eq, inFlight_none]
  constructor
  · intro landed link pull linked apart
    exact landed link pull (linked_without.mpr ⟨linked, apart⟩)
  · intro landed link pull linked
    obtain ⟨linked, apart⟩ := linked_without.mp linked
    exact landed link pull linked apart

theorem othersMerged_iff : othersMerged database key issueID = true ↔
    ∃ link pull, Linked database issueID link pull ∧ link.pullRequest ≠ key ∧
      pull.columns.state = .merged ∧ link.closeIntent = true := by
  rw [othersMerged, decide_eq_true_eq, mergedWithIntent_pos]
  constructor
  · rintro ⟨link, pull, linked, merged⟩
    obtain ⟨linked, apart⟩ := linked_without.mp linked
    exact ⟨link, pull, linked, apart, merged⟩
  · rintro ⟨link, pull, linked, apart, merged⟩
    exact ⟨link, pull, linked_without.mpr ⟨linked, apart⟩, merged⟩

theorem resolved_beside (beside : Beside start next key) {row : PullRequest}
    (found : next.pulls.lookup key = some row) (terminal : row.columns.state.terminal = true) :
    Resolved next issueID ↔ othersLanded start key issueID = true ∧
      (othersMerged start key issueID = true ∨
        row.columns.state = .merged ∧ closing (next.links.lookup (issueID, key)) = true) := by
  constructor
  · rintro ⟨landed, link, pull, linked, merged, intent⟩
    constructor
    · refine othersLanded_iff.mpr fun other pull linked apart => ?_
      exact landed other pull ((beside.linked apart).mpr linked)
    · by_cases own : link.pullRequest = key
      · obtain ⟨stored, same, counted, pulled⟩ := linked
        rw [Table.mem_rows, Link.key, same, own] at stored
        rw [own, found] at pulled
        cases pulled
        refine Or.inr ⟨merged, ?_⟩
        rw [stored, closing, Option.any_some, intent, counted]
        rfl
      · exact Or.inl (othersMerged_iff.mpr ⟨link, pull, (beside.linked own).mp linked, own, merged, intent⟩)
  · rintro ⟨landed, source⟩
    constructor
    · intro link pull linked
      by_cases own : link.pullRequest = key
      · have pulled := linked.2.2.2
        rw [own, found] at pulled
        cases pulled
        simp only [State.terminal, Bool.or_eq_true, decide_eq_true_eq] at terminal
        rcases terminal with merged | closed
        · simp [merged]
        · simp [closed]
      · exact othersLanded_iff.mp landed link pull ((beside.linked own).mp linked) own
    · rcases source with others | ⟨merged, intent⟩
      · obtain ⟨link, pull, linked, apart, merged⟩ := othersMerged_iff.mp others
        exact ⟨link, pull, (beside.linked apart).mpr linked, merged⟩
      · rw [closing, Option.any_eq_true] at intent
        obtain ⟨link, stored, intent⟩ := intent
        simp only [Bool.and_eq_true, Bool.not_eq_true'] at intent
        have own : link.key = (issueID, key) := Table.lookup_key stored
        obtain ⟨same, pullRequest⟩ := Prod.mk.inj own
        exact ⟨link, row, ⟨Table.mem_of_lookup stored, same, intent.2, by rw [pullRequest, found]⟩, merged,
          intent.1⟩

end Others

section Advance

variable {now : Time} {start database : Database} {event : Event} {issueID : Nat}

theorem reevaluate_settings (database : Database) (listed : List (Nat × Status)) :
    (reevaluate database listed).numbered = database.numbered ∧
      (reevaluate database listed).issuePrefix = database.issuePrefix ∧
      (reevaluate database listed).autoLinkPRsEnabled = database.autoLinkPRsEnabled := by
  induction listed generalizing database with
  | nil => exact ⟨rfl, rfl, rfl⟩
  | cons entry rest ih =>
      rw [reevaluate_cons]
      split
      · exact ih (advanceIssueToDone database entry.1)
      · exact ih database

theorem linkIssues_autoLink (texts : Texts) (database : Database) (idents : List Identifier) :
    (linkIssues texts database idents).1.autoLinkPRsEnabled = database.autoLinkPRsEnabled := by
  induction idents generalizing database with
  | nil => rfl
  | cons identifier rest ih =>
      rw [linkIssues]
      split
      · exact ih database
      · exact ih _

theorem linkAndAdvance_beside {texts : Texts} (state : State) {mirrored : Database}
    (beside : Beside start mirrored texts.pullRequest) :
    Beside start (linkAndAdvance texts state mirrored) texts.pullRequest := by
  have unlinked := linkIssues_unlinked texts mirrored (identifiers texts)
  have autoLink := linkIssues_autoLink texts mirrored (identifiers texts)
  have settings : (linkAndAdvance texts state mirrored).numbered = mirrored.numbered ∧
      (linkAndAdvance texts state mirrored).issuePrefix = mirrored.issuePrefix ∧
      (linkAndAdvance texts state mirrored).autoLinkPRsEnabled = mirrored.autoLinkPRsEnabled := by
    rw [linkAndAdvance]
    split
    · obtain ⟨numbered, issuePrefix, enabled⟩ := reevaluate_settings
        (linkIssues texts mirrored (identifiers texts)).1 (linkIssues texts mirrored (identifiers texts)).2
      exact ⟨numbered.trans unlinked.numbered, issuePrefix.trans unlinked.issuePrefix,
        enabled.trans autoLink⟩
    · exact ⟨unlinked.numbered, unlinked.issuePrefix, autoLink⟩
  obtain ⟨numbered, issuePrefix, enabled⟩ := settings
  constructor
  · exact numbered.trans beside.numbered
  · exact issuePrefix.trans beside.issuePrefix
  · exact enabled.trans beside.autoLink
  · intro other apart
    rw [(linkAndAdvance_frame state mirrored).1]
    exact beside.pulls other apart
  · intro other apart issueID
    rw [linkAndAdvance_lookup_ne apart]
    exact beside.links other apart issueID

theorem linkAndAdvance_view (issueID : Nat) {texts : Texts} {mirrored : Database} {row : PullRequest}
    (beside : Beside start mirrored texts.pullRequest)
    (found : mirrored.pulls.lookup texts.pullRequest = some row) :
    viewOf texts.pullRequest issueID (linkAndAdvance texts row.columns.state mirrored) =
      let wrote := written texts start (identifiers texts) issueID
      let link := relinked texts.preserveCloseIntent
        (mirrored.links.lookup (issueID, texts.pullRequest)) wrote
      ⟨some row, link,
        if (mirrored.status issueID).live && (row.columns.state.terminal && wrote.isSome &&
          othersLanded start texts.pullRequest issueID &&
          (othersMerged start texts.pullRequest issueID || (row.columns.state = .merged && closing link)))
        then .done else mirrored.status issueID⟩ := by
  have after := linkAndAdvance_beside row.columns.state beside
  have stored : (linkAndAdvance texts row.columns.state mirrored).pulls.lookup texts.pullRequest = some row := by
    rw [(linkAndAdvance_frame row.columns.state mirrored).1, found]
  have linked := linkAndAdvance_lookup texts row.columns.state mirrored issueID
  rw [beside.written] at linked
  have named : Named mirrored texts issueID ↔
      (written texts start (identifiers texts) issueID).isSome = true := by
    rw [written_isSome, beside.named]
  have status := @linkAndAdvance_status texts row.columns.state mirrored issueID
  rw [viewOf, stored, linked]
  refine congrArg (View.mk _ _) ?_
  rcases status with ⟨done, terminal, wrote, live, resolved⟩ | ⟨kept, refused⟩
  · rw [resolved_beside after stored terminal, linked] at resolved
    rw [done, if_pos]
    simp only [Bool.and_eq_true, Bool.or_eq_true, decide_eq_true_eq]
    exact ⟨live, ⟨⟨terminal, named.mp wrote⟩, resolved.1⟩, resolved.2⟩
  · rw [kept, if_neg]
    simp only [Bool.and_eq_true, Bool.or_eq_true, decide_eq_true_eq]
    rintro ⟨live, ⟨⟨terminal, wrote⟩, landed⟩, source⟩
    refine refused ⟨terminal, named.mpr wrote, live, ?_⟩
    rw [resolved_beside after stored terminal, linked]
    exact ⟨landed, source⟩

theorem required_stamped {parsed : Option Time} (some : parsed.isSome = true) :
    required now parsed = required 0 parsed := by
  obtain ⟨time, rfl⟩ := Option.isSome_iff_exists.mp some
  rfl

theorem github_row (now : Time) {workspaceID : Nat} {installationID : Int} {p : GhPullRequestPayload}
    (stamped : (Event.github workspaceID installationID p).stamped = true) :
    p.row now workspaceID installationID = (Event.github workspaceID installationID p).row := by
  obtain ⟨updated, created⟩ := Bool.and_eq_true_iff.mp stamped
  have updatedAt : required now p.updatedAt = required 0 p.updatedAt := required_stamped updated
  have createdAt : required now p.createdAt = required 0 p.createdAt := required_stamped created
  rw [Event.row, GhPullRequestPayload.row, GhPullRequestPayload.row, GhPullRequestPayload.columns,
    GhPullRequestPayload.columns, updatedAt, createdAt]

theorem vcs_row (now : Time) {conn : VcsConnection} {ev : PullRequestEvent}
    (stamped : (Event.vcs conn ev).stamped = true) : ev.row now conn = (Event.vcs conn ev).row := by
  obtain ⟨updated, created⟩ := Bool.and_eq_true_iff.mp stamped
  have updatedAt : required now ev.updatedAt = required 0 ev.updatedAt := required_stamped updated
  have createdAt : required now ev.createdAt = required 0 ev.createdAt := required_stamped created
  rw [Event.row, PullRequestEvent.row, PullRequestEvent.row, PullRequestEvent.columns,
    PullRequestEvent.columns, updatedAt, createdAt]

theorem merge_state (event : Event) (old : Option PullRequest) :
    (event.merge old).columns.state = event.state := by
  cases event with
  | github workspaceID installationID p => cases old <;> rfl
  | vcs conn ev => cases old <;> rfl

theorem Mirrored.beside {mirrored : Database} {key : Key} (same : Mirrored database mirrored key)
    (autoLink : mirrored.autoLinkPRsEnabled = database.autoLinkPRsEnabled)
    (beside : Beside start database key) : Beside start mirrored key := by
  constructor
  · exact same.numbered.trans beside.numbered
  · exact same.issuePrefix.trans beside.issuePrefix
  · exact autoLink.trans beside.autoLink
  · intro other apart
    rw [same.others other apart]
    exact beside.pulls other apart
  · intro other apart issueID
    rw [same.links]
    exact beside.links other apart issueID

theorem mirror_taken (now : Time) (stamped : event.stamped = true)
    (taken : event.ignored (database.pulls.lookup event.key) = false) :
    ∃ mirrored, Mirrored database mirrored event.key ∧
      mirrored.autoLinkPRsEnabled = database.autoLinkPRsEnabled ∧
      mirrored.pulls.lookup event.key = some (event.merge (database.pulls.lookup event.key)) ∧
      mirror now database event =
        if event.links database then linkAndAdvance event.texts event.state mirrored else mirrored := by
  cases event with
  | github workspaceID installationID p =>
      refine ⟨_, upsertGitHub_mirrored database (p.row now workspaceID installationID) p.mergeable.2, rfl,
        ?_, rfl⟩
      rw [Event.merge, ← github_row now stamped]
      exact Table.lookup_upsert_self
        (remirrorGitHub_key (p.row now workspaceID installationID) p.mergeable.2)
  | vcs conn ev =>
      obtain ⟨named, notOlder⟩ := Bool.or_eq_false_iff.mp taken
      have key : (ev.row now conn).key = (Event.vcs conn ev).key := rfl
      have found : (upsertVCSPullRequest database (ev.row now conn)).pulls.lookup (Event.vcs conn ev).key =
          some ((Event.vcs conn ev).merge (database.pulls.lookup (Event.vcs conn ev).key)) := by
        rw [← key, upsertVCS_lookup, Event.merge, ← vcs_row now stamped, key]
        cases stored : database.pulls.lookup (Event.vcs conn ev).key with
        | none => rfl
        | some old =>
            rw [stored, Option.any_some, decide_eq_false_iff_not] at notOlder
            have order : old.columns.prUpdatedAt ≤ (ev.row now conn).columns.prUpdatedAt := by
              rw [vcs_row now stamped]
              exact Nat.le_of_not_lt notOlder
            rw [Option.map_some, Option.map_some, remirrorVCS, if_pos order]
            rfl
      refine ⟨_, upsertVCS_mirrored database (ev.row now conn), rfl, found, ?_⟩
      have updatedAt : required now ev.updatedAt = (Event.vcs conn ev).time :=
        required_stamped (Bool.and_eq_true_iff.mp stamped).1
      have columns : ((Event.vcs conn ev).merge
          (database.pulls.lookup (Event.vcs conn ev).key)).columns.prUpdatedAt = (Event.vcs conn ev).time := by
        cases database.pulls.lookup (Event.vcs conn ev).key <;> rfl
      have fresh : ¬required now ev.updatedAt < ((Event.vcs conn ev).merge
          (database.pulls.lookup (Event.vcs conn ev).key)).columns.prUpdatedAt := by
        rw [columns, updatedAt]
        exact Nat.lt_irrefl _
      have lookup : (upsertVCSPullRequest database (ev.row now conn)).pulls.lookup (ev.key conn) = _ := found
      simp only [mirror, mirrorVCSPullRequest, named, Bool.false_eq_true, if_false, lookup, if_neg fresh]
      rfl

theorem mirror_ignored (now : Time) (stamped : event.stamped = true)
    (ignored : event.ignored (database.pulls.lookup event.key) = true) :
    Mirrored database (mirror now database event) event.key ∧
      (mirror now database event).autoLinkPRsEnabled = database.autoLinkPRsEnabled ∧
      (mirror now database event).pulls.lookup event.key = database.pulls.lookup event.key := by
  cases event with
  | github workspaceID installationID p => contradiction
  | vcs conn ev =>
      rw [mirror, mirrorVCSPullRequest]
      split
      · exact ⟨⟨rfl, rfl, rfl, rfl, fun _ _ => rfl⟩, rfl, rfl⟩
      · rename_i named
        rw [Event.ignored, Bool.or_eq_true, or_iff_right named, Option.any_eq_true] at ignored
        obtain ⟨old, stored, older⟩ := ignored
        have updatedAt : required now ev.updatedAt = (Event.vcs conn ev).time :=
          required_stamped (Bool.and_eq_true_iff.mp stamped).1
        have older : required now ev.updatedAt < old.columns.prUpdatedAt := by
          rw [updatedAt]
          exact of_decide_eq_true older
        have kept : (upsertVCSPullRequest database (ev.row now conn)).pulls.lookup (ev.key conn) =
            some old := by
          refine (upsertVCS_lookup database (ev.row now conn)).trans ?_
          have same : database.pulls.lookup (ev.row now conn).key = some old := stored
          have passed : ¬old.columns.prUpdatedAt ≤ (ev.row now conn).columns.prUpdatedAt :=
            Nat.not_le_of_gt older
          rw [same, Option.map_some, Option.getD_some, remirrorVCS, if_neg passed]
        simp only [kept, if_pos older]
        exact ⟨upsertVCS_mirrored database (ev.row now conn), rfl, kept.trans stored.symm⟩

theorem event_key (event : Event) : event.texts.pullRequest = event.key := by
  cases event with
  | github workspaceID installationID p => rfl
  | vcs conn ev => rfl

theorem mirror_beside (stamped : event.stamped = true) (beside : Beside start database event.key) :
    Beside start (mirror now database event) event.key := by
  cases ignored : event.ignored (database.pulls.lookup event.key) with
  | true =>
      obtain ⟨same, autoLink, -⟩ := mirror_ignored now stamped ignored
      exact same.beside autoLink beside
  | false =>
      obtain ⟨mirrored, same, autoLink, -, result⟩ := mirror_taken now stamped ignored
      have written := same.beside autoLink beside
      rw [result]
      split
      · rw [← event_key] at written ⊢
        exact linkAndAdvance_beside event.state written
      · exact written

theorem mirror_view (stamped : event.stamped = true) (beside : Beside start database event.key) :
    viewOf event.key issueID (mirror now database event) =
      if event.ignored (database.pulls.lookup event.key) then viewOf event.key issueID database
      else (viewOf event.key issueID database).advance start issueID event := by
  cases ignored : event.ignored (database.pulls.lookup event.key) with
  | true =>
      obtain ⟨same, -, kept⟩ := mirror_ignored now stamped ignored
      rw [if_pos rfl, viewOf, viewOf, kept, same.links, same.status]
  | false =>
      obtain ⟨mirrored, same, autoLink, found, result⟩ := mirror_taken now stamped ignored
      have besides := same.beside autoLink beside
      have links : event.links database = event.links start := by
        cases event with
        | github workspaceID installationID p => exact congrFun beside.autoLink workspaceID
        | vcs conn ev => rfl
      rw [if_neg (by simp), result, links, View.advance, gate, Event.writes]
      by_cases linking : event.links start = true
      · rw [if_pos linking, if_pos linking]
        have view := linkAndAdvance_view issueID (by rw [event_key]; exact besides)
          (by rw [event_key]; exact found)
        rw [merge_state, event_key] at view
        rw [view, same.links, same.status]
        rfl
      · rw [if_neg linking, if_neg linking, viewOf, found, same.links, same.status]
        simp only [Option.isSome_none, Bool.and_false, Bool.false_and, Bool.false_eq_true, if_false]
        cases preserve : event.texts.preserveCloseIntent with
        | true => simp [relinked, viewOf]
        | false => simp [relinked, viewOf]

end Advance

end MulticaOS.PullRequests
