import MulticaOS.PullRequests.Mirroring

/-!
What the loops of one event do: the gate that closes an issue, the statuses after it, and the
links of the pull request, issue by issue.
-/

namespace MulticaOS.PullRequests

open UpsertLib

def State.terminal (state : State) : Bool := state = .merged || state = .closed

def Status.live (status : Status) : Bool := !(status = .done || status = .cancelled)

def Named (database : Database) (texts : Texts) (issueID : Nat) : Prop :=
  ∃ identifier ∈ identifiers texts,
    lookupIssueByIdentifier database texts.workspaceID identifier = some issueID

def Linked (database : Database) (issueID : Nat) (link : Link) (pull : PullRequest) : Prop :=
  link ∈ database.links.rows ∧ link.issueID = issueID ∧ link.referenceOnly = false ∧
    database.pulls.lookup link.pullRequest = some pull

/-- No linked pull request is in flight, and a merged one was declared to close the issue. -/
structure Resolved (database : Database) (issueID : Nat) : Prop where
  landed : ∀ link pull, Linked database issueID link pull →
    pull.columns.state ≠ .opened ∧ pull.columns.state ≠ .draft
  merged : ∃ link pull, Linked database issueID link pull ∧ pull.columns.state = .merged ∧
    link.closeIntent = true

section Gate

variable {database other : Database} {issueID : Nat}

theorem mem_combined {state : State} {closeIntent : Bool} :
    (state, closeIntent) ∈ database.links.rows.flatMap (fun link =>
      if link.issueID = issueID && !link.referenceOnly then
        ((database.pulls.lookup link.pullRequest).map fun pull =>
          (pull.columns.state, link.closeIntent)).toList
      else []) ↔
    ∃ link pull, Linked database issueID link pull ∧ pull.columns.state = state ∧
      link.closeIntent = closeIntent := by
  rw [List.mem_flatMap]
  constructor
  · rintro ⟨link, stored, member⟩
    split at member
    · rename_i counted
      simp only [Bool.and_eq_true, decide_eq_true_eq, Bool.not_eq_true'] at counted
      obtain ⟨pull, found, same⟩ := Option.map_eq_some_iff.mp (Option.mem_toList.mp member)
      obtain ⟨rfl, rfl⟩ := Prod.mk.inj same
      exact ⟨link, pull, ⟨stored, counted.1, counted.2, found⟩, rfl, rfl⟩
    · contradiction
  · rintro ⟨link, pull, ⟨stored, same, counted, found⟩, rfl, rfl⟩
    refine ⟨link, stored, ?_⟩
    simp [same, counted, found]

theorem inFlight_none :
    (closeAggregate database issueID).1 = 0 ↔ ∀ link pull, Linked database issueID link pull →
      pull.columns.state ≠ .opened ∧ pull.columns.state ≠ .draft := by
  rw [closeAggregate, List.countP_eq_zero]
  constructor
  · intro none link pull linked
    have absent := none (pull.columns.state, link.closeIntent)
      (mem_combined.mpr ⟨link, pull, linked, rfl, rfl⟩)
    simpa using absent
  · rintro landed ⟨state, closeIntent⟩ member
    obtain ⟨link, pull, linked, rfl, rfl⟩ := mem_combined.mp member
    have down := landed link pull linked
    simp [down.1, down.2]

theorem mergedWithIntent_pos :
    0 < (closeAggregate database issueID).2 ↔ ∃ link pull, Linked database issueID link pull ∧
      pull.columns.state = .merged ∧ link.closeIntent = true := by
  rw [closeAggregate, List.countP_pos_iff]
  constructor
  · rintro ⟨⟨state, closeIntent⟩, member, merged⟩
    obtain ⟨link, pull, linked, rfl, rfl⟩ := mem_combined.mp member
    simp only [Bool.and_eq_true, decide_eq_true_eq] at merged
    exact ⟨link, pull, linked, merged.1, merged.2⟩
  · rintro ⟨link, pull, linked, merged, intent⟩
    exact ⟨(pull.columns.state, link.closeIntent), mem_combined.mpr ⟨link, pull, linked, rfl, rfl⟩,
      by simp [merged, intent]⟩

theorem closeAggregate_resolved :
    ((closeAggregate database issueID).1 = 0 ∧ 0 < (closeAggregate database issueID).2) ↔
      Resolved database issueID := by
  rw [inFlight_none, mergedWithIntent_pos]
  exact ⟨fun both => ⟨both.1, both.2⟩, fun resolved => ⟨resolved.landed, resolved.merged⟩⟩

theorem Resolved.of_same (pulls : other.pulls = database.pulls) (links : other.links = database.links) :
    Resolved other issueID ↔ Resolved database issueID := by
  simp only [← closeAggregate_resolved, closeAggregate, pulls, links]

end Gate

section Loops

variable {texts : Texts}

structure Unlinked (database next : Database) : Prop where
  status : next.status = database.status
  pulls : next.pulls = database.pulls
  numbered : next.numbered = database.numbered
  issuePrefix : next.issuePrefix = database.issuePrefix

theorem Unlinked.lookup {database next : Database} (same : Unlinked database next) (workspaceID : Nat)
    (identifier : Identifier) :
    lookupIssueByIdentifier next workspaceID identifier =
      lookupIssueByIdentifier database workspaceID identifier := by
  rw [lookupIssueByIdentifier, lookupIssueByIdentifier, same.numbered, same.issuePrefix]

theorem linkIssue_unlinked (database : Database) (link : Link) (preserve : Bool) :
    Unlinked database (linkIssue database link preserve) := ⟨rfl, rfl, rfl, rfl⟩

theorem linkIssues_unlinked (texts : Texts) (database : Database) (idents : List Identifier) :
    Unlinked database (linkIssues texts database idents).1 := by
  induction idents generalizing database with
  | nil => exact ⟨rfl, rfl, rfl, rfl⟩
  | cons identifier rest ih =>
      rw [linkIssues]
      split
      · exact ih database
      · rename_i issueID found
        have same := ih (linkIssue database (linkOf texts issueID identifier) texts.preserveCloseIntent)
        exact ⟨same.status, same.pulls, same.numbered, same.issuePrefix⟩

theorem mem_linkIssues {database : Database} {idents : List Identifier} {issueID : Nat} {status : Status} :
    (issueID, status) ∈ (linkIssues texts database idents).2 ↔
      (∃ identifier ∈ idents,
        lookupIssueByIdentifier database texts.workspaceID identifier = some issueID) ∧
      status = database.status issueID := by
  induction idents generalizing database with
  | nil => simp [linkIssues]
  | cons identifier rest ih =>
      rw [linkIssues]
      split
      · rename_i missing
        rw [ih]
        simp [missing]
      · rename_i first found
        have same := linkIssue_unlinked database (linkOf texts first identifier) texts.preserveCloseIntent
        rw [List.mem_cons, ih]
        simp only [same.lookup, same.status, List.mem_cons, exists_eq_or_imp, found, Option.some.injEq,
          Prod.mk.injEq]
        constructor
        · rintro (⟨rfl, rfl⟩ | ⟨later, rfl⟩)
          · exact ⟨Or.inl rfl, rfl⟩
          · exact ⟨Or.inr later, rfl⟩
        · rintro ⟨rfl | later, rfl⟩
          · exact Or.inl ⟨rfl, rfl⟩
          · exact Or.inr ⟨later, rfl⟩

def opens (database : Database) (issueID : Nat) : Bool :=
  (closeAggregate database issueID).1 = 0 && 0 < (closeAggregate database issueID).2

theorem opens_iff {database : Database} {issueID : Nat} :
    opens database issueID = true ↔ Resolved database issueID := by
  rw [← closeAggregate_resolved]
  simp [opens]

theorem reevaluate_cons (database : Database) (issueID : Nat) (status : Status)
    (rest : List (Nat × Status)) :
    reevaluate database ((issueID, status) :: rest) =
      reevaluate (if status.live && opens database issueID then advanceIssueToDone database issueID
        else database) rest := by
  rw [reevaluate]
  by_cases dead : (status = .done || status = .cancelled) = true
  · rw [if_pos dead, if_neg (by simp [Status.live, dead])]
  · have asked : (if status.live && opens database issueID then advanceIssueToDone database issueID
        else database) = if opens database issueID then advanceIssueToDone database issueID
        else database := by
      simp [Status.live, dead]
    rw [if_neg dead, asked]
    by_cases counts : (closeAggregate database issueID).1 = 0 ∧ 0 < (closeAggregate database issueID).2
    · rw [if_pos counts, if_pos (by simpa [opens, Nat.pos_iff_ne_zero] using counts)]
    · rw [if_neg counts, if_neg (by simpa [opens, Nat.pos_iff_ne_zero] using counts)]

theorem reevaluate_frame (database : Database) (listed : List (Nat × Status)) :
    (reevaluate database listed).pulls = database.pulls ∧
      (reevaluate database listed).links = database.links := by
  induction listed generalizing database with
  | nil => exact ⟨rfl, rfl⟩
  | cons entry rest ih =>
      rw [reevaluate_cons]
      split
      · exact ih (advanceIssueToDone database entry.1)
      · exact ih database

theorem reevaluate_status (database : Database) (listed : List (Nat × Status)) (issueID : Nat) :
    (reevaluate database listed).status issueID =
      if listed.any (fun entry => entry.1 = issueID && entry.2.live) && opens database issueID then .done
      else database.status issueID := by
  induction listed generalizing database with
  | nil => rfl
  | cons entry rest ih =>
      obtain ⟨first, status⟩ := entry
      have same : opens (advanceIssueToDone database first) issueID = opens database issueID := rfl
      rw [reevaluate_cons, List.any_cons]
      by_cases here : first = issueID
      · subst here
        cases asked : status.live && opens database first with
        | true =>
            obtain ⟨live, opened⟩ := Bool.and_eq_true_iff.mp asked
            rw [if_pos rfl, ih, same]
            simp [live, opened, advanceIssueToDone]
        | false =>
            rw [if_neg (by simp), ih]
            cases live : status.live with
            | true =>
                rw [live, Bool.true_and] at asked
                simp [asked]
            | false => rw [Bool.and_false, Bool.false_or]
      · have kept : (advanceIssueToDone database first).status issueID = database.status issueID :=
          Function.update_of_ne (Ne.symm here) _ _
        rw [decide_eq_false here, Bool.false_and, Bool.false_or]
        split
        · rw [ih, same, kept]
        · exact ih database

theorem linkAndAdvance_status (state : State) (database : Database) (issueID : Nat) :
    ((linkAndAdvance texts state database).status issueID = .done ∧ state.terminal = true ∧
        Named database texts issueID ∧ (database.status issueID).live = true ∧
        Resolved (linkAndAdvance texts state database) issueID) ∨
      ((linkAndAdvance texts state database).status issueID = database.status issueID ∧
        ¬(state.terminal = true ∧ Named database texts issueID ∧
          (database.status issueID).live = true ∧
          Resolved (linkAndAdvance texts state database) issueID)) := by
  have unlinked := linkIssues_unlinked texts database (identifiers texts)
  rw [linkAndAdvance]
  split
  · rename_i terminal
    obtain ⟨pulls, links⟩ := reevaluate_frame (linkIssues texts database (identifiers texts)).1
      (linkIssues texts database (identifiers texts)).2
    rw [Resolved.of_same pulls links, reevaluate_status, unlinked.status]
    have asked : (linkIssues texts database (identifiers texts)).2.any
        (fun entry => entry.1 = issueID && entry.2.live) = true ↔
        Named database texts issueID ∧ (database.status issueID).live = true := by
      simp only [List.any_eq_true, Bool.and_eq_true, decide_eq_true_eq]
      constructor
      · rintro ⟨⟨other, status⟩, listed, rfl, live⟩
        obtain ⟨named, rfl⟩ := mem_linkIssues.mp listed
        exact ⟨named, live⟩
      · rintro ⟨named, live⟩
        exact ⟨(issueID, database.status issueID), mem_linkIssues.mpr ⟨named, rfl⟩, rfl, live⟩
    split
    · rename_i advances
      rw [Bool.and_eq_true, asked, opens_iff] at advances
      exact Or.inl ⟨rfl, terminal, advances.1.1, advances.1.2, advances.2⟩
    · rename_i stays
      rw [Bool.and_eq_true, asked, opens_iff] at stays
      exact Or.inr ⟨rfl, fun all => stays ⟨⟨all.2.1, all.2.2.1⟩, all.2.2.2⟩⟩
  · rename_i pending
    exact Or.inr ⟨by rw [unlinked.status], fun all => pending all.1⟩

def mentions (texts : Texts) (database : Database) (idents : List Identifier) (issueID : Nat) :
    List Identifier :=
  idents.filter fun identifier =>
    lookupIssueByIdentifier database texts.workspaceID identifier = some issueID

def written (texts : Texts) (database : Database) (idents : List Identifier) (issueID : Nat) :
    Option Link :=
  (if texts.preserveCloseIntent then (mentions texts database idents issueID).head?
    else (mentions texts database idents issueID).getLast?).map (linkOf texts issueID)

def relinked (preserve : Bool) (old new : Option Link) : Option Link :=
  if preserve then old.or new else new.or old

theorem linkIssue_lookup (database : Database) (link : Link) (preserve : Bool) :
    (linkIssue database link preserve).links.lookup link.key =
      relinked preserve (database.links.lookup link.key) (some link) := by
  rw [linkIssue, Table.lookup_upsert_self]
  cases found : database.links.lookup link.key with
  | none => cases preserve <;> rfl
  | some old =>
      have same : old.key = link.key := Table.lookup_key found
      obtain ⟨issueID, pullRequest⟩ := Prod.mk.inj same
      cases preserve with
      | true => rfl
      | false =>
          simp only [relinked, relink, Option.map_some, Option.getD_some, Bool.false_eq_true, if_false,
            Option.some_or]
          rw [issueID, pullRequest]

theorem linkIssue_lookup_ne {database : Database} {link : Link} {preserve : Bool} {key : Nat × Key}
    (apart : key ≠ link.key) :
    (linkIssue database link preserve).links.lookup key = database.links.lookup key :=
  Table.lookup_upsert_ne (relink_key link preserve) apart

theorem linkIssues_lookup_ne {database : Database} {idents : List Identifier} {issueID : Nat} {key : Key}
    (apart : key ≠ texts.pullRequest) :
    (linkIssues texts database idents).1.links.lookup (issueID, key) =
      database.links.lookup (issueID, key) := by
  induction idents generalizing database with
  | nil => rfl
  | cons identifier rest ih =>
      rw [linkIssues]
      split
      · exact ih
      · refine ih.trans (linkIssue_lookup_ne fun same => apart ?_)
        exact (Prod.mk.inj same).2

theorem linkIssues_lookup (database : Database) (idents : List Identifier) (issueID : Nat) :
    (linkIssues texts database idents).1.links.lookup (issueID, texts.pullRequest) =
      relinked texts.preserveCloseIntent (database.links.lookup (issueID, texts.pullRequest))
        (written texts database idents issueID) := by
  induction idents generalizing database with
  | nil =>
      cases preserve : texts.preserveCloseIntent with
      | true => simp [linkIssues, relinked, written, mentions]
      | false => simp [linkIssues, relinked, written, mentions]
  | cons identifier rest ih =>
      rw [linkIssues]
      split
      · rename_i missing
        have same : mentions texts database (identifier :: rest) issueID =
            mentions texts database rest issueID := by
          simp [mentions, missing]
        rw [ih, written, written, same]
      · rename_i first found
        have unlinked := linkIssue_unlinked database (linkOf texts first identifier) texts.preserveCloseIntent
        have same : mentions texts (linkIssue database (linkOf texts first identifier)
            texts.preserveCloseIntent) rest issueID = mentions texts database rest issueID := by
          simp only [mentions, unlinked.lookup]
        rw [ih, written, written, same]
        by_cases here : first = issueID
        · subst here
          have named : mentions texts database (identifier :: rest) first =
              identifier :: mentions texts database rest first := by
            simp [mentions, found]
          have linked : (linkIssue database (linkOf texts first identifier)
              texts.preserveCloseIntent).links.lookup (first, texts.pullRequest) =
              relinked texts.preserveCloseIntent (database.links.lookup (first, texts.pullRequest))
                (some (linkOf texts first identifier)) :=
            linkIssue_lookup database (linkOf texts first identifier) texts.preserveCloseIntent
          rw [linked, named]
          cases preserve : texts.preserveCloseIntent with
          | true => simp [relinked]
          | false =>
              simp only [relinked, Bool.false_eq_true, if_false, List.getLast?_cons]
              cases (mentions texts database rest first).getLast? <;> simp
        · have named : mentions texts database (identifier :: rest) issueID =
              mentions texts database rest issueID := by
            simp [mentions, found, here]
          have apart : (issueID, texts.pullRequest) ≠ (linkOf texts first identifier).key :=
            fun same => here (Prod.mk.inj same).1.symm
          rw [linkIssue_lookup_ne apart, named]

theorem linkAndAdvance_frame (state : State) (database : Database) :
    (linkAndAdvance texts state database).pulls = database.pulls ∧
      (linkAndAdvance texts state database).links =
        (linkIssues texts database (identifiers texts)).1.links := by
  have unlinked := linkIssues_unlinked texts database (identifiers texts)
  rw [linkAndAdvance]
  split
  · obtain ⟨pulls, links⟩ := reevaluate_frame (linkIssues texts database (identifiers texts)).1
      (linkIssues texts database (identifiers texts)).2
    exact ⟨pulls.trans unlinked.pulls, links⟩
  · exact ⟨unlinked.pulls, rfl⟩

theorem linkAndAdvance_lookup (texts : Texts) (state : State) (database : Database) (issueID : Nat) :
    (linkAndAdvance texts state database).links.lookup (issueID, texts.pullRequest) =
      relinked texts.preserveCloseIntent (database.links.lookup (issueID, texts.pullRequest))
        (written texts database (identifiers texts) issueID) := by
  rw [(linkAndAdvance_frame state database).2, linkIssues_lookup]

theorem linkAndAdvance_lookup_ne {state : State} {database : Database} {issueID : Nat} {key : Key}
    (apart : key ≠ texts.pullRequest) :
    (linkAndAdvance texts state database).links.lookup (issueID, key) =
      database.links.lookup (issueID, key) := by
  rw [(linkAndAdvance_frame state database).2, linkIssues_lookup_ne apart]

theorem mem_mentions {database : Database} {issueID : Nat} {identifier : Identifier} :
    identifier ∈ mentions texts database (identifiers texts) issueID ↔
      identifier ∈ identifiers texts ∧
        lookupIssueByIdentifier database texts.workspaceID identifier = some issueID := by
  simp [mentions]

theorem written_isSome {database : Database} {issueID : Nat} :
    (written texts database (identifiers texts) issueID).isSome = true ↔ Named database texts issueID := by
  have nonempty : mentions texts database (identifiers texts) issueID ≠ [] ↔
      Named database texts issueID := by
    constructor
    · intro some
      obtain ⟨identifier, member⟩ := List.exists_mem_of_ne_nil _ some
      exact ⟨identifier, (mem_mentions.mp member).1, (mem_mentions.mp member).2⟩
    · rintro ⟨identifier, listed, found⟩ none
      have member := mem_mentions.mpr ⟨listed, found⟩
      rw [none] at member
      contradiction
  rw [← nonempty, written]
  split
  · simp
  · simp

end Loops

end MulticaOS.PullRequests
