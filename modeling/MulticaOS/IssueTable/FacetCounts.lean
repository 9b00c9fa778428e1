import MulticaOS.IssueTable.Facets
import MulticaOS.IssueTable.Walks
import MulticaOS.Lib.Lists

/-!
What a facet counts, against the query without the facet's own filter.  The batch leaves an empty
list of assignees in place, and the filter of a property stays under another spelling of its id.
-/

namespace MulticaOS.IssueTable

open AggregateLib
open GoLib

section Specification

variable {Id : Type} [DecidableEq Id] (library : Library Id) (snapshot : TableSnapshot Id)
  (userID : Option Id)

def passes (clause : Clause Id) (issue : TableIssue Id) : Bool :=
  match clause with
  | .ok holds => holds issue
  | .error _ => false

def satisfies (spec : QuerySpec) (issue : TableIssue Id) : Bool :=
  (clauses library snapshot userID spec).all fun clause => passes clause issue

def filtersFacet (facet : FacetSpec) (entry : String × List String) : Bool :=
  entry.1 = facet.propertyID ||
    ((library.uuidParse entry.1).isSome && library.uuidParse entry.1 = library.parseUUID facet.propertyID)

def withoutOwnFilter (spec : QuerySpec) (facet : FacetSpec) : QuerySpec :=
  if facet.kind = "property" then
    { spec with filters :=
        { spec.filters with
          properties := spec.filters.properties.filter fun entry => !filtersFacet library facet entry } }
  else issueTableQueryWithoutFacet spec facet

def facetValues (facet : FacetSpec) (issue : TableIssue Id) : List String :=
  match facet.kind with
  | "status" => [issue.status.name]
  | "priority" => [issue.priority.name]
  | "assignee" => [assigneeExpression library issue]
  | "creator" => [creatorExpression library issue]
  | "project" => [projectExpression library issue]
  | "label" => issue.labels.map library.uuidToString
  | "property" =>
      match resolveFacetProperty library snapshot.definitions facet with
      | .ok property => propertyTexts library property issue
      | .error _ => []
  | _ => []

/-- Each value once, with the number of issues that have it and that `holds` is true of. -/
structure FacetCounts (holds : TableIssue Id → Bool) (facet : FacetSpec) (response : FacetResponse) : Prop where
  kind : response.kind = facet.kind ∧ response.propertyID = facet.propertyID
  distinct : (response.values.map Prod.fst).Nodup
  counts : ∀ value, countIn response.values value = snapshot.issues.countP fun issue =>
    holds issue && value ∈ facetValues library snapshot facet issue

def FacetExact (spec : QuerySpec) (facet : FacetSpec) (response : FacetResponse) : Prop :=
  FacetCounts library snapshot
    (satisfies library snapshot userID (withoutOwnFilter library spec facet)) facet response

structure Exact (request : FacetsRequest) (response : FacetsResponse) : Prop where
  total : request.includeTotal ≠ some false →
    response.total = snapshot.issues.countP (satisfies library snapshot userID request.query)
  facets : List.Forall₂ (FacetExact library snapshot userID request.query)
    (request.facets.map FacetSpec.normalized) response.facets

/-- What the code leaves of the facet's own filter: the empty list of assignees, and the entries of a
property under another spelling of its id. -/
def leftBehind (spec : QuerySpec) (facet : FacetSpec) (issue : TableIssue Id) : Bool :=
  match facet.kind with
  | "assignee" => !(spec.filters.assignees = some [] && !spec.filters.includeNoAssignee)
  | "property" =>
      (normalizedProperties spec.filters.properties).all fun entry =>
        !(filtersFacet library facet entry && entry.1 ≠ facet.propertyID) || entryHolds library entry issue
  | _ => true

def NothingLeft (spec : QuerySpec) (facet : FacetSpec) : Prop :=
  ∀ issue ∈ snapshot.issues,
    satisfies library snapshot userID (withoutOwnFilter library spec facet) issue = true →
      facetValues library snapshot facet issue ≠ [] → leftBehind library spec facet issue = true

end Specification

section Clauses

variable {Id : Type} [DecidableEq Id] {library : Library Id} {snapshot : TableSnapshot Id}
  {userID : Option Id} {spec : QuerySpec}

omit [DecidableEq Id] in
theorem conjunction_ok {list : List (Clause Id)} {holds : TableIssue Id → Bool}
    (compiled : conjunction list = .ok holds) :
    (∀ clause ∈ list, ∃ part, clause = .ok part) ∧
      ∀ issue, holds issue = list.all fun clause => passes clause issue := by
  induction list generalizing holds with
  | nil =>
      cases compiled
      simp
  | cons first rest ih =>
      cases first with
      | error failure => cases compiled
      | ok part =>
          simp only [conjunction] at compiled
          cases later : conjunction rest with
          | error failure =>
              rw [later] at compiled
              cases compiled
          | ok others =>
              rw [later] at compiled
              cases compiled
              obtain ⟨each, all⟩ := ih later
              constructor
              · intro clause member
                rcases List.mem_cons.mp member with rfl | member
                · exact ⟨part, rfl⟩
                · exact each clause member
              · intro issue
                rw [List.all_cons, ← all issue]
                rfl

theorem compiled_satisfies {holds : TableIssue Id → Bool}
    (compiled : compileIssueTableQuery library snapshot userID spec = .ok holds) :
    holds = satisfies library snapshot userID spec :=
  funext (conjunction_ok compiled).2

omit [DecidableEq Id] in
theorem propertyClause_filter {properties : List (String × List String)} {holds : TableIssue Id → Bool}
    (accepted : propertyClause library properties = .ok holds) (kept : String × List String → Bool) :
    propertyClause library (properties.filter kept) =
      .ok fun issue => (normalizedProperties (properties.filter kept)).all fun entry =>
        entryHolds library entry issue := by
  have fewer : (normalizedProperties (properties.filter kept)).Sublist (normalizedProperties properties) :=
    List.filter_sublist.map _
  rw [propertyClause] at accepted ⊢
  split at accepted
  · cases accepted
  · rename_i few
    split at accepted
    · cases accepted
    · rename_i totals parsed
      split at accepted
      · cases accepted
      · rename_i small
        obtain ⟨part, parsedPart, within⟩ := ListLib.mapM_sublist fewer parsed
        have length := fewer.length_le
        have sum := within.sum_le_sum (by simp)
        rw [if_neg (by omega), parsedPart]
        dsimp only
        rw [if_neg (by omega)]

theorem batched_cases {facet : FacetSpec} {expression : TableIssue Id → String}
    (batched : issueTableBaseFacetExpression library spec facet = some expression) :
    (withoutOwnFilter library spec facet = spec ∧ ∀ issue, leftBehind library spec facet issue = true) ∨
      (facet.kind = "assignee" ∧ spec.filters.assignees = some [] ∧ spec.filters.includeNoAssignee = false) := by
  obtain ⟨kind, propertyID⟩ := facet
  obtain ⟨scope, filters, search, sort⟩ := spec
  obtain ⟨statuses, priorities, assignees, includeNoAssignee, creators, projectIDs, includeNoProject, labelIDs,
    properties, date, workingOnly, workingIssueIDs, includeSubIssues⟩ := filters
  rw [issueTableBaseFacetExpression] at batched
  dsimp only at batched ⊢
  split at batched
  case h_3 =>
      split at batched
      · rename_i empty
        obtain ⟨empty, rfl⟩ := empty
        cases assignees with
        | none => exact Or.inl ⟨rfl, fun _ => rfl⟩
        | some list =>
            obtain rfl : list = [] := empty
            exact Or.inr ⟨rfl, rfl, rfl⟩
      · cases batched
  case h_5 =>
      split at batched
      · rename_i empty
        obtain ⟨rfl, rfl⟩ := empty
        exact Or.inl ⟨rfl, fun _ => rfl⟩
      · cases batched
  case h_6 => cases batched
  all_goals
    split at batched
    · rename_i empty
      subst empty
      exact Or.inl ⟨rfl, fun _ => rfl⟩
    · cases batched

theorem satisfies_batched {facet : FacetSpec} {expression : TableIssue Id → String}
    (batched : issueTableBaseFacetExpression library spec facet = some expression) (issue : TableIssue Id) :
    satisfies library snapshot userID spec issue =
      (satisfies library snapshot userID (withoutOwnFilter library spec facet) issue &&
        leftBehind library spec facet issue) := by
  rcases batched_cases batched with ⟨same, nothing⟩ | ⟨kind, empty, without⟩
  · rw [same, nothing, Bool.and_true]
  · have refused : passes (assigneeClause library spec.filters) issue = false := by
      rw [assigneeClause, empty, without]
      rfl
    have left : leftBehind library spec facet issue = false := by
      rw [leftBehind, kind]
      simp [empty, without]
    rw [left, Bool.and_false, satisfies]
    exact List.all_eq_false.mpr ⟨assigneeClause library spec.filters, by simp [clauses], by simp [refused]⟩

theorem kept_entries (facet : FacetSpec) (properties : List (String × List String)) (issue : TableIssue Id) :
    (normalizedProperties (properties.filter fun entry => entry.1 ≠ facet.propertyID)).all
        (fun entry => entryHolds library entry issue) =
      ((normalizedProperties (properties.filter fun entry => !filtersFacet library facet entry)).all
          (fun entry => entryHolds library entry issue) &&
        (normalizedProperties properties).all fun entry =>
          !(filtersFacet library facet entry && entry.1 ≠ facet.propertyID) || entryHolds library entry issue) := by
  rw [Bool.eq_iff_iff]
  simp only [normalizedProperties, List.all_map, Bool.and_eq_true, List.all_eq_true, List.mem_filter,
    Function.comp, filtersFacet]
  constructor
  · intro kept
    refine ⟨fun entry part => ?_, fun entry member => ?_⟩
    · refine kept entry ⟨part.1, ?_⟩
      by_contra same
      simp [show entry.1 = facet.propertyID by simpa using same] at part
    · by_cases same : entry.1 = facet.propertyID
      · simp [same]
      · rw [kept entry ⟨member, by simp [same]⟩, Bool.or_true]
  · rintro ⟨others, missed⟩ entry ⟨member, apart⟩
    cases own : filtersFacet library facet entry with
    | false => exact others entry ⟨member, by rw [filtersFacet] at own; rw [own]; rfl⟩
    | true =>
        have holds := missed entry member
        rw [filtersFacet] at own
        rw [own, apart] at holds
        exact holds

theorem satisfies_alone {facet : FacetSpec} {holds : TableIssue Id → Bool}
    (compiled : compileIssueTableQuery library snapshot userID spec = .ok holds)
    (alone : issueTableBaseFacetExpression library spec facet = none) (issue : TableIssue Id) :
    satisfies library snapshot userID (issueTableQueryWithoutFacet spec facet) issue =
      (satisfies library snapshot userID (withoutOwnFilter library spec facet) issue &&
        leftBehind library spec facet issue) := by
  by_cases property : facet.kind = "property"
  · obtain ⟨part, accepted⟩ := (conjunction_ok compiled).1
      (propertyClause library spec.filters.properties) (by simp [clauses])
    have removed := propertyClause_filter accepted fun entry => entry.1 ≠ facet.propertyID
    have removedOwn := propertyClause_filter accepted fun entry => !filtersFacet library facet entry
    have kept := @kept_entries _ _ library facet spec.filters.properties issue
    simp only [withoutOwnFilter, issueTableQueryWithoutFacet, leftBehind, property, if_true, satisfies, clauses,
      List.all_cons, List.all_nil, removed, removedOwn, passes, kept, Bool.and_true]
    ac_rfl
  · have nothing : leftBehind library spec facet issue = true := by
      rw [leftBehind]
      split
      · rename_i kind
        rw [issueTableBaseFacetExpression, kind] at alone
        cases assignees : spec.filters.assignees with
        | none => rfl
        | some list =>
            simp only [assignees, Option.getD_some] at alone
            split at alone
            · cases alone
            · rename_i filtered
              cases list with
              | nil => simp_all
              | cons first rest => rfl
      · contradiction
      · rfl
    rw [withoutOwnFilter, if_neg property, nothing, Bool.and_true]

end Clauses

section Queries

variable {Id : Type} [DecidableEq Id] {library : Library Id} {snapshot : TableSnapshot Id}
  {userID : Option Id} {spec : QuerySpec} {facet : FacetSpec}

theorem propertyFacetRows_counts {matching : List (TableIssue Id)} {property : Property Id}
    {rows : List (String × Nat)} (ids : (matching.map fun issue => issue.id).Nodup)
    (counted : propertyFacetRows library matching property = .ok rows) :
    Counts (propertyTexts library property) matching rows := by
  have single : ∀ texts : List String, texts.length ≤ 1 → texts.Nodup := by
    intro texts short
    match texts with
    | [] => exact List.nodup_nil
    | [text] => exact List.nodup_singleton text
  rw [propertyFacetRows] at counted
  split at counted
  · rename_i type
    cases counted
    refine counts_groupCount_flatMap fun issue _ => single _ ?_
    rw [propertyTexts, type]
    split <;> simp_all
  · rename_i type
    cases counted
    refine counts_groupCount_flatMap fun issue _ => single _ ?_
    rw [propertyTexts, type]
    split <;> simp_all
  · split at counted
    · cases counted
    · cases counted
      exact counts_groupCountDistinct (fun issue : TableIssue Id => issue.id) ids
  · cases counted

theorem facetRows_counts {matching : List (TableIssue Id)} {rows : List (String × Nat)}
    (texts : Function.Injective library.uuidToString) (ids : (matching.map fun issue => issue.id).Nodup)
    (counted : facetRows library snapshot.definitions matching facet = .ok rows) :
    Counts (facetValues library snapshot facet) matching rows := by
  obtain ⟨kind, propertyID⟩ := facet
  rw [facetRows] at counted
  dsimp only at counted
  split at counted
  case h_6 =>
      cases counted
      exact (counts_groupCountDistinct (fun issue : TableIssue Id => issue.id) ids).map texts
  case h_7 =>
      split at counted
      · cases counted
      · rename_i property resolved
        have same : facetValues library snapshot ⟨"property", propertyID⟩ = propertyTexts library property := by
          funext issue
          simp only [facetValues, resolved]
        rw [same]
        exact propertyFacetRows_counts ids counted
  case h_8 => cases counted
  all_goals
    cases counted
    exact counts_groupCount_map _

theorem facetCounts_of_counts {holds : TableIssue Id → Bool} {rows : List (String × Nat)}
    (counts : Counts (facetValues library snapshot facet) (snapshot.issues.filter holds) rows) :
    FacetCounts library snapshot holds facet (facet.respond (sortValues rows)) := by
  have sorted := counts.perm (List.perm_insertionSort (fun left right => left.1 ≤ right.1) rows).symm
  refine ⟨⟨rfl, rfl⟩, sorted.distinct, fun value => ?_⟩
  rw [FacetSpec.respond]
  dsimp only
  rw [sortValues, sorted.counts, List.countP_filter]
  exact List.countP_congr fun issue _ => by rw [Bool.and_comm]

theorem FacetCounts.exact_iff {response : FacetResponse}
    (counted : FacetCounts library snapshot (fun issue =>
      satisfies library snapshot userID (withoutOwnFilter library spec facet) issue &&
        leftBehind library spec facet issue) facet response) :
    FacetExact library snapshot userID spec facet response ↔
      NothingLeft library snapshot userID spec facet := by
  have each : ∀ value, (countIn response.values value = snapshot.issues.countP fun issue =>
      satisfies library snapshot userID (withoutOwnFilter library spec facet) issue &&
        value ∈ facetValues library snapshot facet issue) ↔
      ∀ issue ∈ snapshot.issues,
        (satisfies library snapshot userID (withoutOwnFilter library spec facet) issue &&
          decide (value ∈ facetValues library snapshot facet issue)) = true →
        (satisfies library snapshot userID (withoutOwnFilter library spec facet) issue &&
          leftBehind library spec facet issue &&
          decide (value ∈ facetValues library snapshot facet issue)) = true := by
    intro value
    rw [counted.counts]
    refine countP_eq_iff fun issue _ strong => ?_
    simp only [Bool.and_eq_true] at strong ⊢
    exact ⟨strong.1.1, strong.2⟩
  constructor
  · intro exact issue member satisfied some
    obtain ⟨value, held⟩ := List.exists_mem_of_ne_nil _ some
    have kept := (each value).mp (exact.counts value) issue member (by simp [satisfied, held])
    simp only [Bool.and_eq_true] at kept
    exact kept.1.2
  · intro nothing
    refine ⟨counted.kind, counted.distinct, fun value => (each value).mpr fun issue member weak => ?_⟩
    simp only [Bool.and_eq_true, decide_eq_true_eq] at weak ⊢
    exact ⟨⟨weak.1, nothing issue member weak.1 (List.ne_nil_of_mem weak.2)⟩, weak.2⟩

theorem issueTableFacetQuery_counts {holds : TableIssue Id → Bool} {response : FacetResponse}
    (texts : Function.Injective library.uuidToString)
    (compiled : compileIssueTableQuery library snapshot userID spec = .ok holds)
    (alone : issueTableBaseFacetExpression library spec facet = none)
    (answered : issueTableFacetQuery library snapshot userID spec facet = .ok response) :
    FacetCounts library snapshot (fun issue =>
      satisfies library snapshot userID (withoutOwnFilter library spec facet) issue &&
        leftBehind library spec facet issue) facet response := by
  rw [issueTableFacetQuery] at answered
  split at answered
  · cases answered
  · rename_i own compiledOwn
    cases found : facetRows library snapshot.definitions (snapshot.issues.filter own) facet with
    | error failure =>
        rw [found] at answered
        cases answered
    | ok rows =>
        rw [found] at answered
        cases answered
        have ids : ((snapshot.issues.filter own).map fun issue => issue.id).Nodup :=
          snapshot.ids.sublist (List.filter_sublist.map _)
        have same : own = fun issue =>
            satisfies library snapshot userID (withoutOwnFilter library spec facet) issue &&
              leftBehind library spec facet issue := by
          rw [compiled_satisfies compiledOwn]
          exact funext fun issue => satisfies_alone compiled alone issue
        rw [← same]
        exact facetCounts_of_counts (facetRows_counts texts ids found)

end Queries

section Batch

variable {Id : Type} [DecidableEq Id] {library : Library Id} {snapshot : TableSnapshot Id}
  {userID : Option Id} {spec : QuerySpec} {facet : FacetSpec}

def rowsOf (identity : String) (rows : List (String × String × Nat)) : List (String × Nat) :=
  (rows.filter fun row => row.1 = identity).map Prod.snd

theorem scanRows_ok {rows : List (String × String × Nat)} :
    ∀ {responses : String → Option (List (String × Nat))} {total : Nat},
      (∀ row ∈ rows, row.1 = "__total__" ∨ (responses row.1).isSome) →
      ∃ scanned, scanRows responses total rows = .ok scanned ∧
        (∀ identity, identity ≠ "__total__" →
          scanned.1 identity = (responses identity).map (· ++ rowsOf identity rows)) ∧
        scanned.2 = (((rowsOf "__total__" rows).getLast?).map Prod.snd).getD total := by
  induction rows with
  | nil =>
      intro responses total _
      exact ⟨(responses, total), rfl, fun identity _ => by simp [rowsOf], rfl⟩
  | cons first rest ih =>
      intro responses total known
      obtain ⟨identity, row⟩ := first
      rw [scanRows]
      by_cases isTotal : identity = "__total__"
      · subst isTotal
        rw [if_pos rfl]
        obtain ⟨scanned, done, values, last⟩ := @ih responses row.2
          fun other member => known other (List.mem_cons_of_mem _ member)
        refine ⟨scanned, done, fun other apart => ?_, ?_⟩
        · rw [values other apart]
          simp [rowsOf, Ne.symm apart]
        · rw [last]
          simp only [rowsOf, decide_true, List.filter_cons_of_pos, List.map_cons, List.getLast?_cons]
          cases ((rest.filter fun row => row.1 = "__total__").map Prod.snd).getLast? <;> rfl
      · rw [if_neg isTotal]
        rcases known (identity, row) List.mem_cons_self with same | some
        · exact absurd same isTotal
        · obtain ⟨values, found⟩ := Option.isSome_iff_exists.mp some
          rw [found]
          dsimp only
          obtain ⟨scanned, done, later, last⟩ := @ih
            (Function.update responses identity (Option.some (values ++ [row]))) total (by
              intro other member
              rcases known other (List.mem_cons_of_mem _ member) with same | kept
              · exact Or.inl same
              · refine Or.inr ?_
                by_cases here : other.1 = identity
                · rw [here, Function.update_self]
                  rfl
                · rw [Function.update_of_ne here]
                  exact kept)
          refine ⟨scanned, done, fun other apart => ?_, ?_⟩
          · rw [later other apart]
            by_cases here : other = identity
            · subst here
              simp [rowsOf, found]
            · rw [Function.update_of_ne here]
              simp [rowsOf, Ne.symm here]
          · rw [last]
            simp [rowsOf, isTotal]

theorem rowsOf_append (identity : String) (front back : List (String × String × Nat)) :
    rowsOf identity (front ++ back) = rowsOf identity front ++ rowsOf identity back := by
  simp [rowsOf]

def batchRows (library : Library Id) (matching : List (TableIssue Id)) (spec : QuerySpec) (facet : FacetSpec) :
    List (String × Nat) :=
  match issueTableBaseFacetExpression library spec facet with
  | none => []
  | some expression => groupCount (matching.map expression)

omit [DecidableEq Id] in
theorem groupingSets_eq (matching : List (TableIssue Id)) (facets : List FacetSpec) (includeTotal : Bool) :
    groupingSets library matching spec facets includeTotal =
      (facets.flatMap fun facet =>
        (batchRows library matching spec facet).map fun row => (issueTableFacetIdentity facet, row)) ++
      if includeTotal then [("__total__", "", matching.length)] else [] := by
  rw [groupingSets]
  congr 2
  funext facet
  rw [batchRows]
  cases issueTableBaseFacetExpression library spec facet <;> rfl

theorem rowsOf_map (identity name : String) (rows : List (String × Nat)) :
    rowsOf identity (rows.map fun row => (name, row)) = if name = identity then rows else [] := by
  induction rows with
  | nil => simp [rowsOf]
  | cons first rest ih =>
      have split : rowsOf identity ((first :: rest).map fun row => (name, row)) =
          (if name = identity then [first] else []) ++ rowsOf identity (rest.map fun row => (name, row)) := by
        by_cases same : name = identity <;> simp [rowsOf, same]
      rw [split, ih]
      by_cases same : name = identity <;> simp [same]

theorem rowsOf_flatMap (identity : String) (rows : FacetSpec → List (String × Nat)) (facets : List FacetSpec) :
    rowsOf identity (facets.flatMap fun facet => (rows facet).map fun row => (issueTableFacetIdentity facet, row)) =
      (facets.filter fun facet => issueTableFacetIdentity facet = identity).flatMap rows := by
  induction facets with
  | nil => rfl
  | cons first rest ih =>
      rw [List.flatMap_cons, rowsOf_append, ih, rowsOf_map]
      by_cases here : issueTableFacetIdentity first = identity
      · simp [here]
      · simp [here]

omit [DecidableEq Id] in
theorem identity_of_batched {expression : TableIssue Id → String}
    (batched : issueTableBaseFacetExpression library spec facet = some expression) :
    issueTableFacetIdentity facet ≠ "__total__" := by
  obtain ⟨kind, propertyID⟩ := facet
  rw [issueTableBaseFacetExpression] at batched
  dsimp only at batched
  split at batched
  case h_6 => cases batched
  all_goals simp [issueTableFacetIdentity]

omit [DecidableEq Id] in
theorem issueTableBaseFacetQuery_ok {matching : List (TableIssue Id)} {facets : List FacetSpec}
    (includeTotal : Bool) (distinct : (facets.map issueTableFacetIdentity).Nodup)
    (batchable : ∀ facet ∈ facets, (issueTableBaseFacetExpression library spec facet).isSome) :
    ∃ batched, issueTableBaseFacetQuery library matching spec facets includeTotal = .ok batched ∧
      (∀ facet ∈ facets, batched.1 (issueTableFacetIdentity facet) =
        some (sortValues (batchRows library matching spec facet))) ∧
      batched.2 = if includeTotal then matching.length else 0 := by
  have named : ∀ facet ∈ facets, issueTableFacetIdentity facet ≠ "__total__" := by
    intro facet member
    obtain ⟨expression, found⟩ := Option.isSome_iff_exists.mp (batchable facet member)
    exact identity_of_batched found
  have known : ∀ row ∈ groupingSets library matching spec facets includeTotal, row.1 = "__total__" ∨
      (if row.1 ∈ facets.map issueTableFacetIdentity then some ([] : List (String × Nat)) else none).isSome := by
    intro row member
    rw [groupingSets_eq, List.mem_append] at member
    rcases member with listed | total
    · obtain ⟨facet, inFacets, listed⟩ := List.mem_flatMap.mp listed
      obtain ⟨_, _, rfl⟩ := List.mem_map.mp listed
      right
      rw [if_pos (List.mem_map_of_mem inFacets)]
      rfl
    · left
      split at total
      · rw [List.mem_singleton.mp total]
      · contradiction
  obtain ⟨scanned, done, values, last⟩ := @scanRows_ok _ (fun identity =>
    if identity ∈ facets.map issueTableFacetIdentity then some ([] : List (String × Nat)) else none) 0 known
  refine ⟨_, by rw [issueTableBaseFacetQuery, done]; rfl, fun facet member => ?_, ?_⟩
  · have single := ListLib.filter_key_eq distinct member
    have others : rowsOf (issueTableFacetIdentity facet)
        (if includeTotal then [("__total__", "", matching.length)] else []) = [] := by
      split <;> simp [rowsOf, Ne.symm (named facet member)]
    dsimp only
    rw [values _ (named facet member), if_pos (List.mem_map_of_mem member), groupingSets_eq, rowsOf_append,
      others, rowsOf_flatMap, single]
    simp
  · dsimp only
    have noFacet : (facets.filter fun facet => issueTableFacetIdentity facet = "__total__") = [] :=
      List.filter_eq_nil_iff.mpr fun facet member same => named facet member (decide_eq_true_eq.mp same)
    rw [last, groupingSets_eq, rowsOf_append, rowsOf_flatMap, noFacet]
    cases includeTotal <;> rfl

theorem batchRows_counts {holds : TableIssue Id → Bool}
    (compiled : compileIssueTableQuery library snapshot userID spec = .ok holds)
    (batchable : (issueTableBaseFacetExpression library spec facet).isSome) :
    FacetCounts library snapshot (fun issue =>
      satisfies library snapshot userID (withoutOwnFilter library spec facet) issue &&
        leftBehind library spec facet issue) facet
      (facet.respond (sortValues (batchRows library (snapshot.issues.filter holds) spec facet))) := by
  obtain ⟨expression, batched⟩ := Option.isSome_iff_exists.mp batchable
  have same : holds = fun issue =>
      satisfies library snapshot userID (withoutOwnFilter library spec facet) issue &&
        leftBehind library spec facet issue := by
    rw [compiled_satisfies compiled]
    exact funext fun issue => satisfies_batched batched issue
  rw [← same]
  refine facetCounts_of_counts ?_
  have values : facetValues library snapshot facet = fun issue => [expression issue] := by
    funext issue
    obtain ⟨kind, propertyID⟩ := facet
    rw [issueTableBaseFacetExpression] at batched
    dsimp only at batched
    split at batched
    case h_6 => cases batched
    all_goals
      split at batched
      · cases batched
        rfl
      · cases batched
  rw [values, batchRows, batched]
  exact counts_groupCount_map expression

end Batch

section Requests

variable {Id : Type} [DecidableEq Id] {library : Library Id} {snapshot : TableSnapshot Id}
  {userID : Option Id}

structure Answered (library : Library Id) (snapshot : TableSnapshot Id) (userID : Option Id)
    (request : FacetsRequest) (response : FacetsResponse) : Prop where
  total : request.includeTotal ≠ some false →
    response.total = snapshot.issues.countP (satisfies library snapshot userID request.query)
  facets : List.Forall₂ (fun facet answer =>
      FacetCounts library snapshot (fun issue =>
        satisfies library snapshot userID (withoutOwnFilter library request.query facet) issue &&
          leftBehind library request.query facet issue) facet answer)
    (request.facets.map FacetSpec.normalized) response.facets

theorem listIssueTableFacets_answered (fingerprint : QuerySpec → String) {request : FacetsRequest}
    {response : FacetsResponse} (texts : Function.Injective library.uuidToString)
    (accepted : listIssueTableFacets library fingerprint snapshot userID request = .ok response) :
    Answered library snapshot userID request response := by
  rw [listIssueTableFacets] at accepted
  split at accepted
  · cases accepted
  · split at accepted
    · cases accepted
    · rename_i holds compiled
      dsimp only at accepted
      split at accepted
      · cases accepted
      · rename_i distinct
        have distinct := not_not.mp distinct
        let facets := request.facets.map FacetSpec.normalized
        let includeTotal := request.includeTotal.getD true
        let matching := snapshot.issues.filter holds
        let batchable (facet : FacetSpec) : Bool :=
          (issueTableBaseFacetExpression library request.query facet).isSome
        obtain ⟨batched, total, found, values, counted⟩ : ∃ batched total,
            (if facets.filter batchable = [] then .ok (fun _ => none, if includeTotal then matching.length else 0)
              else issueTableBaseFacetQuery library matching request.query (facets.filter batchable)
                includeTotal) = Except.ok (batched, total) ∧
            (∀ facet ∈ facets.filter batchable, batched (issueTableFacetIdentity facet) =
              some (sortValues (batchRows library matching request.query facet))) ∧
            total = if includeTotal then matching.length else 0 := by
          by_cases none : facets.filter batchable = []
          · rw [if_pos none, none]
            exact ⟨_, _, rfl, fun _ member => absurd member List.not_mem_nil, rfl⟩
          · rw [if_neg none]
            obtain ⟨batched, done, values, counted⟩ := @issueTableBaseFacetQuery_ok _ library request.query
              matching (facets.filter batchable) includeTotal
              (distinct.sublist (List.filter_sublist.map _)) fun facet member => (List.mem_filter.mp member).2
            exact ⟨batched.1, batched.2, done, values, counted⟩
        rw [found] at accepted
        dsimp only at accepted
        cases answers : facets.mapM (fun facet =>
            if batchable facet then
              Except.ok (facet.respond ((batched (issueTableFacetIdentity facet)).getD []))
            else issueTableFacetQuery library snapshot userID request.query facet) with
        | error failure =>
            rw [answers] at accepted
            cases accepted
        | ok responses =>
            rw [answers] at accepted
            cases accepted
            obtain ⟨same, listed, each⟩ := ListLib.mapM_of_ok _ _ (ListLib.ok_of_mapM answers)
            rw [answers] at listed
            cases listed
            constructor
            · intro wanted
              have included : includeTotal = true := by
                cases asked : request.includeTotal with
                | none => simp [includeTotal, asked]
                | some value =>
                    cases value with
                    | true => simp [includeTotal, asked]
                    | false => exact absurd asked wanted
              rw [counted, if_pos included, ← compiled_satisfies compiled, List.countP_eq_length_filter]
            · refine List.Forall₂.imp (fun facet answer answered => ?_)
                ((List.forall₂_and_left facets responses).mpr ⟨fun _ member => member, each⟩)
              obtain ⟨member, answered⟩ := answered
              split at answered
              · rename_i inBatch
                have value := values facet (List.mem_filter.mpr ⟨member, inBatch⟩)
                rw [value, Option.getD_some] at answered
                cases answered
                exact batchRows_counts compiled inBatch
              · rename_i outside
                exact issueTableFacetQuery_counts texts compiled
                  (Option.not_isSome_iff_eq_none.mp outside) answered

/-- The facets of an answer are exact, and its total, exactly where nothing that is left of a facet's
own filter keeps a counted issue out. -/
theorem listIssueTableFacets_exact_iff (library : Library Id) (fingerprint : QuerySpec → String)
    (snapshot : TableSnapshot Id) (userID : Option Id) (request : FacetsRequest) (response : FacetsResponse)
    (texts : Function.Injective library.uuidToString)
    (accepted : listIssueTableFacets library fingerprint snapshot userID request = .ok response) :
    Exact library snapshot userID request response ↔
      ∀ facet ∈ request.facets.map FacetSpec.normalized,
        NothingLeft library snapshot userID request.query facet := by
  obtain ⟨total, facets⟩ := listIssueTableFacets_answered fingerprint texts accepted
  have each : List.Forall₂ (FacetExact library snapshot userID request.query)
      (request.facets.map FacetSpec.normalized) response.facets ↔
      ∀ facet ∈ request.facets.map FacetSpec.normalized,
        NothingLeft library snapshot userID request.query facet :=
    ListLib.forall₂_iff_of_related facets fun _ _ counted => counted.exact_iff
  exact ⟨fun exact => each.mp exact.facets, fun nothing => ⟨total, each.mpr nothing⟩⟩

end Requests

/-! A workspace with one issue, and the id of its property in the form of a URN. -/

def urnLibrary : Library (Fin 3) :=
  { sampleLibrary with
    uuidParse := fun text => [dated.id, undated.id, ancient.id].find? fun id => sampleUUID id = text || "urn:uuid:" ++ sampleUUID id = text }

def facetedIssue : TableIssue (Fin 3) :=
  { sampleIssue dated.id 1767225600000000 none with
    properties := fun id => if id = dated.id then some (.string "a") else none
    creatorType := .member
    creatorID := undated.id
    labels := [ancient.id] }

def facetedSnapshot : TableSnapshot (Fin 3) where
  issues := [facetedIssue]
  ids := List.nodup_singleton _
  definitions := [⟨dated.id, .select, ["a"], false⟩]
  owner _ := none
  agents := []
  squads := []
  running := []

def facetedRequest (assignees : Option (List ActorRef)) (properties : List (String × List String))
    (facets : List FacetSpec) : FacetsRequest :=
  ⟨⟨⟨"workspace", [], "", none, ""⟩,
    ⟨[], [], assignees, false, [], [], false, [], properties, none, false, none, none⟩, "", ⟨"", ""⟩⟩, facets, none⟩

theorem listIssueTableFacets_exact_iff_status :
    Exact urnLibrary facetedSnapshot none (facetedRequest none [] [⟨"status", ""⟩, ⟨"label", ""⟩])
      ⟨"", 1, [⟨"status", "", [("todo", 1)]⟩, ⟨"label", "", [(sampleUUID 2, 1)]⟩]⟩ := by
  refine (listIssueTableFacets_exact_iff urnLibrary (fun _ => "") facetedSnapshot none _ _
    (by unfold Function.Injective; decide +kernel) (by decide +kernel)).mpr ?_
  simp only [NothingLeft]
  decide +kernel

/-- An empty list of assignees under the facet of the assignees, and a property filter with the id in
another spelling. -/
theorem inexact_facets :
    (∃ response, listIssueTableFacets urnLibrary (fun _ => "") facetedSnapshot none
        (facetedRequest (some []) [] [⟨"assignee", ""⟩]) = .ok response ∧
      ¬Exact urnLibrary facetedSnapshot none (facetedRequest (some []) [] [⟨"assignee", ""⟩]) response) ∧
    ∃ response, listIssueTableFacets urnLibrary (fun _ => "") facetedSnapshot none
        (facetedRequest none [("urn:uuid:" ++ sampleUUID 0, ["a"])] [⟨"property", sampleUUID 0⟩]) = .ok response ∧
      ¬Exact urnLibrary facetedSnapshot none
        (facetedRequest none [("urn:uuid:" ++ sampleUUID 0, ["a"])] [⟨"property", sampleUUID 0⟩]) response := by
  constructor
  · refine ⟨⟨"", 0, [⟨"assignee", "", []⟩]⟩, by decide +kernel, fun exact => ?_⟩
    cases exact.facets with
    | cons first _ =>
        have counted := first.counts "__none__"
        revert counted
        decide +kernel
  · refine ⟨⟨"", 0, [⟨"property", sampleUUID 0, []⟩]⟩, by decide +kernel, fun exact => ?_⟩
    cases exact.facets with
    | cons first _ =>
        have counted := first.counts "a"
        revert counted
        decide +kernel

end MulticaOS.IssueTable
