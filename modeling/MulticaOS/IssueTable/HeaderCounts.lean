import MulticaOS.IssueTable.HeaderWalks
import MulticaOS.IssueTable.Walks

/-!
The headers of a plain group on one snapshot: a walk over them accounts for every matching issue once, and
their keys select what they count.
-/

namespace MulticaOS.IssueTable

open KeysetLib

structure Accounts {Id : Type} [DecidableEq Id] (library : Library Id) (snapshot : Snapshot Id)
    (group : ResolvedGroup Id) (pages : List GroupsResponse) : Prop where
  distinct : ((pages.flatMap GroupsResponse.groups).map Descriptor.key).Nodup
  counts : ∀ header ∈ pages.flatMap GroupsResponse.groups, ∃ value,
    Keyed library group value header.key ∧ header.count = group.issueCount library snapshot value
  complete : ∀ issue ∈ matching snapshot, ∃ header ∈ pages.flatMap GroupsResponse.groups,
    Keyed library group (group.expression library issue) header.key
  total : ∀ page ∈ pages, page.total = (matching snapshot).length

section Counts

variable {Id : Type} [LinearOrder Id] {library : Library Id} {snapshot : Snapshot Id} {group : ResolvedGroup Id}

def plainRow (library : Library Id) (snapshot : Snapshot Id) (group : ResolvedGroup Id) (value : String) :
    GroupRow :=
  ⟨value, group.issueCount library snapshot value, group.issueCount library snapshot value, fun _ => 0⟩

theorem grouped_plain (plain : group.base = group) (distinct : group.expected.Nodup) (includeEmpty : Bool) :
    ∃ values : List String, group.grouped library snapshot includeEmpty =
        values.map (plainRow library snapshot group) ∧ values.Nodup ∧
      (∀ value ∈ group.actual library snapshot, value ∈ values) ∧
      ∀ value ∈ values, value ∈ group.expected ∨ value ∈ group.actual library snapshot := by
  have dedup : (group.actual library snapshot).Nodup := List.nodup_dedup _
  refine ⟨if includeEmpty then group.expected ++ (group.actual library snapshot).filter (fun value =>
    decide (value ∉ group.expected)) else group.actual library snapshot, ?_, ?_⟩
  · cases group with
    | compound primary visible filtered =>
        rw [ResolvedGroup.base] at plain
        exact absurd (congrArg sizeOf plain) (by simp; omega)
    | _ => rfl
  · cases includeEmpty with
    | false => exact ⟨dedup, fun _ actual => actual, fun _ kept => .inr kept⟩
    | true =>
        refine ⟨List.nodup_append'.mpr ⟨distinct, dedup.filter _, fun value expected kept => ?_⟩,
          fun value actual => ?_, fun value kept => ?_⟩
        · simpa [expected] using (List.mem_filter.mp kept).2
        · by_cases expected : value ∈ group.expected <;> simp [expected, actual]
        · exact (List.mem_append.mp kept).imp_right fun actual => (List.mem_filter.mp actual).1

omit [LinearOrder Id] in
theorem expected_grouped {value : String} (expected : value ∈ group.expected) :
    GroupedValue library group value := by
  cases group with
  | property id type =>
      cases type with
      | select activeOptions =>
          rcases List.mem_append.mp expected with option | unset
          · obtain ⟨name, active, rfl⟩ := List.mem_map.mp option
            exact .option id activeOptions name active
          · rw [List.mem_singleton.mp unset]
            exact .unset id _
      | checkbox =>
          simp only [ResolvedGroup.expected, List.mem_cons, List.not_mem_nil, or_false] at expected
          rcases expected with rfl | rfl | rfl
          · exact .checked id false
          · exact .checked id true
          · exact .unset id _
  | _ => cases expected

structure Shows (library : Library Id) (snapshot : Snapshot Id) (group : ResolvedGroup Id) (value : String)
    (header : Descriptor) : Prop where
  described : ∃ parent shown, group.describe library value parent = .ok (header.key, shown)
  keyed : Keyed library group value header.key
  count : header.count = group.issueCount library snapshot value

theorem heads_plain (ids : CanonicalIDs library) (plain : group.base = group) (issuePrefix : String) {value : String}
    (grouped : GroupedValue library group value) :
    ∃ header, Heads library snapshot issuePrefix group (plainRow library snapshot group value) header ∧
      Shows library snapshot group value header := by
  obtain ⟨key, shown, described, keyed⟩ := describe_keyed ids grouped
    (group.contextExpression library snapshot issuePrefix value)
  refine ⟨⟨key, shown, group.issueCount library snapshot value, []⟩, ?_, ⟨_, shown, described⟩, keyed, rfl⟩
  cases group with
  | compound primary visible filtered => cases described
  | _ =>
      rw [Heads, ResolvedGroup.descriptor, plainRow, described]
      exact nofun

theorem rank_injective {left right : String} (same : group.headerRank library snapshot
    (plainRow library snapshot group left) = group.headerRank library snapshot (plainRow library snapshot group right)) :
    left = right := congrArg (fun rank => (ofLex (ofLex rank).2).2) same

/-- A client that follows the cursors over one snapshot gets every group of its matching issues in one
header, under a key that is its own and selects its issues. -/
theorem headers_account (ids : CanonicalIDs library) (plain : group.base = group) (grouped : group ≠ .ungrouped)
    (assigned : ∀ issue ∈ snapshot.issues, issue.assigned) (options : group.expected.Nodup)
    {issuePrefix : String} {request : GroupsRequest} {limit : Nat}
    (limited : pageLimit request.page.limit = .ok limit)
    (resolved : resolveIssueTableGroup library snapshot.definitions request.group false = .ok group)
    {requests : Nat} (enough : (group.grouped library snapshot request.group.includeEmpty).length < requests) :
    ∃ pages, walkGroups library issuePrefix request .absent (List.replicate requests snapshot) = .finished pages ∧
      Accounts library snapshot group pages := by
  obtain ⟨values, shape, distinct, actual, listed⟩ :=
    @grouped_plain Id _ library snapshot group plain options request.group.includeEmpty
  have each : ∀ value ∈ values, GroupedValue library group value := by
    intro value member
    rcases listed value member with expected | counted
    · exact expected_grouped expected
    · obtain ⟨issue, inside, rfl⟩ := List.mem_map.mp (List.mem_dedup.mp counted)
      exact expression_grouped (assigned issue (List.mem_filter.mp inside).1) plain grouped
  have rows : ∀ row ∈ group.grouped library snapshot request.group.includeEmpty, ∃ value ∈ values,
      row = plainRow library snapshot group value := by
    intro row member
    rw [shape] at member
    obtain ⟨value, kept, same⟩ := List.mem_map.mp member
    exact ⟨value, kept, same.symm⟩
  have headed : ∀ row ∈ group.grouped library snapshot request.group.includeEmpty, ∃ header,
      Heads library snapshot issuePrefix group row header ∧ Shows library snapshot group row.value header := by
    intro row member
    obtain ⟨value, kept, rfl⟩ := rows row member
    exact heads_plain ids plain issuePrefix (each value kept)
  have ranks : ((group.grouped library snapshot request.group.includeEmpty).map
      (group.headerRank library snapshot)).Nodup := by
    rw [shape, List.map_map]
    exact distinct.map fun _ _ same => rank_injective same
  have order : (following (group.headerRank library snapshot) none
      (group.grouped library snapshot request.group.includeEmpty)).Perm
        (group.grouped library snapshot request.group.includeEmpty) := by
    rw [following]
    simpa using List.perm_insertionSort _ _
  obtain ⟨pages, walked, heads, totals⟩ := walkGroups_replicate limited resolved
    (fun row member => (headed row member).imp fun _ both => both.1) ranks .head
    (fun some none => some (List.nil_perm.mp (none ▸ order))) (order.length_eq ▸ enough)
  have shows : List.Forall₂ (fun row header => Shows library snapshot group row.value header)
      (following (group.headerRank library snapshot) none
        (group.grouped library snapshot request.group.includeEmpty))
      (pages.flatMap GroupsResponse.groups) := by
    refine ((List.forall₂_and_left _ _).mpr ⟨fun row member => headed row (order.mem_iff.mp member), heads⟩).imp ?_
    rintro row header ⟨⟨made, same, shows⟩, here⟩
    exact Except.ok.inj (same.symm.trans here) ▸ shows
  refine ⟨pages, walked, ?_, fun header member => ?_, fun issue inside => ?_, fun page member => ?_⟩
  · refine List.pairwise_map.mpr (ListLib.pairwise_of_forall₂ ?_ shows
      (List.pairwise_map.mp ((order.map _).nodup_iff.mpr ranks)))
    rintro left right first second shownLeft shownRight apart same
    obtain ⟨parent, shown, described⟩ := shownLeft.described
    obtain ⟨otherParent, otherShown, otherDescribed⟩ := shownRight.described
    rw [← same] at otherDescribed
    refine apart ?_
    rw [ResolvedGroup.headerRank, ResolvedGroup.headerRank, describe_injective ids described otherDescribed]
  · obtain ⟨row, -, shows⟩ := (ListLib.exists_of_forall₂ shows).2 header member
    exact ⟨row.value, shows.keyed, shows.count⟩
  · have counted := actual _ (List.mem_dedup.mpr (List.mem_map_of_mem inside))
    have listed := order.mem_iff.mpr (shape ▸ List.mem_map_of_mem (f := plainRow library snapshot group) counted)
    obtain ⟨header, member, shows⟩ := (ListLib.exists_of_forall₂ shows).1 _ listed
    exact ⟨header, member, shows.keyed⟩
  · rw [totals page member, shape, List.map_map, ← List.sum_toFinset _ distinct, ← List.length_map
      (f := group.expression library), ← Multiset.coe_card]
    rw [← Multiset.sum_count_eq_card fun value member => List.mem_toFinset.mpr
      (actual value (List.mem_dedup.mpr (Multiset.mem_coe.mp member)))]
    refine Finset.sum_congr rfl fun value _ => ?_
    rw [Multiset.coe_count, List.count, List.countP_map]
    rfl

end Counts

def sampleGroups : GroupsRequest where
  query := ⟨"sha256:0", ⟨"position", "asc"⟩⟩
  group := ⟨"status", "", false, "", "", none⟩
  page := ⟨1, .absent⟩

theorem sample_headers_account :
    ∃ pages, walkGroups sampleLibrary "MUL" sampleGroups .absent
        (List.replicate 2 (sampleSnapshot [dated, undated])) = .finished pages ∧
      Accounts sampleLibrary (sampleSnapshot [dated, undated]) .status pages :=
  @headers_account (Fin 3) _ sampleLibrary (sampleSnapshot [dated, undated]) .status
    ⟨by decide +kernel, fun id => dense_of_all (by revert id; decide), by decide +kernel⟩
    rfl nofun (by unfold Issue.assigned; decide) (by decide) "MUL" sampleGroups 1 rfl rfl 2 (by decide +kernel)

end MulticaOS.IssueTable
