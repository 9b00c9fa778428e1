import MulticaOS.IssueTable.Walks
import MulticaOS.Lib.Aggregates

/-!
The rows of a hierarchy: the root branch and the branches below the matching issues list each of these once,
and the count of a row is the size of the branch below it.
-/

namespace MulticaOS.IssueTable

variable {Id : Type} [LinearOrder Id] {library : Library Id} {snapshot : Snapshot Id} {root : Branch Id}

def Branch.below (root : Branch Id) (parent : Id) : Branch Id := { root with place := .below parent }

theorem compileBranch_root {definitions : List (Property Id)} {spec : GroupSpec} {sort : SortRequest}
    {groupKey : Option String} (compiled : compileBranch library definitions spec sort true none groupKey = .ok root) :
    root.place = .root ∧ ∀ parent, library.parseUUID (library.uuidToString parent) = some parent →
      compileBranch library definitions spec sort true (some (library.uuidToString parent)) groupKey =
        .ok (root.below parent) := by
  rw [compileBranch] at compiled
  split at compiled
  · cases compiled
  · rename_i grouped
    split at compiled
    · cases compiled
    · rename_i sorted
      split at compiled
      · cases compiled
      · rename_i predicated
        cases compiled
        refine ⟨rfl, fun parent parsed => ?_⟩
        simp [compileBranch, grouped, sorted, predicated, parsed, Branch.below]

theorem rows_below (root : Branch Id) (parent : Id) :
    (root.below parent).rows snapshot = (root.membership snapshot).filter fun issue =>
      issue.parentIssueID = some parent && decide (parent ∈ (root.membership snapshot).map Issue.id) := by
  refine List.filter_congr fun issue _ => congrArg (issue.parentIssueID = some parent && ·) ?_
  rw [Bool.eq_iff_iff, List.any_eq_true, decide_eq_true_eq, List.mem_map]
  simp only [decide_eq_true_eq]
  rfl

structure Hierarchy (library : Library Id) (snapshot : Snapshot Id) (spec : GroupSpec) (sort : SortRequest)
    (groupKey : Option String) (root : Branch Id) : Prop where
  compiles : ∀ parent, compileBranch library snapshot.definitions spec sort true
    (some (library.uuidToString parent)) groupKey = .ok (root.below parent)
  once : (root.rows snapshot ++ (root.membership snapshot).flatMap fun parent =>
    (root.below parent.id).rows snapshot).Perm (root.membership snapshot)
  counted : ∀ issue ∈ root.membership snapshot, ∀ branch, branch = root ∨ (∃ parent, branch = root.below parent) →
    branch.directChildCount snapshot issue = ((root.below issue.id).rows snapshot).length

theorem hierarchy_lists_once (parse : ∀ id, library.parseUUID (library.uuidToString id) = some id)
    (distinct : (snapshot.issues.map Issue.id).Nodup) {spec : GroupSpec} {sort : SortRequest} {groupKey : Option String}
    (compiled : compileBranch library snapshot.definitions spec sort true none groupKey = .ok root) :
    Hierarchy library snapshot spec sort groupKey root := by
  obtain ⟨isRoot, compiles⟩ := compileBranch_root compiled
  refine ⟨fun parent => compiles parent (parse parent), ?_, ?_⟩
  · have members : ((root.membership snapshot).map Issue.id).Nodup := distinct.sublist (List.filter_sublist.map _)
    have children := AggregateLib.perm_flatMap_filter Issue.parentIssueID (root.membership snapshot) members
    have parts := List.filter_append_perm
      (fun issue => !(issue.parentIssueID.any (· ∈ (root.membership snapshot).map Issue.id))) (root.membership snapshot)
    refine List.Perm.trans (List.Perm.append (.of_eq ?_) (List.Perm.trans (.of_eq ?_) (children.trans (.of_eq ?_)))) parts
    · rw [Branch.rows, isRoot]
      refine List.filter_congr fun issue _ => ?_
      cases issue.parentIssueID with
      | none => rfl
      | some parent =>
          rw [Bool.eq_iff_iff]
          simp
    · rw [List.flatMap_map]
      refine List.flatMap_congr fun parent member => ?_
      rw [rows_below]
      simp [List.mem_map_of_mem member]
    · simp
  · intro issue member branch asked
    have counts : branch.directChildCount snapshot issue =
        (root.membership snapshot).countP fun child => child.parentIssueID = some issue.id := by
      rcases asked with rfl | ⟨parent, rfl⟩
      · rw [Branch.directChildCount, isRoot]
      · rfl
    rw [counts, rows_below, List.countP_eq_length_filter]
    simp [List.mem_map_of_mem member]

theorem sample_hierarchy : Hierarchy sampleLibrary (sampleSnapshot [dated, { undated with parentIssueID := some 0 }])
    ⟨"none", "", false, "", "", none⟩ ⟨"due_date", "asc"⟩ none { sampleBranch .asc with place := .root } :=
  hierarchy_lists_once (by decide) (by decide) rfl

end MulticaOS.IssueTable
