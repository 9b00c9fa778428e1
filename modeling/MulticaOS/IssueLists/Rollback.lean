import MulticaOS.IssueLists.Mutations
import MulticaOS.Lib.Lists

/-!
What a failed mutation of issues leaves in the query cache.
-/

namespace MulticaOS.IssueLists

open IssueTable (Status)
open CacheLib (Cache get set update rewrite rewritten restore firstWins remove Covers covers_refl covers_rows)

structure SameContent (before after : QueryCache) : Prop where
  lists : ∀ key, get after.lists key = get before.lists key
  my : ∀ key, get after.my key = get before.my key
  myAssigneeGroups : ∀ key, get after.myAssigneeGroups key = get before.myAssigneeGroups key
  flat : ∀ key, get after.flat key = get before.flat key
  flatExports : ∀ key, get after.flatExports key = get before.flatExports key
  tableRows : ∀ key, get after.tableRows key = get before.tableRows key
  children : ∀ key, get after.children key = get before.children key
  details : ∀ key, get after.details key = get before.details key
  inbox : after.inbox = before.inbox
  archivedInbox : after.archivedInbox = before.archivedInbox

/-! The archived inbox list is patched with the main one. -/

def patchEachInbox (ids : List String) (status : Status) (items : List InboxItem) : List InboxItem :=
  ids.foldl (fun items id => patchInboxItems id status items) items

def archivedAfter (cache : QueryCache) (ids : List String) (patch : IssuePatch) : Option (List InboxItem) :=
  match patch.status, cache.inbox with
  | some status, some _ => cache.archivedInbox.map (patchEachInbox ids status)
  | _, _ => cache.archivedInbox

theorem patchEachInbox_same {ids : List String} {status : Status} {items : List InboxItem} :
    patchEachInbox ids status items = items ↔
      ∀ item ∈ items, ∀ id ∈ ids, item.issueId = some id → item.issueStatus = some status := by
  have each : patchEachInbox ids status items = items.map fun item =>
      if ∃ id ∈ ids, item.issueId = some id then { item with issueStatus := some status } else item := by
    induction ids generalizing items with
    | nil => simp [patchEachInbox]
    | cons id rest ih =>
        rw [patchEachInbox, List.foldl_cons, ← patchEachInbox, ih, patchInboxItems, List.map_map]
        apply List.map_congr_left
        intro item _
        by_cases own : item.issueId = some id
        · simp [own]
        · simp [own]
  have same : patchEachInbox ids status items = items ↔ ∀ item ∈ items,
      (if ∃ id ∈ ids, item.issueId = some id then { item with issueStatus := some status } else item) =
        id item := by
    rw [each, ← List.map_inj_left, List.map_id]
  rw [same]
  constructor
  · intro same item listed id member of
    have kept := same item listed
    rw [if_pos ⟨id, member, of⟩] at kept
    exact congrArg InboxItem.issueStatus kept.symm
  · intro shown item listed
    split
    · next patched =>
        obtain ⟨id, member, of⟩ := patched
        rw [← shown item listed id member of]
        rfl
    · rfl

structure Undoes (before after : QueryCache) (snapshots : BatchSnapshots) : Prop where
  lists : Covers before.lists after.lists snapshots.prevLists
  my : Covers before.my after.my snapshots.prevMyLists
  flat : Covers before.flat after.flat snapshots.prevFlatLists
  tableRows : Covers before.tableRows after.tableRows snapshots.prevTableRows
  details : Covers before.details after.details snapshots.prevDetailById
  inbox : snapshots.prevInboxList.or after.inbox = before.inbox
  loaded : after.inbox.isSome = before.inbox.isSome
  myAssigneeGroups : after.myAssigneeGroups = before.myAssigneeGroups
  flatExports : after.flatExports = before.flatExports
  children : after.children = before.children

theorem undoes_refl (cache : QueryCache) : Undoes cache cache .empty where
  lists := covers_refl _
  my := covers_refl _
  flat := covers_refl _
  tableRows := covers_refl _
  details := covers_refl _
  inbox := rfl
  loaded := rfl
  myAssigneeGroups := rfl
  flatExports := rfl
  children := rfl

section
variable {before after : QueryCache} {snapshots : BatchSnapshots} (id : String) (patch : IssuePatch)
  (changed : IssueChangedDims) (base : Option Issue)

theorem applyIssueChange_families (cache : QueryCache) :
    let next := (applyIssueChange id patch changed base cache).1
    next.lists = rewrite cache.lists (fun key data => (changeList id patch changed base key data).1) ∧
    next.my = rewrite cache.my (fun key data => (changeMyList id patch changed base key data).1) ∧
    next.flat = rewrite cache.flat (fun key data => (changeFlat id patch changed base key data).1) ∧
    next.tableRows = rewrite cache.tableRows (fun _ data => changeTable id patch data) ∧
    next.details = update cache.details id patch.apply ∧
    next.myAssigneeGroups = cache.myAssigneeGroups ∧ next.flatExports = cache.flatExports ∧
    next.children = cache.children := by
  simp only [applyIssueChange]
  split <;> exact ⟨rfl, rfl, rfl, rfl, rfl, rfl, rfl, rfl⟩

theorem applyIssueChange_inbox (cache : QueryCache) :
    let changes := applyIssueChange id patch changed base cache
    changes.2.prevInboxList.or changes.1.inbox = cache.inbox ∧
      changes.1.inbox.isSome = cache.inbox.isSome ∧
      changes.1.archivedInbox = archivedAfter cache [id] patch := by
  simp only [applyIssueChange, archivedAfter]
  cases status : patch.status with
  | none => exact ⟨rfl, rfl, rfl⟩
  | some status =>
      cases loaded : cache.inbox with
      | none => exact ⟨rfl, rfl, rfl⟩
      | some items => exact ⟨rfl, by simp [patchInboxIssueStatus], rfl⟩

theorem mapSet_fresh {Data : Type} {entries : List (String × Data)} {key : String} {data : Data}
    (fresh : key ∉ entries.map Prod.fst) :
    mapSet entries key data = firstWins entries [(key, data)] := by
  rw [mapSet, if_neg fresh, firstWins]
  simp only [List.filter_cons, List.filter_nil]
  rw [if_pos (decide_eq_true fresh)]

theorem Undoes.change (undoes : Undoes before after snapshots)
    (fresh : id ∉ snapshots.prevDetailById.map Prod.fst) :
    Undoes before (applyIssueChange id patch changed base after).1
      (snapshots.add id (applyIssueChange id patch changed base after).2) := by
  obtain ⟨lists, my, flat, tableRows, details, boards, exports, children⟩ :=
    applyIssueChange_families id patch changed base after
  obtain ⟨inbox, loaded, _⟩ := applyIssueChange_inbox id patch changed base after
  constructor
  · rw [lists]
    exact undoes.lists.rewrite _
  · rw [my]
    exact undoes.my.rewrite _
  · rw [flat]
    exact undoes.flat.rewrite _
  · rw [tableRows]
    exact undoes.tableRows.rewrite _
  · rw [details]
    have covered := undoes.details.update id patch.apply
    have saved : (snapshots.add id (applyIssueChange id patch changed base after).2).prevDetailById =
        firstWins snapshots.prevDetailById ((get after.details id).toList.map fun data => (id, data)) := by
      cases found : get after.details id with
      | none => simp [BatchSnapshots.add, applyIssueChange, found, firstWins]
      | some issue =>
          have set := @mapSet_fresh _ _ _ issue fresh
          simpa [BatchSnapshots.add, applyIssueChange, found] using set
    rw [saved]
    exact covered
  · show (snapshots.prevInboxList.or _).or _ = _
    rw [Option.or_assoc, inbox]
    exact undoes.inbox
  · exact loaded.trans undoes.loaded
  · exact boards.trans undoes.myAssigneeGroups
  · exact exports.trans undoes.flatExports
  · exact children.trans undoes.children

end

theorem mapSet_keys {Data : Type} {entries : List (String × Data)} {key other : String} {data : Data}
    (listed : other ∈ (mapSet entries key data).map Prod.fst) :
    other = key ∨ other ∈ entries.map Prod.fst := by
  rw [mapSet] at listed
  split at listed
  · next present =>
      obtain ⟨entry, member, rfl⟩ := List.mem_map.mp listed
      obtain ⟨old, stored, rfl⟩ := List.mem_map.mp member
      split
      · exact .inl rfl
      · exact .inr (List.mem_map_of_mem stored)
  · rw [List.map_append, List.mem_append] at listed
    rcases listed with old | new
    · exact .inr old
    · exact .inl (by simpa using new)

theorem changeEach_undoes {before after : QueryCache} {snapshots : BatchSnapshots} (patch : IssuePatch)
    {ids : List String} (distinct : ids.Nodup) (undoes : Undoes before after snapshots)
    (fresh : ∀ id ∈ ids, id ∉ snapshots.prevDetailById.map Prod.fst) :
    Undoes before (changeEach patch ids (after, snapshots)).1 (changeEach patch ids (after, snapshots)).2 := by
  induction ids generalizing after snapshots with
  | nil => exact undoes
  | cons id rest ih =>
      rw [List.nodup_cons] at distinct
      simp only [changeEach]
      apply ih distinct.2
      · exact undoes.change id patch _ _ (fresh id (by simp))
      · intro other listed saved
        have earlier : other ∉ snapshots.prevDetailById.map Prod.fst :=
          fresh other (List.mem_cons_of_mem _ listed)
        simp only [BatchSnapshots.add] at saved
        split at saved
        · exact earlier saved
        · rcases mapSet_keys saved with rfl | old
          · exact distinct.1 listed
          · exact earlier old

theorem changeEach_archived (patch : IssuePatch) (ids : List String) (cache : QueryCache)
    (snapshots : BatchSnapshots) :
    (changeEach patch ids (cache, snapshots)).1.archivedInbox = archivedAfter cache ids patch := by
  induction ids generalizing cache snapshots with
  | nil =>
      simp only [changeEach, archivedAfter]
      split
      · exact (congrFun Option.map_id _).symm
      · rfl
  | cons id rest ih =>
      simp only [changeEach]
      obtain ⟨-, loaded, archived⟩ := applyIssueChange_inbox id patch
        (issueChangedDims patch (get cache.details id)) (get cache.details id) cache
      rw [ih]
      simp only [archivedAfter, archived]
      cases status : patch.status with
      | none => rfl
      | some status =>
          cases before : cache.inbox with
          | none =>
              rw [before, Option.isSome_none, Option.isSome_eq_false_iff, Option.isNone_iff_eq_none] at loaded
              rw [loaded]
          | some items =>
              rw [before, Option.isSome_some, Option.isSome_iff_exists] at loaded
              obtain ⟨later, loaded⟩ := loaded
              rw [loaded]
              simp only [Option.map_map]
              rfl

/-- A status patch of a loaded inbox also patches the archived list, which shows another status for
one of the issues. -/
def MarksArchive (cache : QueryCache) (ids : List String) (patch : IssuePatch) : Prop :=
  ∃ status ∈ patch.status, cache.inbox.isSome = true ∧ ∃ items ∈ cache.archivedInbox, ∃ item ∈ items,
    (∃ id ∈ ids, item.issueId = some id) ∧ item.issueStatus ≠ some status

theorem archivedAfter_same {cache : QueryCache} {ids : List String} {patch : IssuePatch} :
    archivedAfter cache ids patch = cache.archivedInbox ↔ ¬MarksArchive cache ids patch := by
  simp only [archivedAfter, MarksArchive]
  cases given : patch.status with
  | none => simp
  | some status =>
      cases loaded : cache.inbox with
      | none => simp
      | some _ =>
          cases archived : cache.archivedInbox with
          | none => simp
          | some items =>
              simp only [Option.map_some, Option.some.injEq, patchEachInbox_same]
              constructor
              · rintro shown ⟨_, same, -, _, stored, item, listed, ⟨id, member, of⟩, differs⟩
                cases same
                cases stored
                exact differs (shown item listed id member of)
              · intro kept item listed id member of
                by_contra differs
                exact kept ⟨status, rfl, rfl, items, rfl, item, listed, ⟨id, member, of⟩, differs⟩

theorem batchUpdate_restores (cache : QueryCache) {ids : List String} (distinct : ids.Nodup)
    (patch : IssuePatch) :
    SameContent cache (batchUpdateOnError (batchUpdateOnMutate cache ids patch).1
        (batchUpdateOnMutate cache ids patch).2) ↔ ¬MarksArchive cache ids patch := by
  have undoes := changeEach_undoes patch distinct (undoes_refl cache) (by simp [BatchSnapshots.empty])
  have archived := changeEach_archived patch ids cache .empty
  rw [← archivedAfter_same, ← archived]
  constructor
  · intro same
    exact same.archivedInbox
  · intro same
    have children := (covers_refl (changeEach patch ids (cache, .empty)).1.children).rewrite
      fun (_ : ParentId) children => if children.any fun child => child.id ∈ ids then
        some (patchChildren ids patch children) else none
    rw [CacheLib.firstWins_nil] at children
    constructor
    · exact undoes.lists.restored
    · exact undoes.my.restored
    · exact fun key => congrArg (get · key) undoes.myAssigneeGroups
    · exact undoes.flat.restored
    · exact fun key => congrArg (get · key) undoes.flatExports
    · exact undoes.tableRows.restored
    · intro key
      exact (children.restored key).trans (congrArg (get · key) undoes.children)
    · exact undoes.details.restored
    · exact undoes.inbox
    · exact same

theorem rollback_same (cache : QueryCache) (id : String) (patch : IssuePatch) (changed : IssueChangedDims)
    (base : Option Issue) {children : Cache ParentId (List Issue)}
    (kept : ∀ key, get children key = get cache.children key) :
    SameContent cache { rollbackIssueChange (applyIssueChange id patch changed base cache).1 id
        (applyIssueChange id patch changed base cache).2 with children := children } ↔
      ¬MarksArchive cache [id] patch := by
  have undoes := (undoes_refl cache).change id patch changed base (by simp [BatchSnapshots.empty])
  obtain ⟨-, -, archived⟩ := applyIssueChange_inbox id patch changed base cache
  rw [← archivedAfter_same, ← archived]
  constructor
  · intro same
    exact same.archivedInbox
  · intro same
    obtain ⟨lists, my, flat, tableRows, details, inbox, -, boards, exports, -⟩ := undoes
    simp only [BatchSnapshots.add, BatchSnapshots.empty, CacheLib.firstWins_nil, Option.none_or] at *
    constructor
    · exact lists.restored
    · exact my.restored
    · exact fun key => congrArg (get · key) boards
    · exact flat.restored
    · exact fun key => congrArg (get · key) exports
    · exact tableRows.restored
    · exact kept
    · intro key
      have restored := details.restored key
      simp only [rollbackIssueChange]
      cases prev : (applyIssueChange id patch changed base cache).2.prevDetail with
      | none =>
          rw [prev] at restored
          exact restored
      | some issue =>
          rw [prev] at restored
          exact restored
    · exact inbox
    · exact same

theorem update_restores (cache : QueryCache) (id : String) (patch : IssuePatch) :
    SameContent cache (updateOnError (updateOnMutate cache id patch).1 (updateOnMutate cache id patch).2) ↔
      ¬MarksArchive cache [id] patch := by
  have families := applyIssueChange_families id patch (issueChangedDims patch (get cache.details id))
    (get cache.details id) cache
  have untouched := families.2.2.2.2.2.2.2
  simp only [updateOnMutate, updateOnError]
  cases resolveParentId _ _ _ _ with
  | none => exact rollback_same cache id patch _ _ fun key => congrArg (get · key) untouched
  | some parentId =>
      simp only [Option.bind_some]
      cases loaded : get (applyIssueChange id patch (issueChangedDims patch (get cache.details id))
          (get cache.details id) cache).1.children parentId with
      | none =>
          apply rollback_same cache id patch
          intro key
          rw [CacheLib.update, loaded, untouched]
      | some children =>
          apply rollback_same cache id patch
          intro key
          by_cases own : key = parentId
          · rw [own, CacheLib.get_set_self, ← untouched, loaded]
          · refine (CacheLib.get_set_ne own).trans (CacheLib.get_update.trans ?_)
            rw [if_neg own, untouched]

/-- A pruned cache has no new entry in any family; the children apart, and the issue's own detail. -/
structure Pruned (before after : QueryCache) : Prop where
  lists : ∀ key, get before.lists key = none → get after.lists key = none
  my : ∀ key, get before.my key = none → get after.my key = none
  flat : ∀ key, get before.flat key = none → get after.flat key = none
  myAssigneeGroups : after.myAssigneeGroups = before.myAssigneeGroups
  flatExports : after.flatExports = before.flatExports
  tableRows : after.tableRows = before.tableRows
  details : after.details = before.details
  inbox : after.inbox = before.inbox
  archivedInbox : after.archivedInbox = before.archivedInbox

theorem Pruned.trans {first second third : QueryCache} (left : Pruned first second)
    (right : Pruned second third) : Pruned first third where
  lists key missing := right.lists key (left.lists key missing)
  my key missing := right.my key (left.my key missing)
  flat key missing := right.flat key (left.flat key missing)
  myAssigneeGroups := right.myAssigneeGroups.trans left.myAssigneeGroups
  flatExports := right.flatExports.trans left.flatExports
  tableRows := right.tableRows.trans left.tableRows
  details := right.details.trans left.details
  inbox := right.inbox.trans left.inbox
  archivedInbox := right.archivedInbox.trans left.archivedInbox

theorem pruneLists_pruned {cache pruned : QueryCache} {id : String}
    (done : pruneDeletedIssueFromListCaches cache id = .ok pruned) :
    Pruned cache pruned ∧ pruned.children = cache.children := by
  rw [pruneDeletedIssueFromListCaches] at done
  cases walked : cache.underMy.mapM (MyEntry.findLocation id) with
  | error message =>
      rw [walked] at done
      cases done
  | ok located =>
      rw [walked] at done
      cases done
      refine ⟨⟨?_, ?_, ?_, rfl, rfl, rfl, rfl, rfl, rfl⟩, rfl⟩
      · intro key missing
        exact CacheLib.get_walk.trans (by rw [missing, Option.map_none])
      · intro key missing
        exact CacheLib.get_walk.trans (by rw [missing, Option.map_none])
      · intro key missing
        exact CacheLib.get_rewrite.trans (by rw [missing, Option.map_none])

theorem pruneChildren_get (cache : QueryCache) (id : String) (metadata : List ParentId) (key : ParentId) :
    get (pruneDeletedIssueFromParentChildrenCaches cache id metadata).children key =
      if key ∈ metadata then
        (get cache.children key).map fun children => children.filter fun issue => issue.id ≠ id
      else get cache.children key := by
  simp only [pruneDeletedIssueFromParentChildrenCaches]
  generalize cache.children = children
  induction metadata generalizing children with
  | nil => rfl
  | cons parentId rest ih =>
      rw [List.foldl_cons, ih, CacheLib.get_update]
      by_cases own : key = parentId
      · cases get children key with
        | none => simp [own]
        | some issues => simp [own]
      · simp [own]

theorem pruneChildren_pruned (cache : QueryCache) (id : String) (metadata : List ParentId) :
    Pruned cache (pruneDeletedIssueFromParentChildrenCaches cache id metadata) where
  lists _ missing := missing
  my _ missing := missing
  flat _ missing := missing
  myAssigneeGroups := rfl
  flatExports := rfl
  tableRows := rfl
  details := rfl
  inbox := rfl
  archivedInbox := rfl

theorem pruneEach_spec {metadataById : List (String × List ParentId)} {cache pruned : QueryCache}
    (done : pruneEach metadataById cache = .ok pruned) :
    Pruned cache pruned ∧ ∀ key, (key ∉ metadataById.flatMap Prod.snd ∨ get cache.children key = none) →
      get pruned.children key = get cache.children key := by
  induction metadataById generalizing cache with
  | nil =>
      cases done
      exact ⟨⟨fun _ => id, fun _ => id, fun _ => id, rfl, rfl, rfl, rfl, rfl, rfl⟩, fun _ _ => rfl⟩
  | cons entry rest ih =>
      obtain ⟨own, metadata⟩ := entry
      rw [pruneEach] at done
      cases first : pruneDeletedIssueFromListCaches cache own with
      | error message =>
          rw [first] at done
          cases done
      | ok next =>
          rw [first] at done
          obtain ⟨here, same⟩ := pruneLists_pruned first
          obtain ⟨later, kept⟩ := ih done
          constructor
          · exact here.trans ((pruneChildren_pruned next own metadata).trans later)
          · intro key outside
            have now : get (pruneDeletedIssueFromParentChildrenCaches next own metadata).children key =
                get cache.children key := by
              rw [pruneChildren_get, same]
              rcases outside with absent | missing
              · rw [if_neg fun listed => absent (by simp [listed])]
              · rw [missing]
                simp
            rw [kept key, now]
            rcases outside with absent | missing
            · left
              exact fun listed => absent (by simp [listed])
            · right
              rw [now, missing]

theorem loadedChildren_covers {before after : QueryCache} {parents : List ParentId} (distinct : parents.Nodup)
    (kept : ∀ key, (key ∉ parents ∨ get before.children key = none) →
      get after.children key = get before.children key) :
    Covers before.children after.children (loadedChildren before parents) where
  unique := by
    have keys : ((loadedChildren before parents).map Prod.fst).Sublist parents := by
      clear distinct kept
      induction parents with
      | nil => exact List.Sublist.refl _
      | cons parentId rest ih =>
          rw [loadedChildren, List.filterMap_cons]
          cases get before.children parentId with
          | none => exact ih.cons parentId
          | some children => exact ih.cons_cons parentId
    exact keys.nodup distinct
  saved := by
    intro snapshot listed
    obtain ⟨parentId, _, loaded⟩ := List.mem_filterMap.mp listed
    obtain ⟨children, found, rfl⟩ := Option.map_eq_some_iff.mp loaded
    exact found
  rest := by
    intro key absent
    apply kept
    by_cases listed : key ∈ parents
    · right
      apply Option.eq_none_iff_forall_ne_some.mpr
      intro children found
      refine absent (List.mem_map.mpr ⟨(key, children), List.mem_filterMap.mpr ⟨key, listed, ?_⟩, rfl⟩)
      rw [found, Option.map_some]
    · exact .inl listed

theorem collect_distinct {cache : QueryCache} {id : String} {metadata : List ParentId}
    (collected : collectDeletedIssueCacheMetadata cache id = .ok metadata) : metadata.Nodup := by
  rw [collectDeletedIssueCacheMetadata] at collected
  cases walked : cache.underMy.mapM (MyEntry.findLocation id) with
  | error message =>
      rw [walked] at collected
      cases collected
  | ok located =>
      rw [walked] at collected
      cases collected
      exact ListLib.nodup_eraseDups _

theorem deleteOnError_same {before after : QueryCache} {id : String} {parents : List ParentId}
    {prevDetail : Option Issue} {details : Cache String Issue} (pruned : Pruned before after)
    (children : Covers before.children after.children (loadedChildren before parents))
    (restored : ∀ key, get (restoreDetail details id prevDetail) key = get before.details key) :
    SameContent before (deleteOnError { after with details := details } id
      (snapshotLists before parents prevDetail)) where
  lists := (covers_rows pruned.lists).restored
  my := (covers_rows pruned.my).restored
  myAssigneeGroups := (covers_rows fun _ missing => pruned.myAssigneeGroups ▸ missing).restored
  flat := (covers_rows pruned.flat).restored
  flatExports := (covers_rows fun _ missing => pruned.flatExports ▸ missing).restored
  tableRows key := congrArg (get · key) pruned.tableRows
  children := children.restored
  details := restored
  inbox := pruned.inbox
  archivedInbox := pruned.archivedInbox

theorem delete_restores {cache after : QueryCache} {id : String} {context : DeleteContext}
    (mutated : deleteOnMutate cache id = .ok (after, context)) :
    SameContent cache (deleteOnError after id context) := by
  rw [deleteOnMutate] at mutated
  cases collected : collectDeletedIssueCacheMetadata cache id with
  | error message =>
      rw [collected] at mutated
      cases mutated
  | ok metadata =>
      cases done : pruneDeletedIssueFromListCaches cache id with
      | error message =>
          rw [collected, done] at mutated
          cases mutated
      | ok pruned =>
          rw [collected, done] at mutated
          cases mutated
          obtain ⟨listsPruned, same⟩ := pruneLists_pruned done
          apply deleteOnError_same
          · exact listsPruned.trans (pruneChildren_pruned pruned id metadata)
          · apply loadedChildren_covers (collect_distinct collected)
            intro key outside
            rw [pruneChildren_get, same]
            rcases outside with absent | missing
            · rw [if_neg absent]
            · rw [missing]
              simp
          · intro key
            cases prev : get cache.details id with
            | none =>
                by_cases own : key = id
                · rw [own, prev]
                  exact CacheLib.get_remove_self
                · refine (CacheLib.get_remove_ne own).trans ?_
                  exact congrArg (get · key) listsPruned.details
            | some issue =>
                by_cases own : key = id
                · rw [own, prev]
                  exact CacheLib.get_set_self
                · refine (CacheLib.get_set_ne own).trans ((CacheLib.get_remove_ne own).trans ?_)
                  exact congrArg (get · key) listsPruned.details

theorem batchDelete_restores {cache after : QueryCache} {ids : List String} {context : DeleteContext}
    (id : String) (mutated : batchDeleteOnMutate cache ids = .ok (after, context)) :
    SameContent cache (deleteOnError after id context) := by
  rw [batchDeleteOnMutate] at mutated
  cases collected : ids.mapM fun id => (do
      let metadata ← collectDeletedIssueCacheMetadata cache id
      return (id, metadata) : Except String (String × List ParentId)) with
  | error message =>
      rw [collected] at mutated
      cases mutated
  | ok metadataById =>
      have opened : (do
          let pruned ← pruneEach metadataById cache
          return (pruned, snapshotLists cache (metadataById.flatMap Prod.snd).eraseDups none)) =
            Except.ok (after, context) := by
        rw [collected] at mutated
        exact mutated
      cases done : pruneEach metadataById cache with
      | error message =>
          rw [done] at opened
          cases opened
      | ok pruned =>
          rw [done] at opened
          cases opened
          obtain ⟨listsPruned, kept⟩ := pruneEach_spec done
          apply deleteOnError_same listsPruned
          · apply loadedChildren_covers (ListLib.nodup_eraseDups _)
            intro key outside
            rw [List.mem_eraseDups] at outside
            exact kept key outside
          · exact fun key => congrArg (get · key) listsPruned.details

inductive IssueMutation where
  | update (id : String) (patch : IssuePatch)
  | batchUpdate (ids : List String) (distinct : ids.Nodup) (patch : IssuePatch)
  | delete (id : String)
  | batchDelete (ids : List String)

/-- The cache after `onMutate` and then `onError`.  Where `onMutate` throws there is no context, and
nothing is restored. -/
def failed (cache : QueryCache) : IssueMutation → QueryCache
  | .update id patch =>
      let (mutated, context) := updateOnMutate cache id patch
      updateOnError mutated context
  | .batchUpdate ids _ patch =>
      let (mutated, context) := batchUpdateOnMutate cache ids patch
      batchUpdateOnError mutated context
  | .delete id =>
      match deleteOnMutate cache id with
      | .error _ => cache
      | .ok (mutated, context) => deleteOnError mutated id context
  | .batchDelete ids =>
      match batchDeleteOnMutate cache ids with
      | .error _ => cache
      | .ok (mutated, context) => deleteOnError mutated "" context

def marksArchive (cache : QueryCache) : IssueMutation → Prop
  | .update id patch => MarksArchive cache [id] patch
  | .batchUpdate ids _ patch => MarksArchive cache ids patch
  | .delete _ => False
  | .batchDelete _ => False

theorem sameContent_refl (cache : QueryCache) : SameContent cache cache where
  lists _ := rfl
  my _ := rfl
  myAssigneeGroups _ := rfl
  flat _ := rfl
  flatExports _ := rfl
  tableRows _ := rfl
  children _ := rfl
  details _ := rfl
  inbox := rfl
  archivedInbox := rfl

theorem failed_restores_iff (cache : QueryCache) (mutation : IssueMutation) :
    SameContent cache (failed cache mutation) ↔ ¬marksArchive cache mutation := by
  cases mutation with
  | update id patch => exact update_restores cache id patch
  | batchUpdate ids distinct patch => exact batchUpdate_restores cache distinct patch
  | delete id =>
      refine iff_of_true ?_ not_false
      rw [failed]
      cases mutated : deleteOnMutate cache id with
      | error message => exact sameContent_refl cache
      | ok result => exact delete_restores mutated
  | batchDelete ids =>
      refine iff_of_true ?_ not_false
      rw [failed]
      cases mutated : batchDeleteOnMutate cache ids with
      | error message => exact sameContent_refl cache
      | ok result => exact batchDelete_restores "" mutated

/-! A notification in the archive, of an issue that is being closed. -/

def closing : IssuePatch := { IssuePatch.empty with status := some .done }

def archivedNotice : InboxItem where
  id := "notice"
  issueId := some "survey"
  issueStatus := some .todo
  title := "Survey"
  read := true
  archived := true

def inboxCache : QueryCache where
  lists := UpsertLib.Table.empty
  my := UpsertLib.Table.empty
  myAssigneeGroups := UpsertLib.Table.empty
  flat := UpsertLib.Table.empty
  flatExports := UpsertLib.Table.empty
  tableRows := UpsertLib.Table.empty
  children := UpsertLib.Table.empty
  details := UpsertLib.Table.empty
  inbox := some []
  archivedInbox := some [archivedNotice]

theorem failed_update_marks_archive : ¬SameContent inboxCache (failed inboxCache (.update "survey" closing)) := by
  intro same
  exact absurd same.archivedInbox (by decide +kernel)

end MulticaOS.IssueLists
