import MulticaOS.IssueLists.BucketRuns
import MulticaOS.IssueLists.Rollback

/-!
What applying the deletion of an issue, once or again, leaves of it in the query cache.
-/

namespace MulticaOS.IssueLists

open IssueTable (Status)
open CacheLib (Cache get set update walk rewrite remove)

inductive DeletionStep where
  | mutate
  | success (metadata : List ParentId)
  | event

def DeletionStep.apply (id : String) (cache : QueryCache) : DeletionStep → Except String QueryCache
  | .mutate => do
      let (mutated, _) ← deleteOnMutate cache id
      return mutated
  | .success metadata => cleanupDeletedIssueCaches cache id metadata
  | .event => do
      let metadata ← collectDeletedIssueCacheMetadata cache id
      cleanupDeletedIssueCaches cache id metadata

def DeletionStep.begins : DeletionStep → Bool
  | .success _ => false
  | _ => true

def applySteps (id : String) (cache : QueryCache) (steps : List DeletionStep) : Except String QueryCache :=
  steps.foldlM (fun cache step => step.apply id cache) cache

def bucketHolds (bucket : IssueStatusBucket) (id : String) : Prop := ∃ issue ∈ bucket.issues, issue.id = id

def pagesHold (pages : List ListIssuesResponse) (id : String) : Prop :=
  ∃ page ∈ pages, ∃ issue ∈ page.issues, issue.id = id

def DropsByOne (before after : Nat) : Prop := 0 < before → after + 1 = before

structure BucketsCleaned (id : String) (before after : ListIssuesCache) : Prop where
  gone : ∀ status, ¬bucketHolds (getBucket after status) id
  counted : ∀ status, bucketHolds (getBucket before status) id →
    DropsByOne (getBucket before status).total (getBucket after status).total
  kept : ∀ status, ¬bucketHolds (getBucket before status) id →
    (getBucket after status).total = (getBucket before status).total

structure PagesCleaned (id : String) (before after : List ListIssuesResponse) : Prop where
  gone : ¬pagesHold after id
  counted : pagesHold before id →
    List.Forall₂ (fun old new => DropsByOne old.total new.total) before after
  kept : ¬pagesHold before id → after = before

structure Cleaned (id : String) (before after : QueryCache) : Prop where
  lists : ∀ key, Option.Rel (BucketsCleaned id) (get before.lists key) (get after.lists key)
  my : ∀ key, Option.Rel (BucketsCleaned id) (get before.my key) (get after.my key)
  flat : ∀ key, Option.Rel (PagesCleaned id) (get before.flat key) (get after.flat key)
  children : ∀ key issues, get after.children key = some issues → ∀ issue ∈ issues, issue.id ≠ id

def DeletionCleans (id : String) (cache : QueryCache) : Prop :=
  ∀ first rest, DeletionStep.begins first = true →
    ∃ after, applySteps id cache (first :: rest) = .ok after ∧ Cleaned id cache after

def InOneBucket (id : String) (data : ListIssuesCache) : Prop :=
  ∀ status other, bucketHolds (getBucket data status) id → bucketHolds (getBucket data other) id →
    status = other

def NoBoards (cache : QueryCache) : Prop := cache.myAssigneeGroups.rows = []

structure Cleanable (id : String) (cache : QueryCache) : Prop where
  boards : NoBoards cache
  lists : ∀ key data, get cache.lists key = some data → InOneBucket id data
  my : ∀ key data, get cache.my key = some data → InOneBucket id data

section
variable {id : String} {data : ListIssuesCache}

theorem location_holds {status : Status} {issue : Issue}
    (located : findIssueLocation data id = some (status, issue)) : bucketHolds (getBucket data status) id :=
  ⟨issue, location_some located⟩

theorem remove_cleaned (one : InOneBucket id data) :
    BucketsCleaned id data (removeIssueFromBuckets data id) := by
  rw [removeIssueFromBuckets]
  cases located : findIssueLocation data id with
  | none =>
      have nowhere : ∀ status, ¬bucketHolds (getBucket data status) id := by
        rintro status ⟨issue, held, same⟩
        exact location_none.mp located status issue held same
      exact ⟨nowhere, fun status held => absurd held (nowhere status), fun _ _ => rfl⟩
  | some place =>
      obtain ⟨status, issue⟩ := place
      have here := location_holds located
      constructor
      · rintro other ⟨left, held, same⟩
        rw [getBucket_setBucket] at held
        split at held
        · simpa [same] using (List.mem_filter.mp held).2
        · next apart => exact apart (one other status ⟨left, held, same⟩ here)
      · intro other held positive
        rw [getBucket_setBucket, if_pos (one other status held here)]
        rw [one other status held here] at positive ⊢
        show (getBucket data status).total - 1 + 1 = _
        omega
      · intro other absent
        have apart : other ≠ status := fun same => absent (same ▸ here)
        rw [getBucket_setBucket, if_neg apart]

theorem remove_gone (nowhere : ∀ status, ¬bucketHolds (getBucket data status) id) :
    removeIssueFromBuckets data id = data := by
  have missing : findIssueLocation data id = none :=
    location_none.mpr fun status issue held same => nowhere status ⟨issue, held, same⟩
  rw [removeIssueFromBuckets, missing]

theorem remove_leaves {status other : Status} (apart : status ≠ other)
    (held : bucketHolds (getBucket data status) id) (twin : bucketHolds (getBucket data other) id) :
    ∃ status, bucketHolds (getBucket (removeIssueFromBuckets data id) status) id := by
  rw [removeIssueFromBuckets]
  cases located : findIssueLocation data id with
  | none => exact ⟨status, held⟩
  | some place =>
      obtain ⟨found, issue⟩ := place
      by_cases first : found = status
      · refine ⟨other, ?_⟩
        simpa [first, Ne.symm apart] using twin
      · refine ⟨status, ?_⟩
        simpa [Ne.symm first] using held

variable {pages : List ListIssuesResponse}

theorem removeFromPages_some (held : pagesHold pages id) :
    removeFromPages id pages = some (pages.map fun page =>
      { issues := page.issues.filter fun issue => issue.id ≠ id, total := page.total - 1 }) := by
  rw [removeFromPages, if_pos]
  obtain ⟨page, listed, issue, held, same⟩ := held
  exact List.any_eq_true.mpr ⟨page, listed, List.any_eq_true.mpr ⟨issue, held, decide_eq_true same⟩⟩

theorem removeFromPages_none (absent : ¬pagesHold pages id) : removeFromPages id pages = none := by
  rw [removeFromPages, if_neg]
  intro found
  obtain ⟨page, listed, found⟩ := List.any_eq_true.mp found
  obtain ⟨issue, held, same⟩ := List.any_eq_true.mp found
  exact absent ⟨page, listed, issue, held, of_decide_eq_true same⟩

theorem removeFromPages_cleaned : PagesCleaned id pages ((removeFromPages id pages).getD pages) := by
  by_cases held : pagesHold pages id
  · rw [removeFromPages_some held, Option.getD_some]
    constructor
    · rintro ⟨page, listed, issue, left, same⟩
      obtain ⟨old, _, rfl⟩ := List.mem_map.mp listed
      simpa [same] using (List.mem_filter.mp left).2
    · intro _
      rw [List.forall₂_map_right_iff]
      apply List.forall₂_same.mpr
      intro page _ positive
      show page.total - 1 + 1 = page.total
      omega
    · exact fun absent => absurd held absent
  · rw [removeFromPages_none held, Option.getD_none]
    exact ⟨held, fun present => absurd present held, fun _ => rfl⟩

end

structure Written (id : String) (before : QueryCache) (metadata : List ParentId) (after : QueryCache) : Prop where
  boards : after.myAssigneeGroups = before.myAssigneeGroups
  lists : ∀ key, get after.lists key = (get before.lists key).map fun data => removeIssueFromBuckets data id
  my : ∀ key, get after.my key = (get before.my key).map fun data => removeIssueFromBuckets data id
  flat : ∀ key, get after.flat key =
    (get before.flat key).map fun pages => (removeFromPages id pages).getD pages
  children : ∀ key issues, get after.children key = some issues →
    ∃ old, get before.children key = some old ∧
      issues = if key ∈ metadata then old.filter (fun issue => issue.id ≠ id) else old

section
variable {id : String} {cache : QueryCache}

theorem underMy_ok (boards : NoBoards cache) :
    ∃ located, cache.underMy.mapM (MyEntry.findLocation id) = .ok located := by
  obtain ⟨located, walked, _⟩ := ListLib.mapM_of_ok (MyEntry.findLocation id) cache.underMy (by
    intro entry listed
    rw [QueryCache.underMy, boards, List.map_nil, List.append_nil] at listed
    obtain ⟨list, _, rfl⟩ := List.mem_map.mp listed
    exact ⟨_, rfl⟩)
  exact ⟨located, walked⟩

theorem underMy_error (boards : ¬NoBoards cache) :
    ∃ message, cache.underMy.mapM (MyEntry.findLocation id) = .error message := by
  cases walked : cache.underMy.mapM (MyEntry.findLocation id) with
  | error message => exact ⟨message, rfl⟩
  | ok located =>
      obtain ⟨entry, loaded⟩ := List.exists_mem_of_ne_nil _ boards
      have listed : MyEntry.board entry.2 ∈ cache.underMy :=
        List.mem_append.mpr (.inr (List.mem_map.mpr ⟨entry, loaded, rfl⟩))
      obtain ⟨location, found⟩ := ListLib.ok_of_mapM walked _ listed
      cases found

theorem pruneLists_ok (boards : NoBoards cache) :
    pruneDeletedIssueFromListCaches cache id = .ok { cache with
      lists := walk cache.lists fun _ data => removeIssueFromBuckets data id
      my := walk cache.my fun _ data => removeIssueFromBuckets data id
      flat := rewrite cache.flat fun _ pages => removeFromPages id pages } := by
  obtain ⟨located, walked⟩ := @underMy_ok id cache boards
  rw [pruneDeletedIssueFromListCaches, walked]
  rfl

theorem collect_ok (boards : NoBoards cache) :
    ∃ metadata, collectDeletedIssueCacheMetadata cache id = .ok metadata ∧
      ∀ key issues, get cache.children key = some issues → (∃ issue ∈ issues, issue.id = id) →
        key ∈ metadata := by
  obtain ⟨located, walked⟩ := @underMy_ok id cache boards
  rw [collectDeletedIssueCacheMetadata, walked]
  refine ⟨_, rfl, ?_⟩
  rintro key issues found ⟨issue, held, same⟩
  rw [List.mem_eraseDups, List.mem_append]
  right
  refine List.mem_map.mpr ⟨(key, issues), List.mem_filter.mpr ⟨CacheLib.mem_rows.mpr found, ?_⟩, rfl⟩
  exact List.any_eq_true.mpr ⟨issue, held, decide_eq_true same⟩

theorem written (metadata : List ParentId) :
    Written id cache metadata (pruneDeletedIssueFromParentChildrenCaches { cache with
      lists := walk cache.lists fun _ data => removeIssueFromBuckets data id
      my := walk cache.my fun _ data => removeIssueFromBuckets data id
      flat := rewrite cache.flat fun _ pages => removeFromPages id pages } id metadata) where
  boards := rfl
  lists _ := CacheLib.get_walk
  my _ := CacheLib.get_walk
  flat _ := CacheLib.get_rewrite
  children key issues found := by
    rw [pruneChildren_get] at found
    split at found
    · next listed =>
        obtain ⟨old, stored, rfl⟩ := Option.map_eq_some_iff.mp found
        exact ⟨old, stored, (if_pos listed).symm⟩
    · next absent => exact ⟨issues, found, (if_neg absent).symm⟩

theorem cleanup_written (boards : NoBoards cache) (metadata : List ParentId) :
    ∃ after, cleanupDeletedIssueCaches cache id metadata = .ok after ∧ Written id cache metadata after := by
  rw [cleanupDeletedIssueCaches, pruneLists_ok boards]
  refine ⟨_, rfl, ?_⟩
  obtain ⟨sameBoards, lists, my, flat, children⟩ := @written id cache metadata
  refine ⟨sameBoards, lists, my, flat, fun key issues found => children key issues ?_⟩
  dsimp only at found
  split at found
  · exact found
  · next own _ =>
      by_cases same : key = own
      · rw [same, CacheLib.get_remove_self] at found
        cases found
      · rwa [CacheLib.get_remove_ne same] at found

theorem step_written (boards : NoBoards cache) (step : DeletionStep) :
    ∃ after metadata, step.apply id cache = .ok after ∧ Written id cache metadata after ∧
      (step.begins = true → ∀ key issues, get cache.children key = some issues →
        (∃ issue ∈ issues, issue.id = id) → key ∈ metadata) := by
  obtain ⟨metadata, collected, complete⟩ := @collect_ok id cache boards
  cases step with
  | mutate =>
      obtain ⟨sameBoards, lists, my, flat, children⟩ := @written id cache metadata
      rw [DeletionStep.apply, deleteOnMutate, collected, pruneLists_ok boards]
      exact ⟨_, metadata, rfl, ⟨sameBoards, lists, my, flat, children⟩, fun _ => complete⟩
  | success given =>
      obtain ⟨after, cleaned, wrote⟩ := @cleanup_written id cache boards given
      exact ⟨after, given, cleaned, wrote, fun begins => by cases begins⟩
  | event =>
      obtain ⟨after, cleaned, wrote⟩ := @cleanup_written id cache boards metadata
      refine ⟨after, metadata, ?_, wrote, fun _ => complete⟩
      rw [DeletionStep.apply, collected]
      exact cleaned

theorem step_error (boards : ¬NoBoards cache) {step : DeletionStep} (begins : step.begins = true) :
    ∃ message, step.apply id cache = .error message := by
  obtain ⟨message, walked⟩ := @underMy_error id cache boards
  have collected : collectDeletedIssueCacheMetadata cache id = .error message := by
    rw [collectDeletedIssueCacheMetadata, walked]
    rfl
  refine ⟨message, ?_⟩
  cases step with
  | mutate =>
      rw [DeletionStep.apply, deleteOnMutate, collected]
      rfl
  | success metadata => cases begins
  | event =>
      rw [DeletionStep.apply, collected]
      rfl

end

structure Gone (id : String) (cache : QueryCache) : Prop where
  boards : NoBoards cache
  lists : ∀ key data, get cache.lists key = some data → ∀ status, ¬bucketHolds (getBucket data status) id
  my : ∀ key data, get cache.my key = some data → ∀ status, ¬bucketHolds (getBucket data status) id
  flat : ∀ key pages, get cache.flat key = some pages → ¬pagesHold pages id
  children : ∀ key issues, get cache.children key = some issues → ∀ issue ∈ issues, issue.id ≠ id

theorem rel_map_each {Value : Type} {related : Value → Value → Prop} {change : Value → Value}
    (value : Option Value) (each : ∀ data, value = some data → related data (change data)) :
    Option.Rel related value (value.map change) := by
  cases value with
  | none => exact .none
  | some data => exact .some (each data rfl)

section
variable {id : String} {cache : QueryCache}

theorem first_cleaned (cleanable : Cleanable id cache) {step : DeletionStep} (begins : step.begins = true) :
    ∃ after, step.apply id cache = .ok after ∧ Cleaned id cache after ∧ Gone id after := by
  obtain ⟨after, metadata, applied, wrote, complete⟩ := @step_written id cache cleanable.boards step
  have children : ∀ key issues, get after.children key = some issues → ∀ issue ∈ issues, issue.id ≠ id := by
    intro key issues found issue listed same
    obtain ⟨old, stored, rfl⟩ := wrote.children key issues found
    by_cases named : key ∈ metadata
    · rw [if_pos named] at listed
      simpa [same] using (List.mem_filter.mp listed).2
    · rw [if_neg named] at listed
      exact named (complete begins key old stored ⟨issue, listed, same⟩)
  have cleaned : Cleaned id cache after := by
    refine ⟨fun key => ?_, fun key => ?_, fun key => ?_, children⟩
    · rw [wrote.lists]
      exact rel_map_each _ fun data stored => remove_cleaned (cleanable.lists key data stored)
    · rw [wrote.my]
      exact rel_map_each _ fun data stored => remove_cleaned (cleanable.my key data stored)
    · rw [wrote.flat]
      exact rel_map_each _ fun pages _ => removeFromPages_cleaned
  refine ⟨after, applied, cleaned, ?_, ?_, ?_, ?_, children⟩
  · exact (congrArg UpsertLib.Table.rows wrote.boards).trans cleanable.boards
  · intro key data found
    have related := cleaned.lists key
    rw [found] at related
    generalize get cache.lists key = before at related
    cases related with
    | some same => exact same.gone
  · intro key data found
    have related := cleaned.my key
    rw [found] at related
    generalize get cache.my key = before at related
    cases related with
    | some same => exact same.gone
  · intro key pages found
    have related := cleaned.flat key
    rw [found] at related
    generalize get cache.flat key = before at related
    cases related with
    | some same => exact same.gone

theorem again_gone (gone : Gone id cache) (step : DeletionStep) :
    ∃ after, step.apply id cache = .ok after ∧ Gone id after ∧
      (∀ key, get after.lists key = get cache.lists key) ∧ (∀ key, get after.my key = get cache.my key) ∧
      ∀ key, get after.flat key = get cache.flat key := by
  obtain ⟨after, metadata, applied, wrote, -⟩ := @step_written id cache gone.boards step
  have lists : ∀ key, get after.lists key = get cache.lists key := by
    intro key
    rw [wrote.lists]
    cases stored : get cache.lists key with
    | none => rfl
    | some data => exact congrArg some (remove_gone (gone.lists key data stored))
  have my : ∀ key, get after.my key = get cache.my key := by
    intro key
    rw [wrote.my]
    cases stored : get cache.my key with
    | none => rfl
    | some data => exact congrArg some (remove_gone (gone.my key data stored))
  have flat : ∀ key, get after.flat key = get cache.flat key := by
    intro key
    rw [wrote.flat]
    cases stored : get cache.flat key with
    | none => rfl
    | some pages =>
        rw [Option.map_some, removeFromPages_none (gone.flat key pages stored)]
        rfl
  refine ⟨after, applied, ⟨?_, ?_, ?_, ?_, ?_⟩, lists, my, flat⟩
  · exact (congrArg UpsertLib.Table.rows wrote.boards).trans gone.boards
  · exact fun key data found => gone.lists key data ((lists key).symm.trans found)
  · exact fun key data found => gone.my key data ((my key).symm.trans found)
  · exact fun key pages found => gone.flat key pages ((flat key).symm.trans found)
  · intro key issues found issue listed
    obtain ⟨old, stored, rfl⟩ := wrote.children key issues found
    apply gone.children key old stored issue
    split at listed
    · exact List.mem_of_mem_filter listed
    · exact listed

theorem steps_gone (gone : Gone id cache) (steps : List DeletionStep) :
    ∃ after, applySteps id cache steps = .ok after ∧ Gone id after ∧
      (∀ key, get after.lists key = get cache.lists key) ∧ (∀ key, get after.my key = get cache.my key) ∧
      ∀ key, get after.flat key = get cache.flat key := by
  induction steps generalizing cache with
  | nil => exact ⟨cache, rfl, gone, fun _ => rfl, fun _ => rfl, fun _ => rfl⟩
  | cons step rest ih =>
      obtain ⟨next, applied, nextGone, lists, my, flat⟩ := again_gone gone step
      obtain ⟨after, later, afterGone, laterLists, laterMy, laterFlat⟩ := ih nextGone
      refine ⟨after, ?_, afterGone, fun key => (laterLists key).trans (lists key),
        fun key => (laterMy key).trans (my key), fun key => (laterFlat key).trans (flat key)⟩
      rw [applySteps, List.foldlM_cons, applied]
      exact later

theorem deletion_cleans_iff (id : String) (cache : QueryCache) :
    DeletionCleans id cache ↔ Cleanable id cache := by
  constructor
  · intro cleans
    obtain ⟨after, applied, cleaned⟩ := cleans .event [] rfl
    have boards : NoBoards cache := by
      by_contra loaded
      obtain ⟨message, fault⟩ := @step_error id cache loaded .event rfl
      rw [applySteps, List.foldlM_cons, fault] at applied
      cases applied
    obtain ⟨only, metadata, done, wrote, -⟩ := @step_written id cache boards .event
    have same : only = after := by
      rw [applySteps, List.foldlM_cons, done] at applied
      cases applied
      rfl
    subst same
    refine ⟨boards, ?_, ?_⟩
    · intro key data stored status other held twin
      by_contra apart
      obtain ⟨left, still⟩ := remove_leaves apart held twin
      have related := cleaned.lists key
      rw [wrote.lists, stored] at related
      cases related with
      | some clean => exact clean.gone left still
    · intro key data stored status other held twin
      by_contra apart
      obtain ⟨left, still⟩ := remove_leaves apart held twin
      have related := cleaned.my key
      rw [wrote.my, stored] at related
      cases related with
      | some clean => exact clean.gone left still
  · intro cleanable first rest begins
    obtain ⟨next, applied, cleaned, gone⟩ := first_cleaned cleanable begins
    obtain ⟨after, later, afterGone, lists, my, flat⟩ := steps_gone gone rest
    refine ⟨after, ?_, ?_, ?_, ?_, afterGone.children⟩
    · rw [applySteps, List.foldlM_cons, applied]
      exact later
    · exact fun key => (lists key).symm ▸ cleaned.lists key
    · exact fun key => (my key).symm ▸ cleaned.my key
    · exact fun key => (flat key).symm ▸ cleaned.flat key

end

/-! A board of my issues by assignee, with nothing else loaded. -/

def boardCache : QueryCache :=
  { inboxCache with myAssigneeGroups := ⟨[("board", [])], by decide⟩ }

theorem deletion_throws_on_board : ¬DeletionCleans "survey" boardCache := by
  intro cleans
  obtain ⟨after, applied, _⟩ := cleans .event [] rfl
  have loaded : ¬NoBoards boardCache := by simp [NoBoards, boardCache]
  obtain ⟨message, fault⟩ := @step_error "survey" boardCache loaded .event rfl
  rw [applySteps, List.foldlM_cons, fault] at applied
  cases applied

end MulticaOS.IssueLists
