import MulticaOS.IssueLists.Buckets
import MulticaOS.Lib.Runs

/-!
Runs of operations on a bucketed cache: when every state they pass through is well formed.
-/

namespace MulticaOS.IssueLists

open IssueTable (Status)
open RunLib (run Always Every)

structure WellFormed (cache : ListIssuesCache) : Prop where
  distinct : ∀ status, ((getBucket cache status).issues.map Issue.id).Nodup
  apart : ∀ status other, other ≠ status → ∀ issue ∈ (getBucket cache status).issues,
    ∀ twin ∈ (getBucket cache other).issues, twin.id ≠ issue.id
  own : ∀ status, ∀ issue ∈ (getBucket cache status).issues, issue.status = status
  counted : ∀ status, (getBucket cache status).issues.length ≤ (getBucket cache status).total

inductive BucketOp where
  | add (issue : Issue)
  | remove (id : String)
  | patch (id : String) (patch : IssuePatch) (keeps : patch.id.getD id = id)
  | move (source target : Status)
  | decrement (status : Status)
  | append (status : Status) (page : StatusPage status)

def applyOp (cache : ListIssuesCache) : BucketOp → ListIssuesCache
  | .add issue => addIssueToBuckets cache issue
  | .remove id => removeIssueFromBuckets cache id
  | .patch id patch _ => patchIssueInBuckets cache id patch
  | .move source target => moveBucketTotal cache source target
  | .decrement status => decrementBucketTotal cache status
  | .append _ page => appendPage cache page

def Spare (bucket : IssueStatusBucket) : Prop :=
  bucket.issues = [] ∨ bucket.issues.length < bucket.total

def elsewhere (cache : ListIssuesCache) (issue : Issue) (status : Status) : Prop :=
  ∃ other, other ≠ status ∧ ∃ twin ∈ (getBucket cache other).issues, twin.id = issue.id

def fresh (cache : ListIssuesCache) (status : Status) (issues : List Issue) : List Issue :=
  issues.filter fun issue => !((getBucket cache status).issues.map Issue.id).contains issue.id

def Safe (cache : ListIssuesCache) : BucketOp → Prop
  | .add issue => ¬elsewhere cache issue issue.status
  | .remove _ => True
  | .patch _ _ _ => True
  | .move source target => source = target ∨ Spare (getBucket cache source)
  | .decrement status => Spare (getBucket cache status)
  | .append status page => (∀ issue ∈ page.issues, ¬elsewhere cache issue status) ∧
      (getBucket cache status).issues.length + (fresh cache status page.issues).length ≤ page.total

structure Fits (cache : ListIssuesCache) (status : Status) (bucket : IssueStatusBucket) : Prop where
  distinct : (bucket.issues.map Issue.id).Nodup
  apart : ∀ issue ∈ bucket.issues, ¬elsewhere cache issue status
  own : ∀ issue ∈ bucket.issues, issue.status = status
  counted : bucket.issues.length ≤ bucket.total

section
variable {cache : ListIssuesCache} {status : Status} {bucket : IssueStatusBucket}

theorem setBucket_wellFormed (wellFormed : WellFormed cache) :
    WellFormed (setBucket cache status bucket) ↔ Fits cache status bucket := by
  constructor
  · intro next
    constructor
    · simpa using next.distinct status
    · rintro issue held ⟨other, different, twin, listed, same⟩
      refine next.apart status other different issue (by simpa using held) twin ?_ same
      simpa [different] using listed
    · simpa using next.own status
    · simpa using next.counted status
  · intro fits
    constructor
    · intro other
      by_cases same : other = status
      · simpa [same] using fits.distinct
      · simpa [same] using wellFormed.distinct other
    · intro one other different issue held twin listed same
      rw [getBucket_setBucket] at held listed
      split at held <;> split at listed
      · next left right => exact different (right.trans left.symm)
      · next left right => exact fits.apart issue held ⟨other, right, twin, listed, same⟩
      · next left right => exact fits.apart twin listed ⟨one, left, issue, held, same.symm⟩
      · exact wellFormed.apart one other different issue held twin listed same
    · intro other issue held
      rw [getBucket_setBucket] at held
      split at held
      · next same => rw [same, fits.own issue held]
      · exact wellFormed.own other issue held
    · intro other
      by_cases same : other = status
      · simpa [same] using fits.counted
      · simpa [same] using wellFormed.counted other

theorem WellFormed.fits (wellFormed : WellFormed cache) (status : Status) :
    Fits cache status (getBucket cache status) where
  distinct := wellFormed.distinct status
  apart issue held := by
    rintro ⟨other, different, twin, listed, same⟩
    exact wellFormed.apart status other different issue held twin listed same
  own := wellFormed.own status
  counted := wellFormed.counted status

theorem Fits.perm {issues : List Issue} {total : Nat} (fits : Fits cache status bucket)
    (same : issues.Perm bucket.issues) (counted : issues.length ≤ total) :
    Fits cache status { issues := issues, total := total } where
  distinct := (same.map Issue.id).nodup_iff.mpr fits.distinct
  apart issue held := fits.apart issue (same.mem_iff.mp held)
  own issue held := fits.own issue (same.mem_iff.mp held)
  counted := counted

theorem Fits.sublist {issues : List Issue} {total : Nat} (fits : Fits cache status bucket)
    (part : issues.Sublist bucket.issues) (counted : issues.length ≤ total) :
    Fits cache status { issues := issues, total := total } where
  distinct := (part.map Issue.id).nodup fits.distinct
  apart issue held := fits.apart issue (part.subset held)
  own issue held := fits.own issue (part.subset held)
  counted := counted

theorem Fits.renewed {issue merged : Issue} {issues : List Issue} {total : Nat}
    (fits : Fits cache status bucket) (held : issue ∈ bucket.issues) (sameId : merged.id = issue.id)
    (own : merged.status = status) (distinct : (issues.map Issue.id).Nodup)
    (members : ∀ other ∈ issues, other = merged ∨ other ∈ bucket.issues)
    (counted : issues.length ≤ total) : Fits cache status { issues := issues, total := total } where
  distinct := distinct
  apart other listed := by
    rcases members other listed with rfl | before
    · rintro ⟨status, different, twin, found, same⟩
      exact fits.apart issue held ⟨status, different, twin, found, same.trans sameId⟩
    · exact fits.apart other before
  own other listed := by
    rcases members other listed with rfl | before
    · exact own
    · exact fits.own other before
  counted := counted

theorem WellFormed.insert (wellFormed : WellFormed cache) {issue : Issue} {issues : List Issue}
    (nowhere : ∀ status, ∀ twin ∈ (getBucket cache status).issues, twin.id ≠ issue.id)
    (grown : issues.Perm (issue :: (getBucket cache issue.status).issues)) :
    WellFormed (setBucket cache issue.status
      { issues := issues, total := (getBucket cache issue.status).total + 1 }) := by
  rw [setBucket_wellFormed wellFormed]
  have fits := wellFormed.fits issue.status
  have added : Fits cache issue.status
      { issues := issue :: (getBucket cache issue.status).issues,
        total := (getBucket cache issue.status).total + 1 } := by
    constructor
    · rw [List.map_cons, List.nodup_cons]
      refine ⟨fun listed => ?_, fits.distinct⟩
      obtain ⟨twin, held, same⟩ := List.mem_map.mp listed
      exact nowhere _ twin held same
    · intro other held
      rcases List.mem_cons.mp held with rfl | held
      · rintro ⟨status, _, twin, listed, same⟩
        exact nowhere status twin listed same
      · exact fits.apart other held
    · intro other held
      rcases List.mem_cons.mp held with rfl | held
      · rfl
      · exact fits.own other held
    · rw [List.length_cons]
      exact Nat.succ_le_succ fits.counted
  exact added.perm grown (by rw [grown.length_eq]; exact added.counted)

theorem filter_shorter {issues : List Issue} {issue : Issue} (held : issue ∈ issues) :
    (issues.filter fun other => other.id ≠ issue.id).length < issues.length := by
  apply List.length_filter_lt_length_iff_exists.mpr
  exact ⟨issue, held, by simp⟩

theorem WellFormed.without (wellFormed : WellFormed cache) {issue : Issue}
    (held : issue ∈ (getBucket cache status).issues) :
    WellFormed (setBucket cache status
      { issues := (getBucket cache status).issues.filter fun other => other.id ≠ issue.id,
        total := (getBucket cache status).total - 1 }) := by
  rw [setBucket_wellFormed wellFormed]
  apply (wellFormed.fits status).sublist List.filter_sublist
  have shorter := filter_shorter held
  have counted := wellFormed.counted status
  omega

theorem without_nowhere (wellFormed : WellFormed cache) {issue : Issue} {total : Nat}
    (held : issue ∈ (getBucket cache status).issues) (other : Status) :
    ∀ twin ∈ (getBucket (setBucket cache status
      { issues := (getBucket cache status).issues.filter fun other => other.id ≠ issue.id,
        total := total }) other).issues, twin.id ≠ issue.id := by
  intro twin listed
  rw [getBucket_setBucket] at listed
  split at listed
  · simpa using (List.mem_filter.mp listed).2
  · next different => exact wellFormed.apart status other different issue held twin listed

end

section
variable {cache : ListIssuesCache} (wellFormed : WellFormed cache)
include wellFormed

theorem add_wellFormed (issue : Issue) :
    WellFormed (addIssueToBuckets cache issue) ↔ Safe cache (.add issue) := by
  by_cases present : (getBucket cache issue.status).issues.any (fun other => other.id = issue.id) = true
  · rw [addIssueToBuckets, if_pos present]
    refine iff_of_true wellFormed ?_
    rintro ⟨status, different, twin, listed, same⟩
    obtain ⟨other, held, twins⟩ := List.any_eq_true.mp present
    have equal : other.id = issue.id := of_decide_eq_true twins
    exact wellFormed.apart issue.status status different other held twin listed (same.trans equal.symm)
  · have missing : ∀ twin ∈ (getBucket cache issue.status).issues, twin.id ≠ issue.id := by
      intro twin held same
      exact present (List.any_eq_true.mpr ⟨twin, held, decide_eq_true same⟩)
    rw [addIssueToBuckets, if_neg present]
    constructor
    · intro next
      exact ((setBucket_wellFormed wellFormed).mp next).apart issue (by simp)
    · intro safe
      apply wellFormed.insert
      · intro status twin held same
        by_cases own : status = issue.status
        · exact missing twin (own ▸ held) same
        · exact safe ⟨status, own, twin, held, same⟩
      · exact List.perm_append_singleton _ _

theorem remove_wellFormed (id : String) : WellFormed (removeIssueFromBuckets cache id) := by
  rw [removeIssueFromBuckets]
  cases located : findIssueLocation cache id with
  | none => exact wellFormed
  | some place =>
      obtain ⟨status, issue⟩ := place
      obtain ⟨held, rfl⟩ := location_some located
      exact wellFormed.without held

theorem patch_wellFormed (id : String) (patch : IssuePatch) (keeps : patch.id.getD id = id) :
    WellFormed (patchIssueInBuckets cache id patch) := by
  simp only [patchIssueInBuckets]
  cases located : findIssueLocation cache id with
  | none => exact wellFormed
  | some place =>
      obtain ⟨status, issue⟩ := place
      obtain ⟨held, rfl⟩ := location_some located
      have mergedId : (patch.apply issue).id = issue.id := keeps
      have mergedStatus : (patch.apply issue).status = patch.status.getD status := by
        rw [← wellFormed.own status issue held]
        rfl
      have fits := wellFormed.fits status
      have removed := wellFormed.without held
      have nowhere : ∀ other, ∀ twin ∈ (getBucket (setBucket cache status
          { issues := (getBucket cache status).issues.filter fun other => other.id ≠ issue.id,
            total := (getBucket cache status).total - 1 }) other).issues,
          twin.id ≠ (patch.apply issue).id := by
        rw [mergedId]
        exact without_nowhere wellFormed held
      dsimp only
      by_cases same : patch.status.getD status = status
      · rw [if_pos same]
        rw [same] at mergedStatus
        split
        · -- the card is lifted out and put back at its position
          rw [setBucket_wellFormed wellFormed]
          have lifted := insertByPosition_perm
            ((getBucket cache status).issues.filter fun other => other.id ≠ issue.id) (patch.apply issue)
          apply fits.renewed held mergedId mergedStatus
          · rw [(lifted.map Issue.id).nodup_iff, List.map_cons, List.nodup_cons]
            refine ⟨fun listed => ?_, (List.filter_sublist.map Issue.id).nodup fits.distinct⟩
            obtain ⟨twin, kept, twins⟩ := List.mem_map.mp listed
            have other := (List.mem_filter.mp kept).2
            rw [twins, mergedId] at other
            simp at other
          · intro other listed
            rcases List.mem_cons.mp (lifted.mem_iff.mp listed) with rfl | kept
            · exact .inl rfl
            · exact .inr (List.mem_of_mem_filter kept)
          · have shorter := filter_shorter held
            have counted := fits.counted
            rw [lifted.length_eq, List.length_cons]
            omega
        · rw [setBucket_wellFormed wellFormed]
          have ids : ((getBucket cache status).issues.map
              fun other => if other.id = issue.id then patch.apply issue else other).map Issue.id =
              (getBucket cache status).issues.map Issue.id := by
            rw [List.map_map]
            apply List.map_congr_left
            intro other _
            rw [Function.comp_apply]
            split
            · next twins => rw [mergedId, twins]
            · rfl
          apply fits.renewed held mergedId mergedStatus
          · rw [ids]
            exact fits.distinct
          · intro other listed
            obtain ⟨before, kept, rfl⟩ := List.mem_map.mp listed
            split
            · exact .inl rfl
            · exact .inr kept
          · rw [List.length_map]
            exact fits.counted
      · rw [if_neg same]
        have inserted := removed.insert nowhere (insertByPosition_perm _ _)
        rw [mergedStatus, getBucket_setBucket, if_neg same] at inserted
        exact inserted

theorem decrement_wellFormed (status : Status) :
    WellFormed (decrementBucketTotal cache status) ↔ Safe cache (.decrement status) := by
  have counted := wellFormed.counted status
  rw [decrementBucketTotal, setBucket_wellFormed wellFormed, Safe, Spare, ← List.length_eq_zero_iff]
  constructor
  · intro fits
    have fewer := fits.counted
    dsimp only at fewer
    omega
  · intro spare
    apply (wellFormed.fits status).perm (List.Perm.refl _)
    omega

theorem move_wellFormed (source target : Status) :
    WellFormed (moveBucketTotal cache source target) ↔ Safe cache (.move source target) := by
  by_cases same : source = target
  · rw [moveBucketTotal, if_pos same]
    exact iff_of_true wellFormed (.inl same)
  · have decremented := decrement_wellFormed wellFormed source
    rw [moveBucketTotal, if_neg same]
    simp only [Safe, same, false_or] at decremented ⊢
    rw [← decremented]
    constructor
    · intro next
      rw [decrementBucketTotal, setBucket_wellFormed wellFormed]
      apply (wellFormed.fits source).perm (List.Perm.refl _)
      have counted := next.counted source
      simpa [same] using counted
    · intro next
      apply (setBucket_wellFormed next).mpr
      have fits := next.fits target
      rw [decrementBucketTotal, getBucket_setBucket, if_neg (Ne.symm same)] at fits
      exact fits.perm (List.Perm.refl _) (Nat.le_succ_of_le fits.counted)

theorem append_wellFormed (status : Status) (page : StatusPage status) :
    WellFormed (appendPage cache page) ↔ Safe cache (.append status page) := by
  have fits := wellFormed.fits status
  rw [appendPage, setBucket_wellFormed wellFormed]
  constructor
  · intro next
    constructor
    · intro issue listed away
      by_cases loaded : ((getBucket cache status).issues.map Issue.id).contains issue.id = true
      · obtain ⟨twin, held, same⟩ := List.mem_map.mp (List.contains_iff_mem.mp loaded)
        obtain ⟨other, different, copy, found, copies⟩ := away
        exact fits.apart twin held ⟨other, different, copy, found, copies.trans same.symm⟩
      · refine next.apart issue ?_ away
        exact List.mem_append.mpr (.inr (List.mem_filter.mpr ⟨listed, by simpa using loaded⟩))
    · have counted := next.counted
      rwa [List.length_append] at counted
  · rintro ⟨apart, counted⟩
    constructor
    · rw [List.map_append, List.nodup_append]
      refine ⟨fits.distinct, (List.filter_sublist.map Issue.id).nodup page.distinct, ?_⟩
      rintro _ loaded _ added rfl
      obtain ⟨issue, kept, same⟩ := List.mem_map.mp added
      have missing := (List.mem_filter.mp kept).2
      rw [same] at missing
      simp [List.mem_map.mp loaded] at missing
    · intro issue listed
      rcases List.mem_append.mp listed with held | added
      · exact fits.apart issue held
      · exact apart issue (List.mem_of_mem_filter added)
    · intro issue listed
      rcases List.mem_append.mp listed with held | added
      · exact fits.own issue held
      · exact page.ofStatus issue (List.mem_of_mem_filter added)
    · rw [List.length_append]
      exact counted

theorem applyOp_wellFormed (op : BucketOp) : WellFormed (applyOp cache op) ↔ Safe cache op := by
  cases op with
  | add issue => exact add_wellFormed wellFormed issue
  | remove id => exact iff_of_true (remove_wellFormed wellFormed id) trivial
  | patch id patch keeps => exact iff_of_true (patch_wellFormed wellFormed id patch keeps) trivial
  | move source target => exact move_wellFormed wellFormed source target
  | decrement status => exact decrement_wellFormed wellFormed status
  | append status page => exact append_wellFormed wellFormed status page

end

def issuePageSize : Nat := 50

def IssueFlatFilter.ofMine (filter : MyIssuesFilter) : IssueFlatFilter :=
  { IssueFlatFilter.empty with toMyIssuesFilter := filter }

def fetchFirstPages (world : World) (rows : IssueRows) (filter : MyIssuesFilter) (sort : IssueSortParam) :
    ListIssuesCache where
  byStatus status :=
    let params := { listIssuesParams (IssueFlatFilter.ofMine filter) sort with statuses := [status] }
    let res := listIssues world params rows.issues issuePageSize 0
    some { issues := res.issues, total := res.total }

def mergeIssues (issues : List Issue) : List Issue :=
  issues.foldl
    (fun merged issue => if merged.any fun other => other.id = issue.id then merged else merged ++ [issue]) []

def fetchAllMyFirstPages (world : World) (rows : IssueRows) (compare : Issue → Issue → Bool) (userId : String)
    (sort : IssueSortParam) : ListIssuesCache where
  byStatus status :=
    let bucket := fun filter => (getBucket (fetchFirstPages world rows filter sort) status).issues
    let merged := mergeIssues
      (bucket { noMyIssuesFilter with assigneeId := some userId } ++
        bucket { noMyIssuesFilter with creatorId := some userId } ++
        bucket { noMyIssuesFilter with involvesUserId := some userId })
    some { issues := merged.insertionSort fun left right => compare left right, total := merged.length }

inductive FreshlyFetched (world : World) (rows : IssueRows) : ListIssuesCache → Prop where
  | pages (filter : MyIssuesFilter) (sort : IssueSortParam) :
      FreshlyFetched world rows (fetchFirstPages world rows filter sort)
  | allMine (compare : Issue → Issue → Bool) (userId : String) (sort : IssueSortParam) :
      FreshlyFetched world rows (fetchAllMyFirstPages world rows compare userId sort)

theorem wellFormed_of_rows {cache : ListIssuesCache} (rows : IssueRows)
    (distinct : ∀ status, ((getBucket cache status).issues.map Issue.id).Nodup)
    (stored : ∀ status, ∀ issue ∈ (getBucket cache status).issues,
      issue ∈ rows.issues ∧ issue.status = status)
    (counted : ∀ status, (getBucket cache status).issues.length ≤ (getBucket cache status).total) :
    WellFormed cache where
  distinct := distinct
  apart status other different issue held twin listed same := by
    obtain ⟨issueStored, issueStatus⟩ := stored status issue held
    obtain ⟨twinStored, twinStatus⟩ := stored other twin listed
    have equal := List.inj_on_of_nodup_map rows.ids twinStored issueStored same
    exact different (by rw [← twinStatus, ← issueStatus, equal])
  own status issue held := (stored status issue held).2
  counted := counted

section
variable (world : World) (rows : IssueRows) (filter : MyIssuesFilter) (sort : IssueSortParam)

theorem firstPages_stored (status : Status) (issue : Issue)
    (held : issue ∈ (getBucket (fetchFirstPages world rows filter sort) status).issues) :
    issue ∈ rows.issues ∧ issue.status = status := by
  obtain ⟨stored, holds⟩ := mem_window.mp (List.mem_of_mem_drop (List.mem_of_mem_take held))
  refine ⟨stored, ?_⟩
  simp only [ListIssuesParams.holds, Bool.and_eq_true, oneOf] at holds
  simpa using holds.1.1.1.1.1.1.1.1.1.1.1.1.1

theorem firstPages_wellFormed : WellFormed (fetchFirstPages world rows filter sort) := by
  apply wellFormed_of_rows rows
  · intro status
    exact (((List.take_sublist _ _).trans (List.drop_sublist _ _)).map Issue.id).nodup window_ids
  · exact firstPages_stored world rows filter sort
  · intro status
    have part := ((List.take_sublist (serverLimit issuePageSize) _).trans (List.drop_sublist 0
      (({ listIssuesParams (IssueFlatFilter.ofMine filter) sort with statuses := [status] } :
        ListIssuesParams).window world rows.issues))).length_le
    rwa [window_length] at part

end

theorem mergeIssues_spec (issues : List Issue) :
    ((mergeIssues issues).map Issue.id).Nodup ∧ ∀ issue ∈ mergeIssues issues, issue ∈ issues := by
  suffices claim : ∀ start : List Issue, (start.map Issue.id).Nodup →
      ((issues.foldl (fun merged issue =>
        if merged.any fun other => other.id = issue.id then merged else merged ++ [issue]) start).map
          Issue.id).Nodup ∧
      ∀ issue ∈ issues.foldl (fun merged issue =>
        if merged.any fun other => other.id = issue.id then merged else merged ++ [issue]) start,
        issue ∈ start ∨ issue ∈ issues by
    obtain ⟨distinct, members⟩ := claim [] List.nodup_nil
    exact ⟨distinct, fun issue held => by simpa using members issue held⟩
  induction issues with
  | nil =>
      intro start distinct
      exact ⟨distinct, fun issue held => .inl held⟩
  | cons first rest ih =>
      intro start distinct
      rw [List.foldl_cons]
      by_cases seen : start.any (fun other => other.id = first.id) = true
      · rw [if_pos seen]
        obtain ⟨unique, members⟩ := ih start distinct
        refine ⟨unique, fun issue held => ?_⟩
        rcases members issue held with before | later
        · exact .inl before
        · exact .inr (List.mem_cons_of_mem _ later)
      · rw [if_neg seen]
        have missing : first.id ∉ start.map Issue.id := by
          intro listed
          obtain ⟨twin, held, same⟩ := List.mem_map.mp listed
          exact seen (List.any_eq_true.mpr ⟨twin, held, decide_eq_true same⟩)
        obtain ⟨unique, members⟩ := ih (start ++ [first]) (by
          rw [List.map_append, List.map_singleton, ← List.concat_eq_append]
          exact List.Nodup.concat missing distinct)
        refine ⟨unique, fun issue held => ?_⟩
        rcases members issue held with before | later
        · rcases List.mem_append.mp before with old | added
          · exact .inl old
          · exact .inr (by simp [List.mem_singleton.mp added])
        · exact .inr (List.mem_cons_of_mem _ later)

theorem fresh_wellFormed {world : World} {rows : IssueRows} {cache : ListIssuesCache}
    (fetched : FreshlyFetched world rows cache) : WellFormed cache := by
  cases fetched with
  | pages filter sort => exact firstPages_wellFormed world rows filter sort
  | allMine compare userId sort =>
      apply wellFormed_of_rows rows
      · intro status
        exact ((List.perm_insertionSort _ _).map Issue.id).nodup_iff.mpr (mergeIssues_spec _).1
      · intro status issue held
        have merged := (mergeIssues_spec _).2 issue ((List.perm_insertionSort _ _).mem_iff.mp held)
        simp only [List.mem_append] at merged
        rcases merged with (assigned | created) | involved
        · exact firstPages_stored world rows _ sort status issue assigned
        · exact firstPages_stored world rows _ sort status issue created
        · exact firstPages_stored world rows _ sort status issue involved
      · intro status
        exact (List.perm_insertionSort _ _).length_eq.le

theorem buckets_always_iff {world : World} {rows : IssueRows} {start : ListIssuesCache}
    (fetched : FreshlyFetched world rows start) (ops : List BucketOp) :
    Always applyOp WellFormed start ops ↔ Every applyOp Safe start ops := by
  have begins := fresh_wellFormed fetched
  exact @RunLib.always_iff_every _ _ _ (fun _ => True) _ _ _ _ trivial begins (fun _ _ _ => trivial)
    fun cache op _ wellFormed => applyOp_wellFormed wellFormed op

/-! An issue that is done by the time the event of its creation arrives. -/

def finishedRows : IssueRows where
  issues := [{ survey with status := .done, updatedAt := 1 }]
  ids := by decide

def finishedCache : ListIssuesCache :=
  fetchFirstPages plainWorld finishedRows noMyIssuesFilter IssueSortParam.empty

theorem finishedCache_fetched : FreshlyFetched plainWorld finishedRows finishedCache := .pages _ _

theorem late_creation_duplicates : ¬Always applyOp WellFormed finishedCache [.add survey] := by
  rintro ⟨wellFormed, next⟩
  have safe := (add_wellFormed wellFormed survey).mp next
  have held : { survey with status := .done, updatedAt := 1 } ∈ (getBucket finishedCache .done).issues := by
    decide +kernel
  exact safe ⟨.done, by decide, _, held, rfl⟩

theorem buckets_always_iff_finished :
    Always applyOp WellFormed finishedCache [.add survey] ↔
      Every applyOp Safe finishedCache [.add survey] :=
  buckets_always_iff finishedCache_fetched [.add survey]

end MulticaOS.IssueLists
