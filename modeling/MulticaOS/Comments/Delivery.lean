import MulticaOS.Lib.Json
import MulticaOS.Lib.Lists
import MulticaOS.TaskQueue.Statements

/-!
Which of a task's planned comments one claim carries: `selectCommentDelivery` with the
encodings it budgets for, and the rounds in which completion reconciliation replays what a
claim has left out.
-/

namespace MulticaOS.Comments

open JsonLib

structure CoalescedCommentData where
  id : String
  threadId : String
  authorType : String
  authorName : String
  content : String
  createdAt : String
  deriving DecidableEq

def maxClaimCommentPayloadBytes : Nat := 512 * 1024

def CoalescedCommentData.marshal (comment : CoalescedCommentData) : List Char :=
  marshalObject (field "id" comment.id ++ fieldOmitEmpty "thread_id" comment.threadId ++
    fieldOmitEmpty "author_type" comment.authorType ++
    fieldOmitEmpty "author_name" comment.authorName ++ field "content" comment.content ++
    fieldOmitEmpty "created_at" comment.createdAt)

def legacyCommentBundleHeader : String :=
  "This run covers multiple distinct issue comments. Address every comment below in chronological " ++
    "order; do not treat this bundle as one rewritten comment.\n"

def formatLegacyCommentEntry (comment : CoalescedCommentData) : String :=
  "\n--- comment " ++ comment.id ++
    (if comment.threadId ≠ "" then " [thread " ++ comment.threadId ++ "]" else "") ++
    (if comment.authorType ≠ "" ∨ comment.authorName ≠ "" then
      " [author " ++ comment.authorType ++
        (if comment.authorName ≠ "" then ": " ++ comment.authorName else "") ++ "]"
    else "") ++
    (if comment.createdAt ≠ "" then " [created " ++ comment.createdAt ++ "]" else "") ++
    " ---\n" ++ comment.content ++ "\n--- end comment " ++ comment.id ++ " ---\n"

def formatLegacyCommentBundle (comments : List CoalescedCommentData) : String :=
  if comments.isEmpty then ""
  else
    GoLib.trimSpace (legacyCommentBundleHeader ++
      String.join (comments.map formatLegacyCommentEntry))

/-- Encoding a string never fails; the guard on its length is the source's. -/
def escapedJSONStringContentSize (value : String) : Nat :=
  let encoded := byteSize (marshalString value)
  if encoded < 2 then maxClaimCommentPayloadBytes + 1 else encoded - 2

def commentDeliveryBaseSize (legacy : Bool) : Nat :=
  if legacy then escapedJSONStringContentSize legacyCommentBundleHeader else 2

def commentDeliveryEntrySize (comment : CoalescedCommentData) (legacy : Bool) : Nat :=
  if legacy then escapedJSONStringContentSize (formatLegacyCommentEntry comment)
  else byteSize comment.marshal + 1

def commentById (comments : List CoalescedCommentData) (id : String) : CoalescedCommentData :=
  (comments.find? fun comment => comment.id = id).getD ⟨"", "", "", "", "", ""⟩

def mandatoryId (comments : List CoalescedCommentData) (triggerId : String) : String :=
  if comments.any fun comment => comment.id = triggerId then triggerId
  else (comments.getLast?.map CoalescedCommentData.id).getD triggerId

def extendSelection (mandatory : String) (legacy : Bool) (limit : Int) (used : Nat)
    (selected : List String) : List CoalescedCommentData → List String
  | [] => selected
  | comment :: rest =>
      if comment.id = mandatory then extendSelection mandatory legacy limit used selected rest
      else
        let cost := commentDeliveryEntrySize comment legacy
        if 0 < limit ∧ limit < (used + cost : Nat) then selected
        else extendSelection mandatory legacy limit (used + cost) (selected ++ [comment.id]) rest

def selectCommentDelivery (comments : List CoalescedCommentData) (triggerId : String)
    (legacy : Bool) (limit : Int) : List CoalescedCommentData :=
  match comments with
  | [] => []
  | comments =>
      let mandatory := mandatoryId comments triggerId
      let used := commentDeliveryBaseSize legacy +
        commentDeliveryEntrySize (commentById comments mandatory) legacy
      let selected := extendSelection mandatory legacy limit used [mandatory] comments
      comments.filter fun comment => selected.contains comment.id

def others (mandatory : String) (comments : List CoalescedCommentData) : List CoalescedCommentData :=
  comments.filter fun comment => comment.id ≠ mandatory

def totalSize (legacy : Bool) (comments : List CoalescedCommentData) : Nat :=
  (comments.map fun comment => commentDeliveryEntrySize comment legacy).sum

theorem extendSelection_prefix (mandatory : String) (legacy : Bool) (limit : Int)
    (comments : List CoalescedCommentData) (used : Nat) (selected : List String) :
    ∃ front, front <+: others mandatory comments ∧
      extendSelection mandatory legacy limit used selected comments =
        selected ++ front.map CoalescedCommentData.id ∧
      (0 < limit → front = [] ∨ (used + totalSize legacy front : Nat) ≤ limit) := by
  induction comments generalizing used selected with
  | nil => exact ⟨[], List.nil_prefix, by simp [extendSelection], fun _ => Or.inl rfl⟩
  | cons comment rest ih =>
      rw [extendSelection]
      by_cases isMandatory : comment.id = mandatory
      · rw [if_pos isMandatory]
        obtain ⟨front, isPrefix, same, fits⟩ := ih used selected
        refine ⟨front, ?_, same, fits⟩
        simpa [others, isMandatory] using isPrefix
      · rw [if_neg isMandatory]
        have first : others mandatory (comment :: rest) = comment :: others mandatory rest := by
          simp [others, isMandatory]
        by_cases room : 0 < limit ∧ limit < (used + commentDeliveryEntrySize comment legacy : Nat)
        · refine ⟨[], List.nil_prefix, ?_, fun _ => Or.inl rfl⟩
          rw [List.map_nil, List.append_nil]
          exact if_pos room
        · dsimp only
          rw [if_neg room]
          obtain ⟨front, isPrefix, same, fits⟩ :=
            ih (used + commentDeliveryEntrySize comment legacy) (selected ++ [comment.id])
          refine ⟨comment :: front, ?_, ?_, fun positive => Or.inr ?_⟩
          · rw [first]
            exact (List.prefix_cons_inj comment).mpr isPrefix
          · rw [same, List.map_cons, List.append_assoc, List.singleton_append]
          · have within : (used + commentDeliveryEntrySize comment legacy : Nat) ≤ limit := by
              by_contra exceeds
              exact room ⟨positive, by omega⟩
            rw [totalSize, List.map_cons, List.sum_cons]
            rcases fits positive with empty | fits
            · rw [empty, List.map_nil, List.sum_nil]
              omega
            · rw [totalSize] at fits
              omega

section

variable {comments : List CoalescedCommentData}

theorem mandatoryId_mem {triggerId : String} (nonempty : comments ≠ []) :
    ∃ comment ∈ comments, comment.id = mandatoryId comments triggerId := by
  rw [mandatoryId]
  split
  · rename_i listed
    obtain ⟨comment, member, same⟩ := List.any_eq_true.mp listed
    exact ⟨comment, member, of_decide_eq_true same⟩
  · refine ⟨comments.getLast nonempty, List.getLast_mem nonempty, ?_⟩
    rw [List.getLast?_eq_some_getLast nonempty]
    rfl

theorem commentById_eq {comment : CoalescedCommentData}
    (distinct : (comments.map CoalescedCommentData.id).Nodup) (member : comment ∈ comments) :
    commentById comments comment.id = comment := by
  have found : comments.find? (fun other => other.id = comment.id) =
      (comments.filter fun other => other.id = comment.id).head? := List.head?_filter.symm
  rw [commentById, found, ListLib.filter_key_eq distinct member]
  rfl

theorem selectCommentDelivery_sublist (triggerId : String) (legacy : Bool) (limit : Int) :
    (selectCommentDelivery comments triggerId legacy limit).Sublist comments := by
  cases comments with
  | nil => exact List.Sublist.refl []
  | cons => exact List.filter_sublist

theorem selectCommentDelivery_eq (triggerId : String) (legacy : Bool) (limit : Int)
    (nonempty : comments ≠ [])
    (distinct : (comments.map CoalescedCommentData.id).Nodup) :
    ∃ primary ∈ comments, primary.id = mandatoryId comments triggerId ∧
      ∃ front, front <+: others primary.id comments ∧
        primary ∈ selectCommentDelivery comments triggerId legacy limit ∧
        others primary.id (selectCommentDelivery comments triggerId legacy limit) = front ∧
        (0 < limit → front = [] ∨ (commentDeliveryBaseSize legacy +
          commentDeliveryEntrySize primary legacy + totalSize legacy front : Nat) ≤ limit) := by
  obtain ⟨primary, member, isMandatory⟩ :
      ∃ comment ∈ comments, comment.id = mandatoryId comments triggerId := mandatoryId_mem nonempty
  obtain ⟨front, isPrefix, selected, fits⟩ := extendSelection_prefix primary.id legacy limit comments
    (commentDeliveryBaseSize legacy + commentDeliveryEntrySize primary legacy) [primary.id]
  have result : selectCommentDelivery comments triggerId legacy limit =
      comments.filter fun comment =>
        (primary.id :: front.map CoalescedCommentData.id).contains comment.id := by
    cases comments with
    | nil => contradiction
    | cons first rest =>
        simp only [selectCommentDelivery, ← isMandatory, commentById_eq distinct member, selected]
        rfl
  refine ⟨primary, member, isMandatory, front, isPrefix, ?_, ?_, fits⟩
  · rw [result, List.mem_filter]
    exact ⟨member, by simp⟩
  · have othersDistinct : ((others primary.id comments).map CoalescedCommentData.id).Nodup :=
      distinct.sublist (List.filter_sublist.map _)
    have kept := ListLib.filter_key_sublist isPrefix.sublist othersDistinct
    rw [others, List.filter_filter] at kept
    rw [result, others, List.filter_filter]
    refine Eq.trans (List.filter_congr ?_) kept
    intro comment _
    by_cases isPrimary : comment.id = primary.id
    · simp [isPrimary]
    · simp [isPrimary]

theorem totalSize_eq (legacy : Bool) {primary : CoalescedCommentData}
    (distinct : (comments.map CoalescedCommentData.id).Nodup) (member : primary ∈ comments) :
    totalSize legacy comments =
      commentDeliveryEntrySize primary legacy + totalSize legacy (others primary.id comments) := by
  have parts := List.filter_append_perm (fun comment => comment.id = primary.id) comments
  rw [ListLib.filter_key_eq distinct member, List.singleton_append] at parts
  have same : comments.filter (fun comment => !decide (comment.id = primary.id)) =
      others primary.id comments := by
    simp [others]
  rw [same] at parts
  rw [totalSize, ← (parts.map _).sum_eq, List.map_cons, List.sum_cons, totalSize]

end

def encodedSize (legacy : Bool) (delivered : List CoalescedCommentData) : Nat :=
  if legacy then escapedJSONStringContentSize (formatLegacyCommentBundle delivered)
  else byteSize (marshalArray (delivered.map CoalescedCommentData.marshal))

theorem escapedJSONStringContentSize_eq (value : String) :
    escapedJSONStringContentSize value = byteSize (escape value.toList) := by
  rw [escapedJSONStringContentSize, byteSize_marshalString, if_neg (by omega)]
  omega

theorem escapedJSONStringContentSize_append (front back : String) :
    escapedJSONStringContentSize (front ++ back) =
      escapedJSONStringContentSize front + escapedJSONStringContentSize back := by
  rw [escapedJSONStringContentSize_eq, escapedJSONStringContentSize_eq,
    escapedJSONStringContentSize_eq, String.toList_append, escape_append, byteSize_append]

theorem escapedJSONStringContentSize_trimSpace (value : String) :
    escapedJSONStringContentSize (GoLib.trimSpace value) ≤ escapedJSONStringContentSize value := by
  rw [escapedJSONStringContentSize_eq, escapedJSONStringContentSize_eq]
  exact byteSize_sublist (escape_sublist (GoLib.trimSpace_sublist value))

theorem escapedJSONStringContentSize_join (comments : List CoalescedCommentData) :
    escapedJSONStringContentSize (String.join (comments.map formatLegacyCommentEntry)) =
      totalSize true comments := by
  induction comments with
  | nil => rfl
  | cons comment rest ih =>
      rw [List.map_cons, String.join_cons, escapedJSONStringContentSize_append, ih, totalSize,
        totalSize, List.map_cons, List.sum_cons, commentDeliveryEntrySize, if_pos rfl]

theorem encodedSize_le {delivered : List CoalescedCommentData} (legacy : Bool)
    (nonempty : delivered ≠ []) :
    encodedSize legacy delivered ≤ commentDeliveryBaseSize legacy + totalSize legacy delivered := by
  cases legacy with
  | true =>
      have bundle : formatLegacyCommentBundle delivered = GoLib.trimSpace
          (legacyCommentBundleHeader ++ String.join (delivered.map formatLegacyCommentEntry)) :=
        if_neg (by simpa using nonempty)
      simp only [encodedSize, commentDeliveryBaseSize, if_true]
      rw [bundle, ← escapedJSONStringContentSize_join, ← escapedJSONStringContentSize_append]
      exact escapedJSONStringContentSize_trimSpace _
  | false =>
      have items : delivered.map CoalescedCommentData.marshal ≠ [] := by simpa using nonempty
      have counted : ((delivered.map CoalescedCommentData.marshal).map fun item =>
          byteSize item + 1).sum = totalSize false delivered := by
        rw [List.map_map]
        rfl
      have written : encodedSize false delivered = 1 + totalSize false delivered := by
        rw [← counted]
        exact byteSize_marshalArray items
      have base : commentDeliveryBaseSize false = 2 := rfl
      omega

structure CommentPlan where
  triggerCommentId : String
  coalescedCommentIds : List String
  deriving DecidableEq

def CommentPlan.ids (plan : CommentPlan) : List String :=
  plan.coalescedCommentIds ++ [plan.triggerCommentId]

def CommentPlan.merge (plan : CommentPlan) (comment : String) : CommentPlan where
  triggerCommentId := comment
  coalescedCommentIds := plan.ids.dedup.filter fun id => id ≠ comment

def replay : List String → Option CommentPlan
  | [] => none
  | first :: rest => some (rest.foldl CommentPlan.merge ⟨first, []⟩)

def loadPlan (comments : List CoalescedCommentData) (plan : CommentPlan) :
    List CoalescedCommentData :=
  comments.filter fun comment => plan.ids.contains comment.id

def undelivered (planned delivered : List CoalescedCommentData) : List CoalescedCommentData :=
  planned.filter fun comment => !(delivered.map CoalescedCommentData.id).contains comment.id

theorem mem_merge_ids {plan : CommentPlan} {comment id : String} :
    id ∈ (plan.merge comment).ids ↔ id ∈ plan.ids ∨ id = comment := by
  by_cases same : id = comment
  · simp [CommentPlan.merge, CommentPlan.ids, same]
  · simp [CommentPlan.merge, CommentPlan.ids, same]

theorem mem_foldl_merge_ids {ids : List String} {plan : CommentPlan} {id : String} :
    id ∈ (ids.foldl CommentPlan.merge plan).ids ↔ id ∈ plan.ids ∨ id ∈ ids := by
  induction ids generalizing plan with
  | nil => simp
  | cons first rest ih =>
      rw [List.foldl_cons, ih, mem_merge_ids, List.mem_cons]
      tauto

theorem mem_replay_ids {ids : List String} {next : CommentPlan} (replayed : replay ids = some next)
    (id : String) : id ∈ next.ids ↔ id ∈ ids := by
  cases ids with
  | nil => contradiction
  | cons first rest =>
      cases replayed
      rw [mem_foldl_merge_ids, List.mem_cons]
      simp [CommentPlan.ids]

theorem loadPlan_replay {comments delivered : List CoalescedCommentData} {plan next : CommentPlan}
    (replayed : replay ((undelivered (loadPlan comments plan) delivered).map CoalescedCommentData.id) =
      some next) :
    loadPlan comments next = undelivered (loadPlan comments plan) delivered := by
  rw [undelivered, loadPlan, loadPlan, List.filter_filter]
  apply List.filter_congr
  intro comment member
  rw [Bool.eq_iff_iff, List.contains_iff_mem, mem_replay_ids replayed, List.mem_map, Bool.and_eq_true]
  constructor
  · rintro ⟨other, listed, same⟩
    obtain ⟨planned, remains⟩ := List.mem_filter.mp listed
    rw [same] at remains
    have inPlan := (List.mem_filter.mp planned).2
    rw [same] at inPlan
    exact ⟨remains, inPlan⟩
  · rintro ⟨remains, inPlan⟩
    exact ⟨comment, List.mem_filter.mpr ⟨List.mem_filter.mpr ⟨member, inPlan⟩, remains⟩, rfl⟩

theorem selectCommentDelivery_mandatory {comments : List CoalescedCommentData} (triggerId : String)
    (legacy : Bool) (limit : Int) (nonempty : comments ≠ []) :
    ∃ comment ∈ selectCommentDelivery comments triggerId legacy limit,
      comment.id = mandatoryId comments triggerId := by
  obtain ⟨comment, member, isMandatory⟩ :
      ∃ comment ∈ comments, comment.id = mandatoryId comments triggerId := mandatoryId_mem nonempty
  refine ⟨comment, ?_, isMandatory⟩
  cases comments with
  | nil => contradiction
  | cons first rest =>
      obtain ⟨front, -, selected, -⟩ := extendSelection_prefix
        (mandatoryId (first :: rest) triggerId) legacy limit (first :: rest)
        (commentDeliveryBaseSize legacy + commentDeliveryEntrySize
          (commentById (first :: rest) (mandatoryId (first :: rest) triggerId)) legacy)
        [mandatoryId (first :: rest) triggerId]
      simp only [selectCommentDelivery, selected]
      exact List.mem_filter.mpr ⟨member, by simp [isMandatory]⟩

theorem undelivered_length_lt {comments : List CoalescedCommentData} (triggerId : String)
    (legacy : Bool) (limit : Int) (nonempty : comments ≠ []) :
    (undelivered comments (selectCommentDelivery comments triggerId legacy limit)).length <
      comments.length := by
  obtain ⟨comment, member, -⟩ := selectCommentDelivery_mandatory triggerId legacy limit nonempty
  rw [undelivered, List.length_filter_lt_length_iff_exists]
  refine ⟨comment, (selectCommentDelivery_sublist _ legacy limit).subset member, ?_⟩
  simpa using ⟨comment, member, rfl⟩

def rounds (comments : List CoalescedCommentData) (legacy : Bool) (limit : Int) (plan : CommentPlan) :
    List (List CoalescedCommentData) :=
  if _nonempty : loadPlan comments plan ≠ [] then
    let delivered := selectCommentDelivery (loadPlan comments plan) plan.triggerCommentId legacy limit
    match _replayed : replay ((undelivered (loadPlan comments plan) delivered).map
        CoalescedCommentData.id) with
    | none => [delivered]
    | some next => delivered :: rounds comments legacy limit next
  else []
termination_by (loadPlan comments plan).length
decreasing_by
  rw [loadPlan_replay _replayed]
  exact undelivered_length_lt plan.triggerCommentId legacy limit _nonempty

theorem delivered_append_undelivered {planned delivered : List CoalescedCommentData}
    (sub : delivered.Sublist planned) (distinct : (planned.map CoalescedCommentData.id).Nodup) :
    (delivered ++ undelivered planned delivered).Perm planned := by
  have parts := List.filter_append_perm
    (fun comment => (delivered.map CoalescedCommentData.id).contains comment.id) planned
  rwa [ListLib.filter_key_sublist sub distinct] at parts

theorem undelivered_distinct {planned delivered : List CoalescedCommentData}
    (distinct : (planned.map CoalescedCommentData.id).Nodup) :
    ((undelivered planned delivered).map CoalescedCommentData.id).Nodup :=
  distinct.sublist (List.filter_sublist.map _)

theorem rounds_deliver {comments : List CoalescedCommentData} (legacy : Bool) (limit : Int)
    (plan : CommentPlan)
    (distinct : ((loadPlan comments plan).map CoalescedCommentData.id).Nodup) :
    (rounds comments legacy limit plan).flatten.Perm (loadPlan comments plan) ∧
      (rounds comments legacy limit plan).length ≤ (loadPlan comments plan).length := by
  induction plan using rounds.induct comments legacy limit with
  | case1 plan nonempty delivered finished =>
      have noneLeft : undelivered (loadPlan comments plan) delivered = [] := by
        cases left : undelivered (loadPlan comments plan) delivered with
        | nil => rfl
        | cons first rest =>
            rw [left] at finished
            contradiction
      have result : rounds comments legacy limit plan = [delivered] := by
        rw [rounds, dif_pos nonempty]
        dsimp only
        split
        · rfl
        · rename_i next replayed
          rw [finished] at replayed
          contradiction
      have parts := delivered_append_undelivered
        (selectCommentDelivery_sublist plan.triggerCommentId legacy limit) distinct
      rw [noneLeft, List.append_nil] at parts
      rw [result]
      refine ⟨by simpa using parts, ?_⟩
      exact List.length_pos_iff.mpr nonempty
  | case2 plan nonempty delivered next replayed ih =>
      have result : rounds comments legacy limit plan = delivered :: rounds comments legacy limit next := by
        rw [rounds, dif_pos nonempty]
        dsimp only
        split
        · rename_i finished
          rw [replayed] at finished
          contradiction
        · rename_i other again
          rw [replayed] at again
          cases again
          rfl
      have left := loadPlan_replay replayed
      rw [left] at ih
      obtain ⟨laterParts, laterLength⟩ := ih (undelivered_distinct distinct)
      have parts := delivered_append_undelivered
        (selectCommentDelivery_sublist plan.triggerCommentId legacy limit) distinct
      have fewer : (undelivered (loadPlan comments plan) delivered).length <
          (loadPlan comments plan).length :=
        undelivered_length_lt plan.triggerCommentId legacy limit nonempty
      rw [result]
      constructor
      · rw [List.flatten_cons]
        exact (laterParts.append_left delivered).trans parts
      · rw [List.length_cons]
        omega
  | case3 plan empty =>
      have noneLeft : loadPlan comments plan = [] := by simpa using empty
      rw [rounds, dif_neg empty, noneLeft]
      exact ⟨List.Perm.refl _, Nat.le_refl _⟩

def primaryComment (comments : List CoalescedCommentData) (triggerId : String) :
    Option CoalescedCommentData :=
  (comments.find? fun comment => comment.id = triggerId).or comments.getLast?

structure Delivers (comments : List CoalescedCommentData) (triggerId : String) (legacy : Bool)
    (limit : Int) (delivered : List CoalescedCommentData) : Prop where
  ordered : delivered.Sublist comments
  primary : ∀ primary, primaryComment comments triggerId = some primary →
    primary ∈ delivered ∧ others primary.id delivered <+: others primary.id comments
  fits : 0 < limit → delivered.length ≤ 1 ∨ (encodedSize legacy delivered : Int) ≤ limit

theorem primaryComment_id {comments : List CoalescedCommentData} {triggerId : String}
    {primary : CoalescedCommentData} (found : primaryComment comments triggerId = some primary) :
    primary ∈ comments ∧ primary.id = mandatoryId comments triggerId := by
  rw [primaryComment] at found
  cases isThere : comments.find? fun comment => comment.id = triggerId with
  | some comment =>
      rw [isThere, Option.some_or, Option.some_inj] at found
      subst found
      have member := List.mem_of_find?_eq_some isThere
      have isTrigger : comment.id = triggerId := by simpa using List.find?_some isThere
      have listed : comments.any (fun other => other.id = triggerId) = true :=
        List.any_eq_true.mpr ⟨comment, member, by simpa using isTrigger⟩
      exact ⟨member, by rw [mandatoryId, if_pos listed, isTrigger]⟩
  | none =>
      rw [isThere, Option.none_or] at found
      have unlisted : ¬ comments.any (fun other => other.id = triggerId) = true := by
        simpa using List.find?_eq_none.mp isThere
      refine ⟨List.mem_of_getLast? found, ?_⟩
      rw [mandatoryId, if_neg unlisted, found]
      rfl

theorem selectCommentDelivery_delivers {comments : List CoalescedCommentData} (triggerId : String)
    (legacy : Bool) (limit : Int) (distinct : (comments.map CoalescedCommentData.id).Nodup) :
    Delivers comments triggerId legacy limit
      (selectCommentDelivery comments triggerId legacy limit) := by
  have ordered : (selectCommentDelivery comments triggerId legacy limit).Sublist comments :=
    selectCommentDelivery_sublist triggerId legacy limit
  by_cases nonempty : comments = []
  · subst nonempty
    exact ⟨ordered, fun primary found => by contradiction, fun _ => Or.inl (Nat.zero_le 1)⟩
  obtain ⟨primary, member, isMandatory, front, isPrefix, selected, rest, fits⟩ :=
    selectCommentDelivery_eq triggerId legacy limit nonempty distinct
  have selectedDistinct := distinct.sublist (ordered.map CoalescedCommentData.id)
  refine ⟨ordered, fun other found => ?_, fun positive => ?_⟩
  · obtain ⟨otherMember, same⟩ := primaryComment_id found
    rw [← isMandatory] at same
    have isPrimary : other = primary :=
      List.inj_on_of_nodup_map distinct otherMember member same
    rw [isPrimary, rest]
    exact ⟨selected, isPrefix⟩
  · have total := totalSize_eq legacy selectedDistinct selected
    rw [rest] at total
    rcases fits positive with empty | fits
    · left
      have parts := List.filter_append_perm (fun comment => comment.id = primary.id)
        (selectCommentDelivery comments triggerId legacy limit)
      have noOthers : (selectCommentDelivery comments triggerId legacy limit).filter
          (fun comment => !decide (comment.id = primary.id)) = [] := by
        rw [← empty, ← rest]
        simp [others]
      rw [ListLib.filter_key_eq selectedDistinct selected, noOthers] at parts
      rw [← parts.length_eq]
      exact Nat.le_refl 1
    · right
      have written := encodedSize_le legacy (List.ne_nil_of_mem selected)
      omega

/-- Comments with distinct ids are delivered each in one round, in no more rounds than there are
comments; the budget holds in every claim with a positive limit. -/
theorem comments_delivered (comments : List CoalescedCommentData) (triggerId : String)
    (legacy : Bool) (limit : Int) (distinct : (comments.map CoalescedCommentData.id).Nodup) :
    Delivers comments triggerId legacy limit (selectCommentDelivery comments triggerId legacy limit) ∧
      (∀ comment ∈ comments, ∃! round : Nat, ∃ delivered,
        (rounds comments legacy limit ⟨triggerId, comments.map CoalescedCommentData.id⟩)[round]? =
          some delivered ∧ comment ∈ delivered) ∧
      (rounds comments legacy limit ⟨triggerId, comments.map CoalescedCommentData.id⟩).length ≤
        comments.length := by
  have loaded : loadPlan comments ⟨triggerId, comments.map CoalescedCommentData.id⟩ = comments := by
    rw [loadPlan, List.filter_eq_self]
    intro comment member
    rw [List.contains_iff_mem, CommentPlan.ids]
    exact List.mem_append_left _ (List.mem_map_of_mem member)
  have all := rounds_deliver legacy limit ⟨triggerId, comments.map CoalescedCommentData.id⟩
    (by rw [loaded]; exact distinct)
  rw [loaded] at all
  exact ⟨selectCommentDelivery_delivers triggerId legacy limit distinct,
    fun _ member => ListLib.existsUnique_part all.1 distinct.of_map member, all.2⟩

def twoComments : List CoalescedCommentData :=
  [⟨"a", "", "", "", "first", ""⟩, ⟨"b", "", "", "", "second", ""⟩]

theorem comments_delivered_twoComments :
    (twoComments.map CoalescedCommentData.id).Nodup ∧
      (rounds twoComments true 1 ⟨"b", ["a", "b"]⟩).length ≤ 2 :=
  ⟨by decide, (comments_delivered twoComments "b" true 1 (by decide)).2.2⟩

/-- A limit of zero is no limit: both comments are delivered, in more bytes than it allows. -/
theorem unlimited_delivery :
    (twoComments.map CoalescedCommentData.id).Nodup ∧
      (selectCommentDelivery twoComments "b" false 0).length = 2 ∧
      ¬ (encodedSize false (selectCommentDelivery twoComments "b" false 0) : Int) ≤ 0 := by
  decide +kernel

end MulticaOS.Comments
