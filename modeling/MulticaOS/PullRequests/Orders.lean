import MulticaOS.Lib.Deliveries
import MulticaOS.PullRequests.Views

/-!
Events out of order.  The mirror of a self-hosted provider ignores an event that is older than its
row, so that only some of the older events are applied; the links and the statuses that they
leave behind stay.  The mirror of GitHub applies whatever arrives.
-/

namespace MulticaOS.PullRequests

open UpsertLib
open DeliveryLib

def process (database : Database) (deliveries : List (Time × Event)) : Database :=
  deliveries.foldl (fun mirrored delivery => mirror delivery.1 mirrored delivery.2) database

structure Agree (key : Key) (left right : Database) : Prop where
  row : left.pulls.lookup key = right.pulls.lookup key
  links : ∀ issueID, left.links.lookup (issueID, key) = right.links.lookup (issueID, key)
  status : left.status = right.status

/-- Events of one pull request in their real order, which name the same issues. -/
structure History (database : Database) (key : Key) (events : List Event) : Prop where
  own : ∀ event ∈ events, event.key = key
  stamped : ∀ event ∈ events, event.stamped = true
  created : ∀ left ∈ events, ∀ right ∈ events, left.createdAt = right.createdAt
  increasing : Increasing Event.time events
  names : ∀ left ∈ events, ∀ right ∈ events, ∀ issueID,
    Named database left.texts issueID ↔ Named database right.texts issueID

/-- Whatever the order of delivery and the hour, the result is that of the real order. -/
def Converges (database : Database) (key : Key) (events : List Event) : Prop :=
  ∀ delivered real : List (Time × Event), Delivers events (delivered.map Prod.snd) →
    real.map Prod.snd = events → Agree key (process database delivered) (process database real)

def View.receive (database : Database) (issueID : Nat) (view : View) (event : Event) : View :=
  if event.ignored view.row then view else view.advance database issueID event

def View.clock (view : View) : Option Time := view.row.map fun pull => pull.columns.prUpdatedAt

section Views

variable {database : Database} {key : Key} {issueID : Nat} {deliveries : List (Time × Event)}

theorem agree_iff {left right : Database} :
    Agree key left right ↔ ∀ issueID, viewOf key issueID left = viewOf key issueID right := by
  constructor
  · rintro ⟨row, links, status⟩ issueID
    rw [viewOf, viewOf, row, links, status]
  · intro views
    have parts : ∀ issueID, left.pulls.lookup key = right.pulls.lookup key ∧
        left.links.lookup (issueID, key) = right.links.lookup (issueID, key) ∧
        left.status issueID = right.status issueID := by
      intro issueID
      obtain ⟨row, link, status⟩ := View.mk.inj (views issueID)
      exact ⟨row, link, status⟩
    exact ⟨(parts 0).1, fun issueID => (parts issueID).2.1, funext fun issueID => (parts issueID).2.2⟩

theorem process_snoc (front : List (Time × Event)) (delivery : Time × Event) :
    process database (front ++ [delivery]) = mirror delivery.1 (process database front) delivery.2 := by
  rw [process, List.foldl_append]
  rfl

theorem process_beside (database : Database)
    (own : ∀ event ∈ deliveries.map Prod.snd, event.key = key ∧ event.stamped = true) :
    Beside database (process database deliveries) key := by
  induction deliveries using List.reverseRecOn with
  | nil => exact Beside.refl database key
  | append_singleton front delivery ih =>
      have earlier := ih fun event member => own event (by simp at member ⊢; exact Or.inl member)
      obtain ⟨rfl, stamped⟩ := own delivery.2 (by simp)
      rw [process_snoc]
      exact mirror_beside stamped earlier

theorem process_view
    (own : ∀ event ∈ deliveries.map Prod.snd, event.key = key ∧ event.stamped = true) :
    viewOf key issueID (process database deliveries) =
      (deliveries.map Prod.snd).foldl (View.receive database issueID) (viewOf key issueID database) := by
  induction deliveries using List.reverseRecOn with
  | nil => rfl
  | append_singleton front delivery ih =>
      have ownFront : ∀ event ∈ front.map Prod.snd, event.key = key ∧ event.stamped = true :=
        fun event member => own event (by simp at member ⊢; exact Or.inl member)
      have earlier := ih ownFront
      have beside := process_beside database ownFront
      obtain ⟨rfl, stamped⟩ := own delivery.2 (by simp)
      rw [process_snoc, mirror_view stamped beside, List.map_append, List.foldl_append, ← earlier]
      rfl

theorem converges_views {events : List Event} (history : History database key events) :
    Converges database key events ↔ ∀ issueID delivered, Delivers events delivered →
      delivered.foldl (View.receive database issueID) (viewOf key issueID database) =
        events.foldl (View.receive database issueID) (viewOf key issueID database) := by
  have own : ∀ event ∈ events, event.key = key ∧ event.stamped = true :=
    fun event member => ⟨history.own event member, history.stamped event member⟩
  have dated : ∀ listed : List Event, (listed.map fun event => ((0, event) : Time × Event)).map Prod.snd =
      listed := by
    intro listed
    rw [List.map_map]
    exact List.map_id listed
  constructor
  · intro converges issueID delivered delivers
    have agree := agree_iff.mp (converges (delivered.map fun event => (0, event))
      (events.map fun event => (0, event)) (by rw [dated]; exact delivers) (dated events)) issueID
    rw [process_view, process_view, dated, dated] at agree
    · exact agree
    · rw [dated]
      exact own
    · rw [dated]
      exact fun event member => own event ((delivers event).mp member)
  · intro same delivered real delivers rfl
    refine agree_iff.mpr fun issueID => ?_
    rw [process_view own, process_view fun event member => own event ((delivers event).mp member)]
    exact same issueID _ delivers

end Views

section Register

variable {database : Database} {issueID : Nat} {view : View} {event : Event}

theorem merge_updatedAt (event : Event) (old : Option PullRequest) :
    (event.merge old).columns.prUpdatedAt = event.time := by
  cases event with
  | github workspaceID installationID p => cases old <;> rfl
  | vcs conn ev => cases old <;> rfl

theorem remirrorGitHub_again (pull old : PullRequest) (clear : Bool) :
    remirrorGitHub pull clear (remirrorGitHub pull clear old) = remirrorGitHub pull clear old := by
  cases clear with
  | true => rfl
  | false =>
      simp only [remirrorGitHub, Bool.false_eq_true, if_false]
      cases pull.mergeableState with
      | none => rfl
      | some state => rfl

theorem mergeable_row {workspaceID : Nat} {installationID : Int} {p : GhPullRequestPayload} :
    remirrorGitHub (Event.github workspaceID installationID p).row p.mergeable.2
        (Event.github workspaceID installationID p).row = (Event.github workspaceID installationID p).row := by
  have cleared : p.mergeable.2 = true → p.mergeable.1 = none := by
    rw [GhPullRequestPayload.mergeable, derivePRMergeableState]
    split
    · exact fun _ => rfl
    · split
      · exact fun _ => rfl
      · split
        · exact nofun
        · exact nofun
  rw [remirrorGitHub]
  cases clear : p.mergeable.2 with
  | true =>
      rw [if_pos rfl, ← cleared clear]
      rfl
  | false =>
      rw [if_neg Bool.false_ne_true, Option.or_self]

theorem merge_again (event : Event) (old : Option PullRequest) :
    event.merge (some (event.merge old)) = event.merge old := by
  cases event with
  | github workspaceID installationID p =>
      cases old with
      | none => exact mergeable_row
      | some stored => exact remirrorGitHub_again _ stored p.mergeable.2
  | vcs conn ev =>
      cases old with
      | none => rfl
      | some stored => rfl

theorem relinked_again (preserve : Bool) (old new : Option Link) :
    relinked preserve (relinked preserve old new) new = relinked preserve old new := by
  cases preserve <;> cases old <;> cases new <;> rfl

theorem advance_clock (view : View) (event : Event) :
    (view.advance database issueID event).clock = some event.time :=
  congrArg some (merge_updatedAt event view.row)

theorem advance_again (view : View) (event : Event) :
    (view.advance database issueID event).advance database issueID event =
      view.advance database issueID event := by
  simp only [View.advance, merge_again, relinked_again]
  refine congrArg (View.mk _ _) ?_
  split
  · rfl
  · rfl

theorem advance_register (database : Database) (issueID : Nat) :
    Register Event.time View.clock (View.advance database issueID) :=
  ⟨advance_clock, advance_again⟩

end Register

section Applied

variable {database : Database} {issueID : Nat} {events kept : List Event} {event last : Event}

def firstLink (database : Database) (issueID : Nat) (event : Event) : Option Link :=
  relinked event.texts.preserveCloseIntent (database.links.lookup (issueID, event.key))
    (event.writes database issueID)

def applied (database : Database) (issueID : Nat) (key : Key) (kept : List Event) : View :=
  kept.foldl (View.advance database issueID) (viewOf key issueID database)

structure Naming (database : Database) (issueID : Nat) (key : Key) (events : List Event) : Prop where
  own : ∀ event ∈ events, event.key = key
  writes : ∀ event ∈ events, (event.writes database issueID).isSome = true

variable {key : Key}

theorem applied_snoc (front : List Event) (event : Event) :
    applied database issueID key (front ++ [event]) =
      (applied database issueID key front).advance database issueID event := by
  rw [applied, List.foldl_append]
  rfl

theorem applied_single (own : event.key = key) :
    (applied database issueID key [event]).link = firstLink database issueID event := by
  rw [firstLink, own]
  rfl

theorem applied_overwrites {front : List Event} (writes : (event.writes database issueID).isSome = true)
    (overwrites : event.texts.preserveCloseIntent = false) :
    (applied database issueID key (front ++ [event])).link = firstLink database issueID event := by
  obtain ⟨wrote, written⟩ := Option.isSome_iff_exists.mp writes
  rw [applied_snoc]
  simp only [View.advance, firstLink, relinked, overwrites, written, Bool.false_eq_true, if_false,
    Option.some_or]

theorem relinked_isSome {preserve : Bool} {old new : Option Link} (wrote : new.isSome = true) :
    (relinked preserve old new).isSome = true := by
  cases preserve with
  | true => simp [relinked, wrote]
  | false => simp [relinked, wrote]

theorem applied_preserves {front : List Event} {earlier : Event}
    (writes : (earlier.writes database issueID).isSome = true)
    (preserves : event.texts.preserveCloseIntent = true) :
    (applied database issueID key (front ++ [earlier] ++ [event])).link =
      (applied database issueID key (front ++ [earlier])).link := by
  have linked : (applied database issueID key (front ++ [earlier])).link.isSome = true := by
    rw [applied_snoc]
    exact relinked_isSome writes
  obtain ⟨stored, linked⟩ := Option.isSome_iff_exists.mp linked
  rw [applied_snoc _ event, View.advance]
  simp only [relinked, preserves, if_true, linked, Option.some_or]

theorem applied_pair {earlier : Event} (own : earlier.key = key)
    (writes : (earlier.writes database issueID).isSome = true)
    (preserves : event.texts.preserveCloseIntent = true) :
    (applied database issueID key [earlier, event]).link = firstLink database issueID earlier := by
  have kept : (applied database issueID key ([] ++ [earlier] ++ [event])).link =
      (applied database issueID key ([] ++ [earlier])).link := applied_preserves writes preserves
  exact kept.trans (applied_single own)

theorem applied_link (naming : Naming database issueID key kept) (final : kept.getLast? = some last) :
    ∃ source ∈ kept, (applied database issueID key kept).link = firstLink database issueID source ∧
      (source = last ∨ last.texts.preserveCloseIntent = true) := by
  induction kept using List.reverseRecOn generalizing last with
  | nil => contradiction
  | append_singleton front event ih =>
      have same : event = last := by simpa using final
      subst same
      have writes := naming.writes event (by simp)
      cases preserve : event.texts.preserveCloseIntent with
      | false => exact ⟨event, by simp, applied_overwrites writes preserve, Or.inl rfl⟩
      | true =>
          cases early : front.getLast? with
          | none =>
              rw [List.getLast?_eq_none_iff.mp early]
              exact ⟨event, by simp, applied_single (naming.own event (by simp)), Or.inl rfl⟩
          | some earlier =>
              have namingFront : Naming database issueID key front :=
                ⟨fun event member => naming.own event (by simp [member]),
                  fun event member => naming.writes event (by simp [member])⟩
              obtain ⟨source, member, link, -⟩ := ih namingFront early
              obtain ⟨before, rfl⟩ := List.getLast?_eq_some_iff.mp early
              refine ⟨source, List.mem_append_left _ member, ?_, Or.inr rfl⟩
              rw [applied_preserves (namingFront.writes earlier (by simp)) preserve, link]

def Fires (database : Database) (issueID : Nat) (key : Key) (kept : List Event) : Prop :=
  ∃ front event, (front ++ [event]).IsPrefix kept ∧
    gate database issueID event (applied database issueID key (front ++ [event])).link = true

theorem applied_status (key : Key) (kept : List Event) (live : (database.status issueID).live = true) :
    ((applied database issueID key kept).status = .done ∧ Fires database issueID key kept) ∨
      ((applied database issueID key kept).status = database.status issueID ∧
        ¬Fires database issueID key kept) := by
  induction kept using List.reverseRecOn with
  | nil =>
      refine Or.inr ⟨rfl, ?_⟩
      rintro ⟨front, event, before, -⟩
      exact absurd (List.prefix_nil.mp before) (by simp)
  | append_singleton front event ih =>
      have earlier : Fires database issueID key (front ++ [event]) ↔ Fires database issueID key front ∨
          gate database issueID event (applied database issueID key (front ++ [event])).link = true := by
        constructor
        · rintro ⟨before, source, initial, opened⟩
          rcases List.prefix_concat_iff.mp initial with whole | earlier
          · obtain ⟨rfl, same⟩ := List.append_inj' whole rfl
            rw [← List.singleton_inj.mp same]
            exact Or.inr opened
          · exact Or.inl ⟨before, source, earlier, opened⟩
        · rintro (⟨before, source, initial, opened⟩ | opened)
          · exact ⟨before, source, initial.trans (List.prefix_append _ _), opened⟩
          · exact ⟨front, event, List.prefix_refl _, opened⟩
      rw [earlier, applied_snoc]
      simp only [View.advance]
      rcases ih with ⟨done, fired⟩ | ⟨kept, quiet⟩
      · refine Or.inl ⟨?_, Or.inl fired⟩
        rw [done]
        rfl
      · rw [kept, live, Bool.true_and]
        split
        · rename_i opened
          exact Or.inl ⟨rfl, Or.inr opened⟩
        · rename_i refused
          exact Or.inr ⟨rfl, fun fired => fired.elim quiet refused⟩

theorem applied_done_iff (key : Key) (kept : List Event) (live : (database.status issueID).live = true) :
    (applied database issueID key kept).status = .done ↔ Fires database issueID key kept := by
  rcases applied_status key kept live with ⟨done, fires⟩ | ⟨same, quiet⟩
  · exact iff_of_true done fires
  · refine iff_of_false (fun done => ?_) quiet
    rw [same] at done
    rw [done] at live
    contradiction

theorem applied_dead (dead : (database.status issueID).live = false) :
    (applied database issueID key kept).status = database.status issueID := by
  induction kept using List.reverseRecOn with
  | nil => rfl
  | append_singleton front event ih =>
      rw [applied_snoc, View.advance, ih, dead, Bool.false_and]
      rfl

theorem applied_unnamed (database : Database) (issueID : Nat) (key : Key)
    (unnamed : ∀ event ∈ kept, event.writes database issueID = none) :
    (applied database issueID key kept).link = database.links.lookup (issueID, key) ∧
      (applied database issueID key kept).status = database.status issueID := by
  induction kept using List.reverseRecOn with
  | nil => exact ⟨rfl, rfl⟩
  | append_singleton front event ih =>
      obtain ⟨link, status⟩ := ih fun earlier member => unnamed earlier (by simp [member])
      have silent := unnamed event (by simp)
      rw [applied_snoc]
      simp only [View.advance, silent, link, status]
      constructor
      · cases preserve : event.texts.preserveCloseIntent with
        | true => simp [relinked]
        | false => simp [relinked]
      · rw [gate, silent]
        simp

theorem merge_over {connLast conn : VcsConnection} {evLast ev : PullRequestEvent}
    (own : evLast.key connLast = ev.key conn) (created : evLast.createdAt = ev.createdAt)
    (old : Option PullRequest) :
    (Event.vcs connLast evLast).merge (some ((Event.vcs conn ev).merge old)) =
      (Event.vcs connLast evLast).merge old := by
  cases old with
  | none =>
      simp only [Event.merge, Option.map_some, Option.map_none, Option.getD_some, Option.getD_none, takeOver,
        Event.row, PullRequestEvent.row, own, created]
  | some stored => rfl

theorem applied_row (selfHosted : ∀ event ∈ kept, ∃ conn ev, event = .vcs conn ev)
    (own : ∀ event ∈ kept, event.key = key)
    (created : ∀ left ∈ kept, ∀ right ∈ kept, left.createdAt = right.createdAt)
    (final : kept.getLast? = some last) :
    (applied database issueID key kept).row = some (last.merge (database.pulls.lookup key)) := by
  induction kept using List.reverseRecOn generalizing last with
  | nil => contradiction
  | append_singleton front event ih =>
      have same : event = last := by simpa using final
      subst same
      rw [applied_snoc]
      cases early : front.getLast? with
      | none =>
          rw [List.getLast?_eq_none_iff.mp early]
          rfl
      | some earlier =>
          have listed := List.mem_of_getLast? early
          have row := ih (fun event member => selfHosted event (by simp [member]))
            (fun event member => own event (by simp [member]))
            (fun left leftMember right rightMember =>
              created left (by simp [leftMember]) right (by simp [rightMember])) early
          obtain ⟨connLast, evLast, rfl⟩ := selfHosted event (by simp)
          obtain ⟨conn, ev, rfl⟩ := selfHosted earlier (by simp [listed])
          have keys := (own (.vcs connLast evLast) (by simp)).trans (own (.vcs conn ev) (by simp [listed])).symm
          have dates := created (.vcs connLast evLast) (by simp) (.vcs conn ev) (by simp [listed])
          rw [View.advance, row, merge_over keys dates]

end Applied

end MulticaOS.PullRequests
