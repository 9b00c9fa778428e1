import MulticaOS.PullRequests.Orders

/-!
When the order of delivery does not matter.  For GitHub there must be nothing to reorder.  For a
self-hosted provider the last event must settle by itself what the events before it could have
left behind: the flags of the links, and the issues they could have closed.
-/

namespace MulticaOS.PullRequests

open UpsertLib
open DeliveryLib

def recentEvents (database : Database) (events : List Event) : List Event :=
  events.filter fun event => !event.ignored (database.pulls.lookup event.key)

/-- What the last of the events settles for an issue.  An event that preserves flags keeps those of
the event before it, so that a link has the flags of any of them. -/
structure Settles (database : Database) (issueID : Nat) (events : List Event) (last : Event) : Prop where
  flags : last.texts.preserveCloseIntent = false ∨
    ∀ event ∈ events, firstLink database issueID event = firstLink database issueID last
  status : (database.status issueID).live = true → ∀ source ∈ events, ∀ event ∈ events,
    source.time ≤ event.time → (source = event ∨ event.texts.preserveCloseIntent = true) →
    gate database issueID event (firstLink database issueID source) = true →
    gate database issueID last (firstLink database issueID last) = true

def Settled (database : Database) (key : Key) (events : List Event) : Prop :=
  match key with
  | .github _ _ _ _ => events.length ≤ 1
  | .vcs _ _ _ _ => ∀ last, (recentEvents database events).getLast? = some last → ∀ issueID,
      Named database last.texts issueID → Settles database issueID (recentEvents database events) last

section SelfHosted

variable {database : Database} {issueID : Nat} {key : Key} {events recent kept : List Event} {last : Event}

structure SelfHosted (key : Key) (events : List Event) : Prop where
  own : ∀ event ∈ events, event.key = key
  vcs : ∀ event ∈ events, ∃ conn ev, event = .vcs conn ev
  created : ∀ left ∈ events, ∀ right ∈ events, left.createdAt = right.createdAt
  increasing : Increasing Event.time events

theorem SelfHosted.row (selfHosted : SelfHosted key recent) (subset : kept ⊆ recent)
    (final : kept.getLast? = some last) :
    (applied database issueID key kept).row = some (last.merge (database.pulls.lookup key)) :=
  applied_row (fun event member => selfHosted.vcs event (subset member))
    (fun event member => selfHosted.own event (subset member))
    (fun left leftMember right rightMember =>
      selfHosted.created left (subset leftMember) right (subset rightMember)) final

theorem Naming.sublist (naming : Naming database issueID key recent) (subset : kept ⊆ recent) :
    Naming database issueID key kept :=
  ⟨fun event member => naming.own event (subset member), fun event member => naming.writes event (subset member)⟩

theorem ending_extends (increasing : Increasing Event.time recent) (keptIncreasing : Increasing Event.time kept)
    (subset : kept ⊆ recent) (final : recent.getLast? = some last) :
    ∃ extended, Ending recent extended ∧ kept.IsPrefix extended := by
  cases early : kept.getLast? with
  | none =>
      rw [List.getLast?_eq_none_iff.mp early]
      exact ⟨recent, ⟨List.Sublist.refl recent, rfl⟩, List.nil_prefix⟩
  | some newest =>
      have newestRecent := subset (List.mem_of_getLast? early)
      have top := increasing.last_le newestRecent final
      by_cases same : newest = last
      · exact ⟨kept, ⟨keptIncreasing.sublist increasing subset, by rw [early, final, same]⟩,
          List.prefix_refl kept⟩
      · have lastRecent := List.mem_of_getLast? final
        have apart : newest.time ≠ last.time := fun times => same (increasing.inj newestRecent lastRecent times)
        have later : ∀ earlier ∈ kept, earlier.time < last.time := by
          intro earlier member
          exact Nat.lt_of_le_of_lt (keptIncreasing.last_le member early) (Nat.lt_of_le_of_ne top apart)
        have extended : kept ++ [last] ⊆ recent := by
          intro event member
          rcases List.mem_append.mp member with earlier | newer
          · exact subset earlier
          · rw [List.mem_singleton.mp newer]
            exact lastRecent
        refine ⟨kept ++ [last], ⟨(keptIncreasing.snoc later).sublist increasing extended, ?_⟩,
          List.prefix_append kept [last]⟩
        rw [final]
        exact List.getLast?_append_of_ne_nil _ (List.cons_ne_nil _ _)

theorem Fires.extend {extended : List Event} (fires : Fires database issueID key kept)
    (initial : kept.IsPrefix extended) : Fires database issueID key extended := by
  obtain ⟨front, event, before, opened⟩ := fires
  exact ⟨front, event, before.trans initial, opened⟩

theorem fires_single (own : last.key = key) : Fires database issueID key [last] ↔
    gate database issueID last (firstLink database issueID last) = true := by
  have alone : (applied database issueID key [last]).link = firstLink database issueID last :=
    applied_single own
  constructor
  · rintro ⟨front, event, before, opened⟩
    rcases List.prefix_concat_iff.mp (show (front ++ [event]).IsPrefix ([] ++ [last]) from before) with
      whole | none
    · obtain ⟨rfl, same⟩ := List.append_inj' whole rfl
      rw [List.singleton_inj.mp same, List.nil_append, alone] at opened
      exact opened
    · exact absurd (List.prefix_nil.mp none) (by simp)
  · intro opened
    exact ⟨[], last, List.prefix_refl _, by rw [List.nil_append, alone]; exact opened⟩

theorem settles_of_same (increasing : Increasing Event.time recent)
    (naming : Naming database issueID key recent) (final : recent.getLast? = some last)
    (same : ∀ kept, Ending recent kept →
      applied database issueID key kept = applied database issueID key recent) :
    Settles database issueID recent last := by
  have lastRecent := List.mem_of_getLast? final
  have lastOwn := naming.own last lastRecent
  have alone : Ending recent [last] := ⟨List.singleton_sublist.mpr lastRecent, final.symm⟩
  constructor
  · cases preserve : last.texts.preserveCloseIntent with
    | false => exact Or.inl rfl
    | true =>
        refine Or.inr fun event member => ?_
        by_cases newest : event = last
        · rw [newest]
        · have before : event.time < last.time := by
            refine Nat.lt_of_le_of_ne (increasing.last_le member final) fun times => newest ?_
            exact increasing.inj member lastRecent times
          have pair : Increasing Event.time [event, last] := by simpa [Increasing] using before
          have subset : [event, last] ⊆ recent := by simp [member, lastRecent]
          have ending : Ending recent [event, last] := ⟨pair.sublist increasing subset, by simp [final]⟩
          have links := congrArg View.link ((same _ ending).trans (same _ alone).symm)
          rw [applied_pair (naming.own event member) (naming.writes event member) preserve,
            applied_single lastOwn] at links
          exact links
  · intro live source sourceRecent event eventRecent order role opened
    have fires : ∃ kept, kept ⊆ recent ∧ Increasing Event.time kept ∧ Fires database issueID key kept := by
      by_cases one : source = event
      · subst one
        exact ⟨[source], by simp [sourceRecent], List.pairwise_singleton _ _,
          (fires_single (naming.own source sourceRecent)).mpr opened⟩
      · have before : source.time < event.time := by
          refine Nat.lt_of_le_of_ne order fun times => one ?_
          exact increasing.inj sourceRecent eventRecent times
        refine ⟨[source, event], by simp [sourceRecent, eventRecent],
          by simpa [Increasing] using before, [source], event, List.prefix_refl _, ?_⟩
        rw [List.singleton_append, applied_pair (naming.own source sourceRecent)
          (naming.writes source sourceRecent) (role.resolve_left one)]
        exact opened
    obtain ⟨kept, subset, keptIncreasing, fires⟩ := fires
    obtain ⟨extended, ending, initial⟩ := ending_extends increasing keptIncreasing subset final
    have done := (applied_done_iff key extended live).mpr (fires.extend initial)
    rw [(same extended ending).trans (same [last] alone).symm, applied_done_iff key [last] live] at done
    exact (fires_single lastOwn).mp done

theorem same_of_settles (selfHosted : SelfHosted key recent)
    (naming : Naming database issueID key recent) (final : recent.getLast? = some last)
    (settles : Settles database issueID recent last) (ending : Ending recent kept) :
    applied database issueID key kept =
      ⟨some (last.merge (database.pulls.lookup key)), firstLink database issueID last,
        if (database.status issueID).live && gate database issueID last (firstLink database issueID last)
        then .done else database.status issueID⟩ := by
  have subset := ending.1.subset
  have keptFinal : kept.getLast? = some last := ending.2.trans final
  have keptNaming := naming.sublist subset
  have row : (applied database issueID key kept).row = some (last.merge (database.pulls.lookup key)) :=
    selfHosted.row subset keptFinal
  have link : (applied database issueID key kept).link = firstLink database issueID last := by
    obtain ⟨source, member, link, role⟩ := applied_link keptNaming keptFinal
    rw [link]
    rcases settles.flags with overwrites | same
    · rcases role with rfl | preserves
      · rfl
      · rw [overwrites] at preserves
        contradiction
    · exact same source (subset member)
  have fires : Fires database issueID key kept → (database.status issueID).live = true →
      gate database issueID last (firstLink database issueID last) = true := by
    rintro ⟨front, event, initial, opened⟩ live
    have within : front ++ [event] ⊆ recent := fun other member => subset (initial.subset member)
    have newest : (front ++ [event]).getLast? = some event := by simp
    obtain ⟨source, member, wrote, role⟩ := applied_link (naming.sublist within) newest
    have listed : Increasing Event.time (front ++ [event]) :=
      List.Pairwise.sublist (initial.sublist.trans ending.1) selfHosted.increasing
    rw [wrote] at opened
    exact settles.status live source (within member) event (within (by simp))
      (listed.last_le member newest) role opened
  have status : (applied database issueID key kept).status =
      if (database.status issueID).live && gate database issueID last (firstLink database issueID last)
      then .done else database.status issueID := by
    cases live : (database.status issueID).live with
    | false => rw [applied_dead live, Bool.false_and, if_neg Bool.false_ne_true]
    | true =>
        rw [Bool.true_and]
        split
        · rename_i opened
          obtain ⟨front, rfl⟩ := List.getLast?_eq_some_iff.mp keptFinal
          refine (applied_done_iff key (front ++ [last]) live).mpr ⟨front, last, List.prefix_refl _, ?_⟩
          rw [link]
          exact opened
        · rename_i refused
          rcases applied_status key kept live with ⟨-, fired⟩ | ⟨same, -⟩
          · exact absurd (fires fired live) refused
          · exact same
  rw [← row, ← status, ← link]

theorem same_of_unnamed (selfHosted : SelfHosted key recent)
    (unnamed : ∀ event ∈ recent, event.writes database issueID = none)
    (final : recent.getLast? = some last) (ending : Ending recent kept) :
    applied database issueID key kept =
      ⟨some (last.merge (database.pulls.lookup key)), database.links.lookup (issueID, key),
        database.status issueID⟩ := by
  have subset := ending.1.subset
  have row : (applied database issueID key kept).row = some (last.merge (database.pulls.lookup key)) :=
    selfHosted.row subset (ending.2.trans final)
  obtain ⟨link, status⟩ := applied_unnamed database issueID key fun event member => unnamed event (subset member)
  rw [← row, ← link, ← status]

theorem ignored_stale {conn : VcsConnection} {ev : PullRequestEvent} {view : View}
    (named : ev.nameless = false) :
    (Event.vcs conn ev).ignored view.row = stale Event.time View.clock view (.vcs conn ev) := by
  rw [Event.ignored, named, Bool.false_or, stale, View.clock]
  cases view.row with
  | none => rfl
  | some pull => rfl

theorem receive_register (issueID : Nat) (view : View) {event : Event}
    (selfHosted : ∃ conn ev, event = .vcs conn ev ∧ ev.nameless = false) :
    View.receive database issueID view event =
      receive Event.time View.clock (View.advance database issueID) view event := by
  obtain ⟨conn, ev, rfl, named⟩ := selfHosted
  rw [View.receive, receive, ignored_stale named]

theorem foldl_ignored {view : View} {listed : List Event}
    (ignored : ∀ event ∈ listed, event.ignored view.row = true) :
    listed.foldl (View.receive database issueID) view = view := by
  induction listed with
  | nil => rfl
  | cons event rest ih =>
      rw [List.foldl_cons, View.receive, if_pos (ignored event (by simp))]
      exact ih fun other member => ignored other (by simp [member])

end SelfHosted

section Main

variable {database : Database} {key : Key} {events : List Event}

theorem vcs_of_key {connectionID : Nat} {owner name : String} {number : Int} {event : Event}
    (own : event.key = .vcs connectionID owner name number) :
    ∃ conn ev, event = .vcs conn ev ∧
      ev.nameless = (owner = "" || name = "" || number = 0 : Bool) := by
  cases event with
  | github workspaceID installationID p => contradiction
  | vcs conn ev =>
      obtain ⟨-, rfl, rfl, rfl⟩ := Key.vcs.inj own
      exact ⟨conn, ev, rfl, rfl⟩

theorem view_converges (issueID : Nat) (own : ∀ event ∈ events, event.key = key)
    (selfHosted : ∀ event ∈ events, ∃ conn ev, event = .vcs conn ev ∧ ev.nameless = false)
    (increasing : Increasing Event.time events) :
    (∀ delivered, Delivers events delivered →
      delivered.foldl (View.receive database issueID) (viewOf key issueID database) =
        events.foldl (View.receive database issueID) (viewOf key issueID database)) ↔
    ∀ kept, Ending (recentEvents database events) kept →
      applied database issueID key kept = applied database issueID key (recentEvents database events) := by
  have fresh : recentEvents database events =
      recent Event.time View.clock (viewOf key issueID database) events := by
    refine List.filter_congr fun event member => ?_
    obtain ⟨conn, ev, rfl, named⟩ := selfHosted event member
    rw [own _ member, ← ignored_stale named]
    rfl
  have received : ∀ listed : List Event, listed ⊆ events → ∀ view : View,
      listed.foldl (View.receive database issueID) view =
        listed.foldl (receive Event.time View.clock (View.advance database issueID)) view := by
    intro listed subset view
    exact List.foldl_ext _ _ view fun view event member =>
      receive_register issueID view (selfHosted event (subset member))
  rw [fresh]
  refine Iff.trans ?_ (converges_iff (advance_register database issueID) increasing)
  constructor
  · intro same delivered delivers
    have subset : delivered ⊆ events := fun event member => (delivers event).mp member
    rw [← received delivered subset, ← received events (List.Subset.refl events)]
    exact same delivered delivers
  · intro same delivered delivers
    have subset : delivered ⊆ events := fun event member => (delivers event).mp member
    rw [received delivered subset, received events (List.Subset.refl events)]
    exact same delivered delivers

theorem writes_vcs {issueID : Nat} {event : Event} (selfHosted : ∃ conn ev, event = .vcs conn ev) :
    (event.writes database issueID).isSome = true ↔ Named database event.texts issueID := by
  obtain ⟨conn, ev, rfl⟩ := selfHosted
  exact written_isSome

theorem converges_vcs {connectionID : Nat} {owner name : String} {number : Int}
    (history : History database (.vcs connectionID owner name number) events) :
    Converges database (.vcs connectionID owner name number) events ↔
      Settled database (.vcs connectionID owner name number) events := by
  rw [converges_views history, Settled]
  cases named : (owner = "" || name = "" || number = 0 : Bool) with
  | true =>
      have ignored : ∀ event ∈ events, ∀ row, event.ignored row = true := by
        intro event member row
        obtain ⟨conn, ev, rfl, nameless⟩ := vcs_of_key (history.own event member)
        rw [Event.ignored, nameless, named, Bool.true_or]
      refine iff_of_true (fun issueID delivered delivers => ?_) fun last final => ?_
      · rw [foldl_ignored fun event member => ignored event ((delivers event).mp member) _,
          foldl_ignored fun event member => ignored event member _]
      · have listed := List.mem_of_getLast? final
        rw [recentEvents, List.mem_filter] at listed
        rw [ignored last listed.1] at listed
        exact absurd listed.2 (by simp)
  | false =>
      have selfHosted : ∀ event ∈ events, ∃ conn ev, event = .vcs conn ev ∧ ev.nameless = false := by
        intro event member
        obtain ⟨conn, ev, same, nameless⟩ := vcs_of_key (history.own event member)
        exact ⟨conn, ev, same, nameless.trans named⟩
      have subset : recentEvents database events ⊆ events := List.filter_subset_self _
      have recentSelfHosted : SelfHosted (.vcs connectionID owner name number) (recentEvents database events) := by
        constructor
        · exact fun event member => history.own event (subset member)
        · intro event member
          obtain ⟨conn, ev, same, -⟩ := selfHosted event (subset member)
          exact ⟨conn, ev, same⟩
        · exact fun left leftMember right rightMember =>
            history.created left (subset leftMember) right (subset rightMember)
        · exact history.increasing.filter _
      have writes : ∀ last ∈ recentEvents database events, ∀ event ∈ recentEvents database events,
          ∀ issueID, (event.writes database issueID).isSome = true ↔ Named database last.texts issueID := by
        intro last lastMember event member issueID
        rw [writes_vcs (recentSelfHosted.vcs event member),
          history.names event (subset member) last (subset lastMember)]
      constructor
      · intro converges last final issueID named
        have same := (view_converges issueID history.own selfHosted history.increasing).mp (converges issueID)
        have naming : Naming database issueID _ (recentEvents database events) :=
          ⟨recentSelfHosted.own,
            fun event member => (writes last (List.mem_of_getLast? final) event member issueID).mpr named⟩
        exact settles_of_same recentSelfHosted.increasing naming final same
      · intro settled issueID
        refine (view_converges issueID history.own selfHosted history.increasing).mpr fun kept ending => ?_
        cases final : (recentEvents database events).getLast? with
        | none =>
            have none := ending.2.trans final
            rw [List.getLast?_eq_none_iff.mp none, List.getLast?_eq_none_iff.mp final]
        | some last =>
            have whole : Ending (recentEvents database events) (recentEvents database events) :=
              ⟨List.Sublist.refl _, rfl⟩
            have wrote := fun event member => writes last (List.mem_of_getLast? final) event member issueID
            by_cases named : Named database last.texts issueID
            · have settles := settled last final issueID named
              have naming : Naming database issueID _ (recentEvents database events) :=
                ⟨recentSelfHosted.own, fun event member => (wrote event member).mpr named⟩
              rw [same_of_settles recentSelfHosted naming final settles ending,
                same_of_settles recentSelfHosted naming final settles whole]
            · have unnamed : ∀ event ∈ recentEvents database events, event.writes database issueID = none :=
                fun event member => Option.not_isSome_iff_eq_none.mp fun some =>
                  named ((wrote event member).mp some)
              rw [same_of_unnamed recentSelfHosted unnamed final ending,
                same_of_unnamed recentSelfHosted unnamed final whole]

theorem github_of_key {workspaceID : Nat} {owner name : String} {number : Int} {event : Event}
    (own : event.key = .github workspaceID owner name number) :
    ∃ installationID p, event = .github workspaceID installationID p := by
  cases event with
  | github other installationID p =>
      obtain ⟨rfl, -⟩ := Key.github.inj own
      exact ⟨installationID, p, rfl⟩
  | vcs conn ev => contradiction

theorem receive_github {issueID : Nat} {view : View} {event : Event}
    (github : ∃ workspaceID installationID p, event = .github workspaceID installationID p) :
    View.receive database issueID view event = view.advance database issueID event := by
  obtain ⟨workspaceID, installationID, p, rfl⟩ := github
  rfl

theorem github_clock (issueID : Nat) (view : View) (front : List Event) {event : Event}
    (github : ∃ workspaceID installationID p, event = .github workspaceID installationID p) :
    ((front ++ [event]).foldl (View.receive database issueID) view).clock = some event.time := by
  rw [List.foldl_append, List.foldl_cons, List.foldl_nil, receive_github github]
  exact advance_clock _ event

theorem foldl_again {issueID : Nat} {view : View} {event : Event} {listed : List Event}
    (github : ∃ workspaceID installationID p, event = .github workspaceID installationID p)
    (same : ∀ other ∈ listed, other = event) :
    listed.foldl (View.receive database issueID) (view.advance database issueID event) =
      view.advance database issueID event := by
  induction listed with
  | nil => rfl
  | cons head rest ih =>
      rw [List.foldl_cons, same head (by simp), receive_github github, advance_again]
      exact ih fun other member => same other (by simp [member])

theorem converges_github {workspaceID : Nat} {owner name : String} {number : Int}
    (history : History database (.github workspaceID owner name number) events) :
    Converges database (.github workspaceID owner name number) events ↔
      Settled database (.github workspaceID owner name number) events := by
  rw [converges_views history, Settled]
  have github : ∀ event ∈ events, ∃ workspaceID installationID p,
      event = .github workspaceID installationID p :=
    fun event member => ⟨workspaceID, github_of_key (history.own event member)⟩
  cases events with
  | nil =>
      refine iff_of_true (fun issueID delivered delivers => ?_) (by simp)
      have none : delivered = [] := List.eq_nil_iff_forall_not_mem.mpr fun event member =>
        absurd ((delivers event).mp member) List.not_mem_nil
      rw [none]
  | cons first rest =>
      cases rest with
      | nil =>
          refine iff_of_true (fun issueID delivered delivers => ?_) (by simp)
          have single := github first (by simp)
          have same : ∀ event ∈ delivered, event = first := fun event member =>
            List.mem_singleton.mp ((delivers event).mp member)
          cases delivered with
          | nil => exact absurd ((delivers first).mpr (by simp)) List.not_mem_nil
          | cons head others =>
              rw [same head (by simp), List.foldl_cons, List.foldl_cons, List.foldl_nil,
                receive_github single]
              exact foldl_again single fun event member => same event (by simp [member])
      | cons second others =>
          refine iff_of_false (fun converges => ?_) (by simp)
          obtain ⟨front, last, split⟩ : ∃ front last, second :: others = front ++ [last] :=
            ⟨_, _, (List.dropLast_append_getLast (List.cons_ne_nil second others)).symm⟩
          have lastMember : last ∈ second :: others := by simp [split]
          -- The first event once more, after all others.
          have repeated : Delivers (first :: second :: others) ((first :: second :: others) ++ [first]) := by
            intro event
            simp
            tauto
          have clocks := congrArg View.clock (converges 0 _ repeated)
          rw [github_clock 0 _ _ (github first (by simp)), split, ← List.cons_append,
            github_clock 0 _ _ (github last (List.mem_cons_of_mem first lastMember))] at clocks
          have before := (List.pairwise_cons.mp history.increasing).1 last lastMember
          exact absurd (Option.some.inj clocks) (Nat.ne_of_lt before)

/-- The order of delivery does not matter to a GitHub pull request only where there is no order,
and to another one where its last event settles everything. -/
theorem delivery_order_matters (history : History database key events) :
    Converges database key events ↔ Settled database key events := by
  cases key with
  | github workspaceID owner name number => exact converges_github history
  | vcs connectionID owner name number => exact converges_vcs history

def gitea (action : String) (state : State) (updatedAt : Time) : Event :=
  .vcs ⟨1, 1, "gitea"⟩ ⟨action, "octo", "repo", 42, "Closes MUL-1", "", state, "", "work", "head", "dev", "",
    0, 0, 0, none, none, some 1, some updatedAt⟩

theorem history_of_texts (own : ∀ event ∈ events, event.key = key)
    (stamped : ∀ event ∈ events, event.stamped = true)
    (created : ∀ left ∈ events, ∀ right ∈ events, left.createdAt = right.createdAt)
    (increasing : Increasing Event.time events)
    (texts : ∀ left ∈ events, ∀ right ∈ events, left.texts.workspaceID = right.texts.workspaceID ∧
      identifiers left.texts = identifiers right.texts) : History database key events := by
  refine ⟨own, stamped, created, increasing, fun left leftMember right rightMember issueID => ?_⟩
  obtain ⟨workspace, same⟩ := texts left leftMember right rightMember
  rw [Named, Named, workspace, same]

def merging : List Event := [gitea "opened" .opened 1, gitea "closed" .merged 2]

theorem merging_history : History tracker (gitea "" .opened 0).key merging :=
  history_of_texts (by decide +kernel) (by decide +kernel) (by decide +kernel)
    (by unfold Increasing; decide +kernel) (by decide +kernel)

theorem delivery_order_matters_merging : Converges tracker (gitea "" .opened 0).key merging ↔
    Settled tracker (gitea "" .opened 0).key merging :=
  delivery_order_matters merging_history

def editedAfterMerge : List Event := merging ++ [gitea "edited" .merged 3]

def pushes : List Event := [delivery "opened" "MUL-1" "open" false 1, delivery "edited" "MUL-1" "open" false 2]

theorem delivery_order_diverges :
    (History tracker (delivery "" "" "" false 0).key pushes ∧
      ¬Converges tracker (delivery "" "" "" false 0).key pushes) ∧
    History tracker (gitea "" .opened 0).key editedAfterMerge ∧
      ¬Converges tracker (gitea "" .opened 0).key editedAfterMerge := by
  refine ⟨⟨?_, fun converges => ?_⟩, ?_, fun converges => ?_⟩
  · exact history_of_texts (by decide +kernel) (by decide +kernel) (by decide +kernel)
      (by unfold Increasing; decide +kernel) (by decide +kernel)
  · have agree := converges (pushes.reverse.map fun event => (9, event)) (pushes.map fun event => (9, event))
      (fun event => by rw [List.map_map]; simp [Function.comp_def]) rfl
    exact absurd agree.row (by decide +kernel)
  · exact history_of_texts (by decide +kernel) (by decide +kernel) (by decide +kernel)
      (by unfold Increasing; decide +kernel) (by decide +kernel)
  · have agree := converges (editedAfterMerge.reverse.map fun event => (9, event))
      (editedAfterMerge.map fun event => (9, event))
      (fun event => by rw [List.map_map]; simp [Function.comp_def]) rfl
    exact absurd (congrFun agree.status 1) (by decide +kernel)

end Main

end MulticaOS.PullRequests
