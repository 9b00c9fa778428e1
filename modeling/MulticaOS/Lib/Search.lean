import Mathlib.Data.Finset.Sort
import Mathlib.Data.Int.Interval
import Mathlib.Data.Set.Card

/-!
Points of a set of integers, found one after another by a search that looks only so far
ahead and answers 0 when it finds nothing.
-/

namespace SearchLib

def Lost (limit : Int → Int) (Fires : Int → Prop) (time : Int) : Prop :=
  ∀ point, Fires point → time < point → limit time < point

/-- `next` finds the first point after a time, within the limit of its search; 0 is its answer
where there is none, and where 0 is itself that point. -/
structure Searches (next limit : Int → Int) (Fires : Int → Prop) : Prop where
  found : ∀ time, next time ≠ 0 → Fires (next time) ∧ time < next time ∧ next time ≤ limit time ∧
    ∀ point, Fires point → time < point → next time ≤ point
  zero : ∀ time, next time = 0 → Lost limit Fires time ∨
    (time < 0 ∧ Fires 0 ∧ ∀ point, Fires point → time < point → 0 ≤ point)
  monotone : ∀ early late, early ≤ late → limit early ≤ limit late

def enumerate (next : Int → Int) (last : Int) : Nat → Int → List Int
  | 0, _ => []
  | room + 1, cursor =>
      if last < next cursor then [] else next cursor :: enumerate next last room (next cursor)

def upcoming (next : Int → Int) : Nat → Int → List Int
  | 0, _ => []
  | room + 1, cursor =>
      if next cursor = 0 then [] else next cursor :: upcoming next room (next cursor)

def passed (Fires : Int → Prop) (cursor point : Int) : Set Int :=
  { other | Fires other ∧ cursor < other ∧ other ≤ point }

/-- The list holds the first points of a set in order, `room` of them or all that there are. -/
structure Firsts (Within : Int → Prop) (room : Nat) (points : List Int) : Prop where
  sorted : points.Pairwise (· < ·)
  within : ∀ point ∈ points, Within point
  bounded : points.length ≤ room
  complete : ∀ point, Within point →
    point ∈ points ∨ (points.length = room ∧ ∀ earlier ∈ points, earlier < point)

structure Lists (Fires : Int → Prop) (cursor last : Int) (points : List Int) : Prop where
  sorted : points.Pairwise (· < ·)
  mem : ∀ point, point ∈ points ↔ Fires point ∧ cursor < point ∧ point ≤ last

section Lists

variable {Fires : Int → Prop} {cursor last point : Int} {points rest : List Int}

theorem exists_lists (Fires : Int → Prop) (cursor last : Int) :
    ∃ points, Lists Fires cursor last points := by
  classical
  refine ⟨((Finset.Ioc cursor last).filter Fires).sort, ?_, fun point => ?_⟩
  · exact (Finset.sortedLT_sort _).pairwise
  · simp only [Finset.mem_sort, Finset.mem_filter, Finset.mem_Ioc]
    exact and_comm

theorem Lists.tail (lists : Lists Fires cursor last (point :: rest)) : Lists Fires point last rest := by
  obtain ⟨below, sorted⟩ := List.pairwise_cons.mp lists.sorted
  refine ⟨sorted, fun other => ⟨fun member => ?_, fun ⟨fires, later, within⟩ => ?_⟩⟩
  · obtain ⟨fires, -, within⟩ := (lists.mem other).mp (List.mem_cons_of_mem _ member)
    exact ⟨fires, below other member, within⟩
  · have after := ((lists.mem point).mp List.mem_cons_self).2.1
    have member := (lists.mem other).mpr ⟨fires, by omega, within⟩
    rcases List.mem_cons.mp member with rfl | listed
    · omega
    · exact listed

theorem Lists.remaining (lists : Lists Fires cursor last points) :
    Lists Fires (points.getLastD cursor) last [] := by
  induction points generalizing cursor with
  | nil => exact lists
  | cons point rest ih =>
      rw [List.getLastD_cons]
      exact ih lists.tail

theorem Lists.eq_last (lists : Lists Fires cursor last points) (fires : Fires point)
    (later : cursor < point) (within : point ≤ last)
    (greatest : ∀ other, Fires other → other ≤ last → other ≤ point) :
    points.getLast? = some point := by
  have member := (lists.mem point).mpr ⟨fires, later, within⟩
  obtain ⟨front, back, rfl⟩ := List.append_of_mem member
  cases back with
  | nil => simp
  | cons other back =>
      obtain ⟨otherFires, -, otherWithin⟩ := (lists.mem other).mp (by simp)
      have above : point < other := by
        have sorted := (List.pairwise_append.mp lists.sorted).2.1
        exact (List.pairwise_cons.mp sorted).1 other List.mem_cons_self
      have below := greatest other otherFires otherWithin
      omega

theorem Lists.getLast_greatest (lists : Lists Fires cursor last points)
    (ends : points.getLast? = some point) :
    Fires point ∧ cursor < point ∧ point ≤ last ∧
      ∀ other, Fires other → other ≤ last → other ≤ point := by
  obtain ⟨front, rfl⟩ := List.getLast?_eq_some_iff.mp ends
  obtain ⟨fires, later, within⟩ := (lists.mem point).mp (by simp)
  refine ⟨fires, later, within, fun other otherFires otherWithin => ?_⟩
  by_contra above
  have member := (lists.mem other).mpr ⟨otherFires, by omega, otherWithin⟩
  rcases List.mem_append.mp member with earlier | same
  · have below := (List.pairwise_append.mp lists.sorted).2.2 other earlier point (by simp)
    omega
  · rw [List.mem_singleton] at same
    omega

theorem Lists.ncard (lists : Lists Fires cursor last points) :
    { point | Fires point ∧ cursor < point ∧ point ≤ last }.ncard = points.length := by
  have same : { point | Fires point ∧ cursor < point ∧ point ≤ last } = (points.toFinset : Set Int) := by
    ext point
    simp [← lists.mem]
  have distinct : points.Nodup := lists.sorted.imp fun less => by omega
  rw [same, Set.ncard_coe_finset, List.toFinset_card_of_nodup distinct]

end Lists

section Searches

variable {next limit : Int → Int} {Fires : Int → Prop} {cursor last gone point : Int}
  {points rest : List Int}

theorem Searches.next_head (searches : Searches next limit Fires) (near : last ≤ limit cursor)
    (lists : Lists Fires cursor last (point :: rest)) : next cursor = point := by
  obtain ⟨fires, later, within⟩ := (lists.mem point).mp List.mem_cons_self
  obtain ⟨nextFires, after, least⟩ : Fires (next cursor) ∧ cursor < next cursor ∧
      ∀ other, Fires other → cursor < other → next cursor ≤ other := by
    by_cases none : next cursor = 0
    · rcases searches.zero cursor none with gone | ⟨before, zeroFires, least⟩
      · have beyond := gone point fires later
        omega
      · rw [none]
        exact ⟨zeroFires, before, least⟩
    · obtain ⟨nextFires, after, -, least⟩ := searches.found cursor none
      exact ⟨nextFires, after, least⟩
  have first := least point fires later
  have member := (lists.mem (next cursor)).mpr ⟨nextFires, after, by omega⟩
  rcases List.mem_cons.mp member with same | listed
  · exact same
  · have above := (List.pairwise_cons.mp lists.sorted).1 _ listed
    omega

theorem Searches.next_none (searches : Searches next limit Fires) (lists : Lists Fires cursor last []) :
    last < next cursor ∨ (next cursor = 0 ∧ Lost limit Fires cursor) := by
  have absent : ∀ point, Fires point → cursor < point → last < point := by
    intro point fires later
    by_contra within
    have member := (lists.mem point).mpr ⟨fires, later, by omega⟩
    cases member
  by_cases none : next cursor = 0
  · rcases searches.zero cursor none with gone | ⟨before, zeroFires, -⟩
    · exact Or.inr ⟨none, gone⟩
    · rw [none]
      exact Or.inl (absent 0 zeroFires before)
  · obtain ⟨fires, later, -, -⟩ := searches.found cursor none
    exact Or.inl (absent _ fires later)

theorem Searches.enumerate_lists (searches : Searches next limit Fires)
    (near : last ≤ limit cursor) (lists : Lists Fires cursor last points) (room : Nat) :
    enumerate next last room cursor =
      points.take room ++ enumerate next last (room - points.length) (points.getLastD cursor) := by
  induction points generalizing cursor room with
  | nil => simp
  | cons point rest ih =>
      cases room with
      | zero => simp [enumerate]
      | succ room =>
          have head := searches.next_head near lists
          obtain ⟨-, later, within⟩ := (lists.mem point).mp List.mem_cons_self
          have further := searches.monotone cursor point (by omega)
          have tail := ih (by omega) lists.tail room
          rw [enumerate, head, if_neg (by omega), tail, List.take_succ_cons, List.length_cons,
            Nat.add_sub_add_right, List.getLastD_cons, List.cons_append]

theorem Searches.next_le (searches : Searches next limit Fires) (nonneg : 0 ≤ cursor)
    (loses : Lost limit Fires gone) (before : cursor ≤ gone) :
    0 ≤ next cursor ∧ next cursor ≤ gone := by
  by_cases none : next cursor = 0
  · omega
  · obtain ⟨fires, later, within, -⟩ := searches.found cursor none
    have further := searches.monotone cursor gone before
    refine ⟨by omega, ?_⟩
    by_contra beyond
    have unreachable := loses _ fires (by omega)
    omega

theorem Searches.enumerate_lost (searches : Searches next limit Fires) (nonneg : 0 ≤ cursor)
    (loses : Lost limit Fires gone) (before : cursor ≤ gone) (past : gone ≤ last) (room : Nat) :
    (enumerate next last room cursor).length = room ∧
      ∀ point ∈ enumerate next last room cursor, point ≤ gone := by
  induction room generalizing cursor with
  | zero => simp [enumerate]
  | succ room ih =>
      obtain ⟨low, high⟩ := searches.next_le nonneg loses before
      obtain ⟨length, bounded⟩ := ih low high
      rw [enumerate, if_neg (by omega)]
      refine ⟨by simp [length], fun point member => ?_⟩
      rcases List.mem_cons.mp member with rfl | listed
      · exact high
      · exact bounded point listed

end Searches

section Firsts

variable {Within Beyond Fires : Int → Prop} {next limit : Int → Int} {cursor last point : Int} {room : Nat}
  {rest : List Int}

theorem firsts_zero : Firsts Within 0 [] :=
  ⟨List.Pairwise.nil, by simp, Nat.le_refl _, fun _ _ => Or.inr ⟨rfl, by simp⟩⟩

theorem firsts_nil : Firsts Within (room + 1) [] ↔ ∀ point, ¬ Within point := by
  constructor
  · intro firsts point within
    rcases firsts.complete point within with listed | ⟨full, -⟩
    · cases listed
    · cases full
  · exact fun none => ⟨List.Pairwise.nil, by simp, by simp, fun point within => absurd within (none point)⟩

theorem firsts_cons (head : Within point) (least : ∀ other, Within other → point ≤ other)
    (tail : ∀ other, Beyond other ↔ Within other ∧ point < other) :
    Firsts Within (room + 1) (point :: rest) ↔ Firsts Beyond room rest := by
  constructor
  · intro firsts
    obtain ⟨below, sorted⟩ := List.pairwise_cons.mp firsts.sorted
    refine ⟨sorted, fun other listed => ?_, ?_, fun other beyond => ?_⟩
    · exact (tail other).mpr ⟨firsts.within other (by simp [listed]), below other listed⟩
    · have bounded := firsts.bounded
      rw [List.length_cons] at bounded
      omega
    · obtain ⟨within, later⟩ := (tail other).mp beyond
      rcases firsts.complete other within with listed | ⟨full, earlier⟩
      · rcases List.mem_cons.mp listed with same | listed
        · omega
        · exact Or.inl listed
      · rw [List.length_cons] at full
        exact Or.inr ⟨by omega, fun third member => earlier third (by simp [member])⟩
  · intro firsts
    refine ⟨List.pairwise_cons.mpr ⟨fun other listed => ?_, firsts.sorted⟩, fun other listed => ?_, ?_,
      fun other within => ?_⟩
    · exact ((tail other).mp (firsts.within other listed)).2
    · rcases List.mem_cons.mp listed with rfl | listed
      · exact head
      · exact ((tail other).mp (firsts.within other listed)).1
    · have bounded := firsts.bounded
      rw [List.length_cons]
      omega
    · have after := least other within
      by_cases same : other = point
      · exact Or.inl (by simp [same])
      · rcases firsts.complete other ((tail other).mpr ⟨within, by omega⟩) with listed | ⟨full, earlier⟩
        · exact Or.inl (by simp [listed])
        · refine Or.inr ⟨by simp [full], fun third member => ?_⟩
          rcases List.mem_cons.mp member with rfl | member
          · omega
          · exact earlier third member

theorem window_tail (later : cursor < point) (other : Int) :
    Fires other ∧ point < other ∧ other ≤ last ↔
      (Fires other ∧ cursor < other ∧ other ≤ last) ∧ point < other :=
  ⟨fun ⟨fires, after, within⟩ => ⟨⟨fires, by omega, within⟩, after⟩,
    fun ⟨⟨fires, _, within⟩, after⟩ => ⟨fires, after, within⟩⟩

theorem future_tail (later : cursor < point) (other : Int) :
    Fires other ∧ point < other ↔ (Fires other ∧ cursor < other) ∧ point < other :=
  ⟨fun ⟨fires, after⟩ => ⟨⟨fires, by omega⟩, after⟩, fun ⟨⟨fires, _⟩, after⟩ => ⟨fires, after⟩⟩

theorem passed_finite (Fires : Int → Prop) (cursor point : Int) : (passed Fires cursor point).Finite :=
  (Set.finite_Ioc cursor point).subset fun _ ⟨_, later, before⟩ => ⟨later, before⟩

theorem passed_none (Fires : Int → Prop) (cursor : Int) : (passed Fires cursor cursor).ncard = 0 := by
  rw [Set.ncard_eq_zero (passed_finite Fires cursor cursor)]
  ext other
  simp only [passed, Set.mem_ofPred_eq, Set.mem_empty_iff_false, iff_false]
  omega

theorem passed_step (fires : Fires point) (later : cursor < point)
    (least : ∀ other, Fires other → cursor < other → point ≤ other) {reached : Int} (past : point ≤ reached) :
    (passed Fires cursor reached).ncard = (passed Fires point reached).ncard + 1 := by
  have split : passed Fires cursor reached = insert point (passed Fires point reached) := by
    ext other
    simp only [passed, Set.mem_ofPred_eq, Set.mem_insert_iff]
    constructor
    · rintro ⟨otherFires, after, before⟩
      have first := least other otherFires after
      by_cases same : other = point
      · exact Or.inl same
      · exact Or.inr ⟨otherFires, by omega, before⟩
    · rintro (rfl | ⟨otherFires, after, before⟩)
      · exact ⟨fires, later, past⟩
      · exact ⟨otherFires, by omega, before⟩
  have fresh : point ∉ passed Fires point reached := fun member => Int.lt_irrefl _ member.2.1
  rw [split, Set.ncard_insert_of_notMem fresh (passed_finite Fires point reached)]

theorem Searches.next_lost (searches : Searches next limit Fires) (lost : Lost limit Fires cursor) :
    next cursor = 0 := by
  by_contra found
  obtain ⟨fires, later, within, -⟩ := searches.found cursor found
  have beyond := lost _ fires later
  omega

theorem Searches.next_found (searches : Searches next limit Fires) (nonneg : 0 ≤ cursor)
    (kept : ¬ Lost limit Fires cursor) :
    next cursor ≠ 0 ∧ Fires (next cursor) ∧ cursor < next cursor ∧
      ∀ point, Fires point → cursor < point → next cursor ≤ point := by
  have found : next cursor ≠ 0 := by
    intro zero
    rcases searches.zero cursor zero with lost | ⟨before, -⟩
    · exact kept lost
    · omega
  obtain ⟨fires, later, -, least⟩ := searches.found cursor found
  exact ⟨found, fires, later, least⟩

theorem Searches.enumerate_firsts (searches : Searches next limit Fires) (nonneg : 0 ≤ cursor)
    (before : cursor ≤ last) (room : Nat) :
    Firsts (fun point => Fires point ∧ cursor < point ∧ point ≤ last) room (enumerate next last room cursor) ↔
      ∀ point, point = cursor ∨ (Fires point ∧ cursor < point ∧ point ≤ last) →
        (passed Fires cursor point).ncard < room → ¬ Lost limit Fires point := by
  induction room generalizing cursor with
  | zero => exact iff_of_true firsts_zero fun _ _ none => absurd none (Nat.not_lt_zero _)
  | succ room ih =>
      rw [enumerate]
      by_cases lost : Lost limit Fires cursor
      · rw [searches.next_lost lost, if_neg (by omega)]
        refine iff_of_false (fun firsts => ?_) fun keeps => ?_
        · have later := (firsts.within 0 (by simp)).2.1
          omega
        · exact keeps cursor (Or.inl rfl) (by rw [passed_none]; omega) lost
      · obtain ⟨-, fires, later, least⟩ := searches.next_found nonneg lost
        by_cases past : last < next cursor
        · rw [if_pos past, firsts_nil]
          refine iff_of_true ?_ ?_
          · rintro point ⟨pointFires, after, within⟩
            have first := least point pointFires after
            omega
          · rintro point (rfl | ⟨pointFires, after, within⟩) _
            · exact lost
            · have first := least point pointFires after
              omega
        · rw [if_neg past, firsts_cons ⟨fires, later, by omega⟩ (fun other within => least other within.1 within.2.1)
            (window_tail later), ih (by omega) (by omega)]
          constructor
          · rintro keeps point (rfl | ⟨pointFires, after, within⟩) few
            · exact lost
            · have first := least point pointFires after
              rw [passed_step fires later least first] at few
              refine keeps point ?_ (by omega)
              by_cases same : point = next cursor
              · exact Or.inl same
              · exact Or.inr ⟨pointFires, by omega, within⟩
          · rintro keeps point reached few
            have first : next cursor ≤ point := by
              rcases reached with rfl | ⟨-, after, -⟩
              · exact Int.le_refl _
              · omega
            refine keeps point (Or.inr ?_) (by rw [passed_step fires later least first]; omega)
            rcases reached with rfl | ⟨pointFires, after, within⟩
            · exact ⟨fires, later, by omega⟩
            · exact ⟨pointFires, by omega, within⟩

theorem Searches.upcoming_firsts (searches : Searches next limit Fires) (nonneg : 0 ≤ cursor) (room : Nat) :
    Firsts (fun point => Fires point ∧ cursor < point) room (upcoming next room cursor) ↔
      ∀ point, point = cursor ∨ (Fires point ∧ cursor < point) → (passed Fires cursor point).ncard < room →
        Lost limit Fires point → ∀ later, Fires later → later ≤ point := by
  induction room generalizing cursor with
  | zero => exact iff_of_true firsts_zero fun _ _ none => absurd none (Nat.not_lt_zero _)
  | succ room ih =>
      rw [upcoming]
      by_cases lost : Lost limit Fires cursor
      · rw [searches.next_lost lost, if_pos rfl, firsts_nil]
        constructor
        · rintro none point (rfl | ⟨pointFires, after⟩) _ _ other otherFires
          · by_contra beyond
            exact none other ⟨otherFires, by omega⟩
          · exact absurd ⟨pointFires, after⟩ (none point)
        · rintro last point ⟨pointFires, after⟩
          have bounded := last cursor (Or.inl rfl) (by rw [passed_none]; omega) lost point pointFires
          omega
      · obtain ⟨found, fires, later, least⟩ := searches.next_found nonneg lost
        rw [if_neg found, firsts_cons ⟨fires, later⟩ (fun other within => least other within.1 within.2)
          (future_tail later), ih (by omega)]
        constructor
        · rintro keeps point (rfl | ⟨pointFires, after⟩) few gone
          · exact absurd gone lost
          · have first := least point pointFires after
            rw [passed_step fires later least first] at few
            refine keeps point ?_ (by omega) gone
            by_cases same : point = next cursor
            · exact Or.inl same
            · exact Or.inr ⟨pointFires, by omega⟩
        · rintro keeps point reached few gone
          have first : next cursor ≤ point := by
            rcases reached with rfl | ⟨-, after⟩
            · exact Int.le_refl _
            · omega
          refine keeps point (Or.inr ?_) (by rw [passed_step fires later least first]; omega) gone
          rcases reached with rfl | ⟨pointFires, after⟩
          · exact ⟨fires, later⟩
          · exact ⟨pointFires, by omega⟩

theorem enumerate_upcoming (next : Int → Int) (last : Int) (room count : Nat) (cursor : Int) :
    (enumerate next last room cursor).take (upcoming next count cursor).length =
      (upcoming next count cursor).take (enumerate next last room cursor).length := by
  induction room generalizing count cursor with
  | zero => simp [enumerate]
  | succ room ih =>
      cases count with
      | zero => simp [upcoming]
      | succ count =>
          rw [enumerate, upcoming]
          split
          · simp
          · split
            · simp
            · rw [List.length_cons, List.length_cons, List.take_succ_cons, List.take_succ_cons, ih]

end Firsts

end SearchLib
