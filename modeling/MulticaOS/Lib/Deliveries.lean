import Mathlib.Data.List.Induction
import Mathlib.Data.List.Sort

/-!
Registers that keep the latest event.  Events come in any order and again and again; one that is
older than the register is ignored.  What is left in the end depends on which of the older
events were applied before the newer ones arrived.
-/

namespace DeliveryLib

variable {Event State : Type} (time : Event → Nat) (clock : State → Option Nat)
variable (apply : State → Event → State)

structure Register : Prop where
  stamped : ∀ state event, clock (apply state event) = some (time event)
  again : ∀ state event, apply (apply state event) event = apply state event

def stale (state : State) (event : Event) : Bool := (clock state).any (time event < ·)

def receive (state : State) (event : Event) : State :=
  if stale time clock state event then state else apply state event

def Increasing (events : List Event) : Prop :=
  events.Pairwise fun earlier later => time earlier < time later

def recent (start : State) (events : List Event) : List Event :=
  events.filter fun event => !stale time clock start event

def Delivers (events delivered : List Event) : Prop := ∀ event, event ∈ delivered ↔ event ∈ events

variable {time clock apply} {events kept delivered : List Event} {start state : State} {event : Event}

namespace Increasing

theorem nodup (increasing : Increasing time events) : events.Nodup :=
  increasing.imp fun less same => absurd (same ▸ less) (Nat.lt_irrefl _)

theorem inj (increasing : Increasing time events) {left right : Event} (leftMember : left ∈ events)
    (rightMember : right ∈ events) (same : time left = time right) : left = right := by
  induction events with
  | nil => contradiction
  | cons head rest ih =>
      obtain ⟨first, others⟩ := List.pairwise_cons.mp increasing
      rcases List.mem_cons.mp leftMember with rfl | leftLater
      · rcases List.mem_cons.mp rightMember with rfl | rightLater
        · rfl
        · have less := first right rightLater
          omega
      · rcases List.mem_cons.mp rightMember with rfl | rightLater
        · have less := first left leftLater
          omega
        · exact ih others leftLater rightLater

theorem last_le (increasing : Increasing time events) {last : Event} (member : event ∈ events)
    (final : events.getLast? = some last) : time event ≤ time last := by
  obtain ⟨front, rfl⟩ := List.getLast?_eq_some_iff.mp final
  rcases List.mem_append.mp member with earlier | same
  · exact Nat.le_of_lt ((List.pairwise_append.mp increasing).2.2 event earlier last (by simp))
  · rw [List.mem_singleton.mp same]

theorem sublist (keptIncreasing : Increasing time kept) (increasing : Increasing time events)
    (subset : kept ⊆ events) : kept.Sublist events := by
  have antisymm : Std.Antisymm fun earlier later : Event => time earlier < time later :=
    ⟨fun left right less more => absurd less (Nat.lt_asymm more)⟩
  exact List.sublist_of_subperm_of_pairwise (List.subperm_of_subset keptIncreasing.nodup subset)
    keptIncreasing increasing

theorem snoc (increasing : Increasing time kept) (later : ∀ earlier ∈ kept, time earlier < time event) :
    Increasing time (kept ++ [event]) := by
  refine List.pairwise_append.mpr ⟨increasing, List.pairwise_singleton _ _, ?_⟩
  intro earlier member last same
  rw [List.mem_singleton.mp same]
  exact later earlier member

theorem recent (increasing : Increasing time events) : Increasing time (recent time clock start events) :=
  increasing.filter _

end Increasing

theorem mem_recent : event ∈ recent time clock start events ↔
    event ∈ events ∧ stale time clock start event = false := by
  simp [recent]

theorem stale_of_clock {stamp : Nat} (clocked : clock state = some stamp) :
    stale time clock state event = decide (time event < stamp) := by
  rw [stale, clocked, Option.any_some]

theorem receive_stale (old : stale time clock state event = true) :
    receive time clock apply state event = state := if_pos old

theorem receive_fresh (fresh : stale time clock state event = false) :
    receive time clock apply state event = apply state event :=
  if_neg (by rw [fresh]; exact Bool.false_ne_true)

theorem stale_of_recent_nil (none : recent time clock start events = []) (member : event ∈ events) :
    stale time clock start event = true := by
  have absent := List.filter_eq_nil_iff.mp none event member
  simpa using absent

theorem received_none (old : ∀ event ∈ delivered, stale time clock start event = true) :
    delivered.foldl (receive time clock apply) start = start := by
  induction delivered with
  | nil => rfl
  | cons event rest ih =>
      rw [List.foldl_cons, receive_stale (old event (by simp))]
      exact ih fun other member => old other (List.mem_cons_of_mem _ member)

section Register

variable (register : Register time clock apply)

include register

theorem clock_foldl {last : Event} (final : kept.getLast? = some last) :
    clock (kept.foldl apply start) = some (time last) := by
  obtain ⟨front, rfl⟩ := List.getLast?_eq_some_iff.mp final
  rw [List.foldl_append]
  exact register.stamped (front.foldl apply start) last

theorem stale_foldl {last : Event} (final : kept.getLast? = some last) :
    stale time clock (kept.foldl apply start) event = decide (time event < time last) :=
  stale_of_clock (clock_foldl register final)

theorem again_foldl {last : Event} (final : kept.getLast? = some last) :
    apply (kept.foldl apply start) last = kept.foldl apply start := by
  obtain ⟨front, rfl⟩ := List.getLast?_eq_some_iff.mp final
  rw [List.foldl_append]
  exact register.again (front.foldl apply start) last

theorem received (start : State) (increasing : Increasing time events) (subset : delivered ⊆ events) :
    ∃ kept, List.Sublist kept (recent time clock start events) ∧
      delivered.foldl (receive time clock apply) start = kept.foldl apply start ∧
      ∀ event ∈ delivered, stale time clock start event = false →
        ∃ last, kept.getLast? = some last ∧ time event ≤ time last := by
  induction delivered using List.reverseRecOn with
  | nil => exact ⟨[], List.nil_sublist _, rfl, fun _ member => absurd member List.not_mem_nil⟩
  | append_singleton front event ih =>
      obtain ⟨kept, sublist, result, covered⟩ := ih fun old member => subset (List.mem_append_left _ member)
      have known : event ∈ events := subset (List.mem_append_right _ (List.mem_singleton_self event))
      have keptIncreasing : Increasing time kept := List.Pairwise.sublist sublist increasing.recent
      rw [List.foldl_append, result]
      -- An event older than the start changes nothing: the clock never goes back.
      by_cases old : stale time clock start event = true
      · refine ⟨kept, sublist, ?_, ?_⟩
        · refine receive_stale ?_
          cases final : kept.getLast? with
          | none =>
              rw [List.getLast?_eq_none_iff.mp final]
              exact old
          | some last =>
              have lastRecent := mem_recent.mp (sublist.subset (List.mem_of_getLast? final))
              rw [stale_foldl register final, decide_eq_true_eq]
              cases started : clock start with
              | none => simp [stale, started] at old
              | some stamp =>
                  rw [stale_of_clock started] at old lastRecent
                  simp only [decide_eq_true_eq, decide_eq_false_iff_not] at old lastRecent
                  omega
        · intro other member fresh
          rcases List.mem_append.mp member with earlier | same
          · exact covered other earlier fresh
          · rw [List.mem_singleton.mp same, old] at fresh
            contradiction
      have fresh : stale time clock start event = false := by simpa using old
      have eventRecent : event ∈ recent time clock start events := mem_recent.mpr ⟨known, fresh⟩
      by_cases later : ∀ earlier ∈ kept, time earlier < time event
      · refine ⟨kept ++ [event], ?_, ?_, ?_⟩
        · refine (keptIncreasing.snoc later).sublist increasing.recent fun other member => ?_
          rcases List.mem_append.mp member with earlier | same
          · exact sublist.subset earlier
          · rw [List.mem_singleton.mp same]
            exact eventRecent
        · rw [List.foldl_append]
          refine receive_fresh ?_
          cases final : kept.getLast? with
          | none =>
              rw [List.getLast?_eq_none_iff.mp final]
              exact fresh
          | some last =>
              have less := later last (List.mem_of_getLast? final)
              rw [stale_foldl register final, decide_eq_false_iff_not]
              omega
        · intro other member otherFresh
          refine ⟨event, List.getLast?_append_of_ne_nil _ (List.cons_ne_nil _ _) , ?_⟩
          rcases List.mem_append.mp member with earlier | same
          · obtain ⟨last, final, le⟩ := covered other earlier otherFresh
            have less := later last (List.mem_of_getLast? final)
            omega
          · rw [List.mem_singleton.mp same]
      · -- The register is at least as new: the event is ignored, or it is the last one again.
        simp only [not_forall, Nat.not_lt] at later
        obtain ⟨earlier, member, notLater⟩ := later
        obtain ⟨last, final⟩ := Option.ne_none_iff_exists'.mp
          (mt List.getLast?_eq_none_iff.mp (List.ne_nil_of_mem member))
        have top := keptIncreasing.last_le member final
        refine ⟨kept, sublist, ?_, ?_⟩
        · by_cases less : time event < time last
          · refine receive_stale ?_
            rw [stale_foldl register final, decide_eq_true_eq]
            exact less
          · have lastRecent := sublist.subset (List.mem_of_getLast? final)
            have same : event = last := increasing.recent.inj eventRecent lastRecent (by omega)
            subst same
            rw [List.foldl_cons, List.foldl_nil, receive_fresh]
            · exact again_foldl register final
            · rw [stale_foldl register final, decide_eq_false_iff_not]
              exact Nat.lt_irrefl _
        · intro other otherMember otherFresh
          rcases List.mem_append.mp otherMember with before | same
          · exact covered other before otherFresh
          · rw [List.mem_singleton.mp same]
            exact ⟨last, final, by omega⟩

theorem received_recent (increasing : Increasing time kept)
    (fresh : ∀ event ∈ kept, stale time clock start event = false) :
    kept.foldl (receive time clock apply) start = kept.foldl apply start := by
  induction kept generalizing start with
  | nil => rfl
  | cons event rest ih =>
      obtain ⟨first, others⟩ := List.pairwise_cons.mp increasing
      rw [List.foldl_cons, List.foldl_cons, receive_fresh (fresh event (by simp))]
      refine ih others fun later member => ?_
      rw [stale_of_clock (register.stamped start event), decide_eq_false_iff_not]
      exact Nat.not_lt_of_gt (first later member)

theorem received_again {last : Event} (final : kept.getLast? = some last)
    (older : ∀ event ∈ delivered, time event < time last ∨ event = last) :
    delivered.foldl (receive time clock apply) (kept.foldl apply start) = kept.foldl apply start := by
  induction delivered with
  | nil => rfl
  | cons event rest ih =>
      have unchanged : receive time clock apply (kept.foldl apply start) event = kept.foldl apply start := by
        rcases older event (by simp) with less | rfl
        · refine receive_stale ?_
          rw [stale_foldl register final, decide_eq_true_eq]
          exact less
        · rw [receive_fresh, again_foldl register final]
          rw [stale_foldl register final, decide_eq_false_iff_not]
          exact Nat.lt_irrefl _
      rw [List.foldl_cons, unchanged]
      exact ih fun other member => older other (List.mem_cons_of_mem _ member)

def Ending (events kept : List Event) : Prop := kept.Sublist events ∧ kept.getLast? = events.getLast?

theorem delivered_ending (start : State) (increasing : Increasing time events) (delivers : Delivers events delivered) :
    ∃ kept, Ending (recent time clock start events) kept ∧
      delivered.foldl (receive time clock apply) start = kept.foldl apply start := by
  obtain ⟨kept, sublist, result, covered⟩ :=
    received register start increasing fun event member => (delivers event).mp member
  refine ⟨kept, ⟨sublist, ?_⟩, result⟩
  cases final : (recent time clock start events).getLast? with
  | none =>
      rw [List.getLast?_eq_none_iff.mp final] at sublist
      rw [List.sublist_nil.mp sublist]
      rfl
  | some newest =>
      have member := mem_recent.mp (List.mem_of_getLast? final)
      obtain ⟨last, keptFinal, le⟩ := covered newest ((delivers newest).mpr member.1) member.2
      have listed := sublist.subset (List.mem_of_getLast? keptFinal)
      have top := increasing.recent.last_le listed final
      rw [keptFinal, increasing.recent.inj listed (List.mem_of_getLast? final) (by omega)]

theorem ending_delivered (increasing : Increasing time events)
    (ending : Ending (recent time clock start events) kept) :
    (kept ++ events).foldl (receive time clock apply) start = kept.foldl apply start := by
  have keptIncreasing : Increasing time kept := List.Pairwise.sublist ending.1 increasing.recent
  rw [List.foldl_append, received_recent register keptIncreasing fun event member =>
    (mem_recent.mp (ending.1.subset member)).2]
  cases final : kept.getLast? with
  | none =>
      have empty : recent time clock start events = [] := by
        rw [← List.getLast?_eq_none_iff, ← ending.2, final]
      rw [List.getLast?_eq_none_iff.mp final]
      exact received_none fun event member => stale_of_recent_nil empty member
  | some last =>
      have newest := ending.2.symm.trans final
      have lastRecent := mem_recent.mp (List.mem_of_getLast? newest)
      refine received_again register final fun event member => ?_
      by_cases less : time event < time last
      · exact Or.inl less
      · -- What is not older than the last of the recent events is recent.
        refine Or.inr ?_
        have fresh : stale time clock start event = false := by
          cases started : clock start with
          | none => rw [stale, started, Option.any_none]
          | some stamp =>
              rw [stale_of_clock started, decide_eq_false_iff_not] at lastRecent ⊢
              omega
        have listed := mem_recent.mpr ⟨member, fresh⟩
        have top := increasing.recent.last_le listed newest
        exact increasing.inj member lastRecent.1 (by omega)

theorem converges_iff (increasing : Increasing time events) :
    (∀ delivered, Delivers events delivered →
      delivered.foldl (receive time clock apply) start = events.foldl (receive time clock apply) start) ↔
    ∀ kept, Ending (recent time clock start events) kept →
      kept.foldl apply start = (recent time clock start events).foldl apply start := by
  have whole : Ending (recent time clock start events) (recent time clock start events) :=
    ⟨List.Sublist.refl _, rfl⟩
  have repeated : ∀ kept, Ending (recent time clock start events) kept → Delivers events (kept ++ events) := by
    intro kept ending event
    rw [List.mem_append]
    constructor
    · rintro (early | listed)
      · exact (mem_recent.mp (ending.1.subset early)).1
      · exact listed
    · exact Or.inr
  constructor
  · intro converges kept ending
    rw [← ending_delivered register increasing ending, converges _ (repeated kept ending),
      ← converges _ (repeated _ whole), ending_delivered register increasing whole]
  · intro settled delivered delivers
    obtain ⟨kept, ending, result⟩ := delivered_ending register start increasing delivers
    obtain ⟨real, realEnding, realResult⟩ :=
      delivered_ending register start increasing fun event => Iff.rfl
    rw [result, realResult, settled kept ending, settled real realEnding]

end Register

end DeliveryLib
