import Mathlib.Data.List.Basic

/-!
Derived tables.  The value of a key is a summary of the rows with that key.  It is computed
again for the keys whose rows carry a stamp at or after a watermark, which moves forward in
windows, and for the keys in a queue.  A key is accounted for when its value is the summary
or when it is due for a computation.
-/

namespace RollupLib

structure Source (Row Key : Type) where
  rows : List Row
  keyOf : Row → Option Key

structure Rollup (Key Value : Type) where
  derived : Key → Option Value
  queued : Key → Option Nat
  watermark : Nat

variable {Row Key Value : Type} [DecidableEq Key]
variable (stamp : Row → Nat) (summarize : List Row → Option Value)

def Source.matching (source : Source Row Key) (key : Key) : List Row :=
  source.rows.filter fun row => source.keyOf row = some key

def due (source : Source Row Key) (pFrom pTo : Nat) (rollup : Rollup Key Value) (key : Key) : Bool :=
  ((source.matching key).any fun row => pFrom ≤ stamp row && stamp row < pTo) ||
    (rollup.queued key).any (· < pTo)

def window (source : Source Row Key) (pFrom pTo : Nat) (rollup : Rollup Key Value) : Rollup Key Value :=
  if pTo ≤ pFrom then rollup
  else
    { rollup with
      derived := fun key =>
        if due stamp source pFrom pTo rollup key then summarize (source.matching key)
        else rollup.derived key
      queued := fun key => (rollup.queued key).filter fun enqueued => !(enqueued < pTo) }

def enqueue (now : Nat) (keys : List Key) (rollup : Rollup Key Value) : Rollup Key Value :=
  { rollup with
    queued := fun key =>
      if key ∈ keys then some (max ((rollup.queued key).getD now) now) else rollup.queued key }

def prune (horizon : Nat) (rollup : Rollup Key Value) : Rollup Key Value :=
  { rollup with queued := fun key => (rollup.queued key).filter fun enqueued => !(enqueued < horizon) }

def Settled (source : Source Row Key) (rollup : Rollup Key Value) (key : Key) : Prop :=
  rollup.derived key = summarize (source.matching key)

def Pending (source : Source Row Key) (rollup : Rollup Key Value) (key : Key) : Prop :=
  (rollup.queued key).isSome = true ∨ ∃ row ∈ source.matching key, rollup.watermark ≤ stamp row

def Accounted (source : Source Row Key) (rollup : Rollup Key Value) (key : Key) : Prop :=
  Settled summarize source rollup key ∨ Pending stamp source rollup key

variable {stamp summarize} {source before after : Source Row Key} {rollup old new : Rollup Key Value}
variable {key : Key} {pFrom pTo : Nat} {row : Row}

theorem mem_matching : row ∈ source.matching key ↔ row ∈ source.rows ∧ source.keyOf row = some key := by
  simp [Source.matching]

theorem window_watermark : (window stamp summarize source pFrom pTo rollup).watermark = rollup.watermark := by
  rw [window]
  split
  · rfl
  · rfl

theorem window_due (forward : pFrom < pTo) (isDue : due stamp source pFrom pTo rollup key = true) :
    Settled summarize source (window stamp summarize source pFrom pTo rollup) key := by
  rw [Settled, window, if_neg (Nat.not_le_of_gt forward)]
  exact if_pos isDue

theorem window_rest (rest : due stamp source pFrom pTo rollup key = false) :
    (window stamp summarize source pFrom pTo rollup).derived key = rollup.derived key ∧
      (window stamp summarize source pFrom pTo rollup).queued key = rollup.queued key := by
  rw [window]
  split
  · exact ⟨rfl, rfl⟩
  · constructor
    · exact if_neg (by rw [rest]; exact Bool.false_ne_true)
    · rw [due, Bool.or_eq_false_iff] at rest
      cases queued : rollup.queued key with
      | none => simp [queued]
      | some enqueued =>
          have kept := rest.2
          rw [queued, Option.any_some] at kept
          simp [queued, kept]

theorem window_queued {enqueued : Nat}
    (queued : (window stamp summarize source pFrom pTo rollup).queued key = some enqueued) :
    rollup.queued key = some enqueued ∧ (pFrom < pTo → pTo ≤ enqueued) := by
  rw [window] at queued
  split at queued
  · rename_i backward
    exact ⟨queued, fun forward => absurd backward (Nat.not_le_of_gt forward)⟩
  · obtain ⟨queued, kept⟩ := Option.filter_eq_some_iff.mp queued
    exact ⟨queued, fun _ => by simpa using kept⟩

theorem window_settled (settled : Settled summarize source rollup key) :
    Settled summarize source (window stamp summarize source pFrom pTo rollup) key := by
  by_cases forward : pFrom < pTo
  · cases isDue : due stamp source pFrom pTo rollup key with
    | true => exact window_due forward isDue
    | false =>
        rw [Settled, (window_rest isDue).1]
        exact settled
  · rw [Settled, window, if_pos (Nat.le_of_not_lt forward)]
    exact settled

theorem window_accounted (accounted : Accounted stamp summarize source rollup key) :
    Accounted stamp summarize source (window stamp summarize source pFrom pTo rollup) key := by
  rcases accounted with settled | pending
  · exact Or.inl (window_settled settled)
  · by_cases forward : pFrom < pTo
    · cases isDue : due stamp source pFrom pTo rollup key with
      | true => exact Or.inl (window_due forward isDue)
      | false =>
          right
          rw [Pending, (window_rest isDue).2, window_watermark]
          exact pending
    · rw [window, if_pos (Nat.le_of_not_lt forward)]
      exact Or.inr pending

theorem window_covers (member : row ∈ source.matching key) (lower : pFrom ≤ stamp row)
    (upper : stamp row < pTo) :
    Settled summarize source (window stamp summarize source pFrom pTo rollup) key := by
  refine window_due (Nat.lt_of_le_of_lt lower upper) ?_
  rw [due, Bool.or_eq_true]
  refine Or.inl (List.any_eq_true.mpr ⟨row, member, ?_⟩)
  simp [lower, upper]

theorem Accounted.moved {watermark : Nat} (accounted : Accounted stamp summarize source rollup key)
    (passed : ∀ row ∈ source.matching key, rollup.watermark ≤ stamp row → stamp row < watermark →
      Settled summarize source rollup key) :
    Accounted stamp summarize source { rollup with watermark := watermark } key := by
  rcases accounted with settled | queued | ⟨row, member, recent⟩
  · exact Or.inl settled
  · exact Or.inr (Or.inl queued)
  · by_cases behind : stamp row < watermark
    · exact Or.inl (passed row member recent behind)
    · exact Or.inr (Or.inr ⟨row, member, Nat.le_of_not_lt behind⟩)

theorem Accounted.settled (accounted : Accounted stamp summarize source rollup key)
    (empty : rollup.queued key = none) (passed : ∀ row ∈ source.matching key, stamp row < rollup.watermark) :
    Settled summarize source rollup key := by
  rcases accounted with settled | queued | ⟨row, member, recent⟩
  · exact settled
  · rw [empty] at queued
    contradiction
  · exact absurd recent (Nat.not_le_of_gt (passed row member))

theorem window_advance (accounted : Accounted stamp summarize source rollup key) :
    Accounted stamp summarize source
      { window stamp summarize source rollup.watermark pTo rollup with watermark := pTo } key := by
  refine (window_accounted accounted).moved fun row member recent behind => ?_
  rw [window_watermark] at recent
  exact window_covers member recent behind

theorem enqueue_queued {now : Nat} {keys : List Key} :
    ((enqueue now keys rollup).queued key).isSome = true ↔ key ∈ keys ∨ (rollup.queued key).isSome = true := by
  rw [enqueue]
  by_cases listed : key ∈ keys
  · simp [listed]
  · simp [listed]

omit [DecidableEq Key] in
theorem prune_same {horizon : Nat} (kept : ∀ key enqueued, rollup.queued key = some enqueued → horizon ≤ enqueued) :
    prune horizon rollup = rollup := by
  have same : (fun key => (rollup.queued key).filter fun enqueued => !(enqueued < horizon)) = rollup.queued := by
    funext key
    cases queued : rollup.queued key with
    | none => rfl
    | some enqueued =>
        have fresh := kept key enqueued queued
        simp [Nat.not_lt.mpr fresh]
  rw [prune, same]

/-- An edit computes nothing and takes nothing from the queue.  A key whose rows it changes is
queued, or has a row that the watermark has not passed. -/
structure Edit (stamp : Row → Nat) (before after : Source Row Key) (old new : Rollup Key Value) : Prop where
  derived : new.derived = old.derived
  watermark : new.watermark = old.watermark
  queued : ∀ key, (old.queued key).isSome = true → (new.queued key).isSome = true
  rows : ∀ key, after.matching key = before.matching key ∨ Pending stamp after new key

theorem Edit.accounted (edit : Edit stamp before after old new)
    (accounted : Accounted stamp summarize before old key) : Accounted stamp summarize after new key := by
  rcases edit.rows key with same | pending
  · rcases accounted with settled | queued | ⟨row, member, recent⟩
    · left
      rw [Settled, edit.derived, same]
      exact settled
    · exact Or.inr (Or.inl (edit.queued key queued))
    · refine Or.inr (Or.inr ⟨row, ?_, ?_⟩)
      · rw [same]
        exact member
      · rw [edit.watermark]
        exact recent
  · exact Or.inr pending

theorem matching_rekeyed (keep : Row → Bool) (rows : after.rows = before.rows.filter keep)
    (same : ∀ row ∈ before.rows, keep row = true ∧ after.keyOf row = before.keyOf row ∨
      before.keyOf row ≠ some key ∧ (keep row = true → after.keyOf row ≠ some key)) :
    after.matching key = before.matching key := by
  rw [Source.matching, Source.matching, rows, List.filter_filter]
  refine List.filter_congr fun row member => ?_
  rcases same row member with ⟨kept, keyed⟩ | ⟨apart, moved⟩
  · rw [kept, keyed, Bool.and_true]
  · cases kept : keep row with
    | false => simp [apart]
    | true => simp [apart, moved kept]

end RollupLib
