import Mathlib.Data.List.Dedup
import Mathlib.Data.List.Sort

/-!
Grouping and counting: `COUNT(*)` and `COUNT(DISTINCT id)` of rows grouped by a key, and the count
that the grouped rows give a key.
-/

namespace AggregateLib

variable {Row Key Id : Type}

section Group

variable [DecidableEq Key]

def groupCount (keys : List Key) : List (Key × Nat) := keys.dedup.map fun key => (key, keys.count key)

def countIn (rows : List (Key × Nat)) (key : Key) : Nat :=
  ((rows.find? fun row => row.1 = key).map Prod.snd).getD 0

theorem keys_groupCount (keys : List Key) : (groupCount keys).map Prod.fst = keys.dedup := by
  rw [groupCount, List.map_map]
  exact List.map_id _

theorem countIn_of_mem {rows : List (Key × Nat)} (distinct : (rows.map Prod.fst).Nodup) {key : Key} {count : Nat}
    (member : (key, count) ∈ rows) : countIn rows key = count := by
  induction rows with
  | nil => contradiction
  | cons first rest ih =>
      rw [List.map_cons, List.nodup_cons] at distinct
      rcases List.mem_cons.mp member with rfl | later
      · simp [countIn]
      · have apart : first.1 ≠ key := by
          rintro rfl
          exact distinct.1 (List.mem_map.mpr ⟨_, later, rfl⟩)
        have found := ih distinct.2 later
        simpa [countIn, apart] using found

theorem countIn_of_not_mem {rows : List (Key × Nat)} {key : Key} (absent : key ∉ rows.map Prod.fst) :
    countIn rows key = 0 := by
  have none : (rows.find? fun row => row.1 = key) = none := by
    refine List.find?_eq_none.mpr fun row member same => absent ?_
    exact decide_eq_true_eq.mp same ▸ List.mem_map_of_mem member
  rw [countIn, none]
  rfl

theorem countIn_groupCount (keys : List Key) (key : Key) : countIn (groupCount keys) key = keys.count key := by
  have distinct : ((groupCount keys).map Prod.fst).Nodup := by
    rw [keys_groupCount]
    exact keys.nodup_dedup
  by_cases member : key ∈ keys
  · exact countIn_of_mem distinct (List.mem_map_of_mem (List.mem_dedup.mpr member))
  · rw [List.count_eq_zero_of_not_mem member]
    refine countIn_of_not_mem ?_
    rw [keys_groupCount, List.mem_dedup]
    exact member

theorem countIn_perm {rows others : List (Key × Nat)} (same : rows.Perm others)
    (distinct : (rows.map Prod.fst).Nodup) (key : Key) : countIn others key = countIn rows key := by
  have distinctOthers : (others.map Prod.fst).Nodup := (same.map Prod.fst).nodup_iff.mp distinct
  by_cases member : key ∈ rows.map Prod.fst
  · obtain ⟨⟨_, count⟩, listed, rfl⟩ := List.mem_map.mp member
    rw [countIn_of_mem distinct listed, countIn_of_mem distinctOthers (same.mem_iff.mp listed)]
  · rw [countIn_of_not_mem member, countIn_of_not_mem fun later => member ((same.map Prod.fst).mem_iff.mpr later)]

end Group

/-! One key for each row, and any number of keys for each row. -/

theorem count_map [DecidableEq Key] (key : Row → Key) (rows : List Row) (wanted : Key) :
    (rows.map key).count wanted = rows.countP fun row => key row = wanted := by
  rw [List.count, List.countP_map]
  exact List.countP_congr fun row _ => by simp

def groupCountDistinct [DecidableEq Id] [DecidableEq Key] (joined : List (Id × Key)) : List (Key × Nat) :=
  groupCount (joined.dedup.map Prod.snd)

section Distinct

variable [DecidableEq Id] [DecidableEq Key]

theorem countIn_groupCountDistinct (id : Row → Id) (keys : Row → List Key) (rows : List Row)
    (distinct : (rows.map id).Nodup) (wanted : Key) :
    countIn (groupCountDistinct (rows.flatMap fun row => (keys row).map fun key => (id row, key))) wanted =
      rows.countP fun row => wanted ∈ keys row := by
  let joined := rows.flatMap fun row => (keys row).map fun key => (id row, key)
  let counted := (joined.dedup.filter fun pair => pair.2 = wanted).map Prod.fst
  let having := (rows.filter fun row => wanted ∈ keys row).map id
  have countedNodup : counted.Nodup := by
    refine List.Nodup.map_on ?_ (joined.nodup_dedup.filter _)
    rintro ⟨left, _⟩ inLeft ⟨right, _⟩ inRight rfl
    have leftKey := (List.mem_filter.mp inLeft).2
    have rightKey := (List.mem_filter.mp inRight).2
    simp only [decide_eq_true_eq] at leftKey rightKey
    rw [leftKey, rightKey]
  have havingNodup : having.Nodup := distinct.sublist (List.filter_sublist.map id)
  have same : counted.Perm having := by
    rw [List.perm_ext_iff_of_nodup countedNodup havingNodup]
    intro value
    simp only [counted, having, joined, List.mem_map, List.mem_filter, List.mem_dedup, List.mem_flatMap,
      decide_eq_true_eq]
    constructor
    · rintro ⟨_, ⟨⟨row, member, key, held, rfl⟩, rfl⟩, rfl⟩
      exact ⟨row, ⟨member, held⟩, rfl⟩
    · rintro ⟨row, ⟨member, held⟩, rfl⟩
      exact ⟨(id row, wanted), ⟨⟨row, member, wanted, held, rfl⟩, rfl⟩, rfl⟩
  have lengths := same.length_eq
  rw [List.length_map, List.length_map, ← List.countP_eq_length_filter, ← List.countP_eq_length_filter] at lengths
  rw [groupCountDistinct, countIn_groupCount, count_map]
  exact lengths

end Distinct

/-! Rows that count, under each key, how many of the rows behind them have it. -/

section Counts

variable [DecidableEq Key]

structure Counts (keys : Row → List Key) (behind : List Row) (rows : List (Key × Nat)) : Prop where
  distinct : (rows.map Prod.fst).Nodup
  counts : ∀ key, countIn rows key = behind.countP fun row => key ∈ keys row

variable {keys : Row → List Key} {behind : List Row} {rows others : List (Key × Nat)}

theorem Counts.perm (counts : Counts keys behind rows) (same : rows.Perm others) : Counts keys behind others := by
  refine ⟨(same.map Prod.fst).nodup_iff.mp counts.distinct, fun key => ?_⟩
  rw [countIn_perm same counts.distinct, counts.counts]

theorem counts_groupCount_flatMap (apart : ∀ row ∈ behind, (keys row).Nodup) :
    Counts keys behind (groupCount (behind.flatMap keys)) := by
  constructor
  · rw [keys_groupCount]
    exact List.nodup_dedup _
  · intro key
    rw [countIn_groupCount]
    induction behind with
    | nil => rfl
    | cons first rest ih =>
        have later := ih fun row member => apart row (List.mem_cons_of_mem _ member)
        have here := (apart first List.mem_cons_self).count (a := key)
        rw [List.flatMap_cons, List.count_append, later, here, List.countP_cons, Nat.add_comm]
        simp only [decide_eq_true_eq]

theorem counts_groupCount_map (key : Row → Key) :
    Counts (fun row => [key row]) behind (groupCount (behind.map key)) := by
  have single : behind.map key = behind.flatMap fun row => [key row] := by
    rw [← List.map_eq_flatMap]
  rw [single]
  exact counts_groupCount_flatMap fun _ _ => List.nodup_singleton _

theorem counts_groupCountDistinct [DecidableEq Id] (id : Row → Id) (distinct : (behind.map id).Nodup) :
    Counts keys behind
      (groupCountDistinct (behind.flatMap fun row => (keys row).map fun key => (id row, key))) := by
  constructor
  · rw [groupCountDistinct, keys_groupCount]
    exact List.nodup_dedup _
  · exact countIn_groupCountDistinct id keys behind distinct

theorem Counts.map {Text : Type} [DecidableEq Text] {text : Key → Text} (counts : Counts keys behind rows)
    (apart : Function.Injective text) :
    Counts (fun row => (keys row).map text) behind (rows.map fun row => (text row.1, row.2)) := by
  have texts : (rows.map fun row => (text row.1, row.2)).map Prod.fst = (rows.map Prod.fst).map text := by
    rw [List.map_map, List.map_map]
    rfl
  have distinct : ((rows.map fun row => (text row.1, row.2)).map Prod.fst).Nodup := by
    rw [texts]
    exact counts.distinct.map apart
  refine ⟨distinct, fun wanted => ?_⟩
  by_cases written : ∃ key, text key = wanted
  · obtain ⟨key, rfl⟩ := written
    have holders : (behind.countP fun row => text key ∈ (keys row).map text) =
        behind.countP fun row => key ∈ keys row :=
      List.countP_congr fun row _ => by simp [List.mem_map, apart.eq_iff]
    rw [holders, ← counts.counts]
    by_cases member : key ∈ rows.map Prod.fst
    · obtain ⟨⟨_, count⟩, listed, rfl⟩ := List.mem_map.mp member
      rw [countIn_of_mem counts.distinct listed]
      exact countIn_of_mem distinct (List.mem_map.mpr ⟨_, listed, rfl⟩)
    · rw [countIn_of_not_mem member]
      refine countIn_of_not_mem ?_
      rw [texts, List.mem_map_of_injective apart]
      exact member
  · have nobody : (behind.countP fun row => wanted ∈ (keys row).map text) = 0 := by
      refine List.countP_eq_zero.mpr fun row _ held => written ?_
      obtain ⟨key, _, same⟩ := List.mem_map.mp (decide_eq_true_eq.mp held)
      exact ⟨key, same⟩
    rw [nobody]
    refine countIn_of_not_mem fun listed => written ?_
    rw [texts] at listed
    obtain ⟨key, _, same⟩ := List.mem_map.mp listed
    exact ⟨key, same⟩

end Counts

theorem countP_eq_iff {rows : List Row} {weak strong : Row → Bool}
    (stronger : ∀ row ∈ rows, strong row = true → weak row = true) :
    rows.countP strong = rows.countP weak ↔ ∀ row ∈ rows, weak row = true → strong row = true := by
  induction rows with
  | nil => simp
  | cons first rest ih =>
      have below := List.countP_mono_left fun row member => stronger row (List.mem_cons_of_mem first member)
      have restIff := ih fun row member => stronger row (List.mem_cons_of_mem _ member)
      have head := stronger first List.mem_cons_self
      rw [List.countP_cons, List.countP_cons, List.forall_mem_cons, ← restIff]
      cases strongHere : strong first with
      | true =>
          simp [head strongHere]
      | false =>
          cases weakHere : weak first with
          | true =>
              simp only [Bool.false_eq_true, if_false, if_true, Nat.add_zero, forall_const, false_and, iff_false]
              omega
          | false => simp

theorem perm_flatMap_filter {Row Key : Type} [DecidableEq Key] (keyOf : Row → Option Key) (rows : List Row)
    {keys : List Key} (distinct : keys.Nodup) :
    (keys.flatMap fun key => rows.filter fun row => keyOf row = some key).Perm
      (rows.filter fun row => (keyOf row).any (· ∈ keys)) := by
  induction keys with
  | nil => simp
  | cons key rest ih =>
      obtain ⟨absent, distinct⟩ := List.nodup_cons.mp distinct
      have parts := List.filter_append_perm (fun row => decide (keyOf row = some key))
        (rows.filter fun row => (keyOf row).any (· ∈ key :: rest))
      rw [List.filter_filter, List.filter_filter] at parts
      refine List.Perm.trans ?_ parts
      rw [List.flatMap_cons]
      refine List.Perm.append (.of_eq (List.filter_congr fun row _ => ?_))
        ((ih distinct).trans (.of_eq (List.filter_congr fun row _ => ?_)))
      · by_cases here : keyOf row = some key <;> simp [here]
      · cases keyed : keyOf row with
        | none => simp
        | some other =>
            by_cases here : other = key
            · simp [here, absent]
            · simp [here]

end AggregateLib
