import Mathlib

/-!
The protocol-buffer wire format as `protowire` reads and writes it: varints of at most ten bytes,
tags, length-delimited values, and groups; and the loop that decodes a message field by field.
-/

namespace WireLib

abbrev Bytes := List UInt8

inductive Error where
  | truncated
  | overflow
  | fieldNumber
  | endGroup
  | reserved
  | recursionDepth
  deriving DecidableEq

def appendVarintFrom : Nat → Nat → Bytes
  | 0, value => [UInt8.ofNat value]
  | left + 1, value =>
      if value < 128 then [UInt8.ofNat value]
      else UInt8.ofNat (value % 128 + 128) :: appendVarintFrom left (value / 128)

def appendVarint (value : Nat) : Bytes := appendVarintFrom 9 value

/-- The last byte of ten has a single bit. -/
def consumeVarintFrom : Nat → Bytes → Except Error (Nat × Bytes)
  | _, [] => .error .truncated
  | 0, byte :: rest => if byte.toNat < 2 then .ok (byte.toNat, rest) else .error .overflow
  | left + 1, byte :: rest =>
      if byte.toNat < 128 then .ok (byte.toNat, rest)
      else (consumeVarintFrom left rest).map fun found => (byte.toNat - 128 + 128 * found.1, found.2)

def consumeVarint (bytes : Bytes) : Except Error (Nat × Bytes) := consumeVarintFrom 9 bytes

/-- `(9 * bits.Len64(v) + 64) / 64`. -/
def sizeVarint (value : Nat) : Nat := (9 * value.size + 64) / 64

theorem appendVarint_small {value : Nat} (small : value < 128) : appendVarint value = [UInt8.ofNat value] :=
  if_pos small

theorem consumeVarintFrom_append (left : Nat) :
    ∀ value rest, value < 2 ^ (7 * left + 1) →
      consumeVarintFrom left (appendVarintFrom left value ++ rest) = .ok (value, rest) := by
  induction left with
  | zero =>
      intro value rest small
      have tiny : value < 2 := small
      have byte : (UInt8.ofNat value).toNat = value := by simp; omega
      rw [appendVarintFrom, List.singleton_append, consumeVarintFrom, byte, if_pos tiny]
  | succ left ih =>
      intro value rest small
      by_cases short : value < 128
      · have byte : (UInt8.ofNat value).toNat = value := by simp; omega
        rw [appendVarintFrom, if_pos short, List.singleton_append, consumeVarintFrom, byte, if_pos short]
      · have byte : (UInt8.ofNat (value % 128 + 128)).toNat = value % 128 + 128 := by simp; omega
        have power : 2 ^ (7 * (left + 1) + 1) = 2 ^ (7 * left + 1) * 128 := by
          rw [show 7 * (left + 1) + 1 = 7 * left + 1 + 7 by omega, Nat.pow_add]
        have lower : value / 128 < 2 ^ (7 * left + 1) := by
          rw [Nat.div_lt_iff_lt_mul (by omega), ← power]
          exact small
        rw [appendVarintFrom, if_neg short, List.cons_append, consumeVarintFrom, byte, if_neg (by omega),
          ih _ _ lower]
        simp only [Except.map, Except.ok.injEq, Prod.mk.injEq, and_true]
        omega

theorem consumeVarint_append {value : Nat} (word : value < 2 ^ 64) (rest : Bytes) :
    consumeVarint (appendVarint value ++ rest) = .ok (value, rest) :=
  consumeVarintFrom_append 9 value rest word

theorem size_div {value : Nat} (large : 128 ≤ value) : value.size = (value / 128).size + 7 := by
  refine Nat.le_antisymm ?_ ?_
  · rw [Nat.size_le, Nat.pow_add, ← Nat.div_lt_iff_lt_mul (by decide)]
    exact Nat.lt_size_self _
  · have positive : 0 < (value / 128).size := Nat.size_pos.mpr (Nat.div_pos large (by decide))
    rw [show (value / 128).size + 7 = ((value / 128).size - 1 + 7) + 1 by omega]
    refine Nat.lt_size.mpr ?_
    rw [Nat.pow_add, ← Nat.le_div_iff_mul_le (by decide)]
    have below : (value / 128).size - 1 < (value / 128).size := by omega
    exact Nat.lt_size.mp below

theorem length_appendVarintFrom (left : Nat) :
    ∀ value, value < 2 ^ (7 * left + 7) →
      (appendVarintFrom left value).length = max 1 ((value.size + 6) / 7) := by
  induction left with
  | zero =>
      intro value small
      have size : value.size ≤ 7 := Nat.size_le.mpr small
      rw [appendVarintFrom, List.length_singleton]
      omega
  | succ left ih =>
      intro value small
      rw [appendVarintFrom]
      by_cases short : value < 128
      · have size : value.size ≤ 7 := Nat.size_le.mpr short
        rw [if_pos short, List.length_singleton]
        omega
      · have power : 2 ^ (7 * (left + 1) + 7) = 2 ^ (7 * left + 7) * 128 := by
          rw [show 7 * (left + 1) + 7 = 7 * left + 7 + 7 by omega, Nat.pow_add]
        have lower : value / 128 < 2 ^ (7 * left + 7) := by
          rw [Nat.div_lt_iff_lt_mul (by omega), ← power]
          exact small
        have positive : 0 < (value / 128).size := Nat.size_pos.mpr (Nat.div_pos (by omega) (by decide))
        have size := size_div (Nat.le_of_not_lt short)
        rw [if_neg short, List.length_cons, ih _ lower, size]
        omega

theorem sizeVarint_eq {value : Nat} (word : value < 2 ^ 64) : sizeVarint value = (appendVarint value).length := by
  have size : value.size ≤ 64 := Nat.size_le.mpr word
  rw [appendVarint, length_appendVarintFrom 9 value (by omega), sizeVarint]
  omega

def varintType : Nat := 0
def fixed64Type : Nat := 1
def bytesType : Nat := 2
def startGroupType : Nat := 3
def endGroupType : Nat := 4
def fixed32Type : Nat := 5

def encodeTag (number type : Nat) : Nat := number * 8 + type

def appendTag (number type : Nat) : Bytes := appendVarint (encodeTag number type)

def sizeTag (number : Nat) : Nat := sizeVarint (encodeTag number 0)

/-- The number is between 1 and `math.MaxInt32`. -/
def consumeTag (bytes : Bytes) : Except Error (Nat × Nat × Bytes) :=
  match consumeVarint bytes with
  | .error fault => .error fault
  | .ok (tag, rest) =>
      if tag / 8 = 0 ∨ 2 ^ 31 ≤ tag / 8 then .error .fieldNumber else .ok (tag / 8, tag % 8, rest)

def appendBytes (value : Bytes) : Bytes := appendVarint value.length ++ value

def sizeBytes (length : Nat) : Nat := sizeVarint length + length

def consumeFixed (count : Nat) (bytes : Bytes) : Except Error (Bytes × Bytes) :=
  if bytes.length < count then .error .truncated else .ok (bytes.take count, bytes.drop count)

def consumeBytes (bytes : Bytes) : Except Error (Bytes × Bytes) :=
  match consumeVarint bytes with
  | .error fault => .error fault
  | .ok (length, rest) => consumeFixed length rest

/-- The fields of a group, up to the tag that ends it; `value` reads what follows a tag. -/
def consumeGroup (value : Nat → Nat → Bytes → Except Error Bytes) (number : Nat) :
    Nat → Bytes → Except Error Bytes
  | 0, _ => .error .truncated
  | fuel + 1, bytes =>
      match consumeTag bytes with
      | .error fault => .error fault
      | .ok (inner, type, rest) =>
          if type = endGroupType then if number = inner then .ok rest else .error .endGroup
          else
            match value inner type rest with
            | .error fault => .error fault
            | .ok rest => consumeGroup value number fuel rest

def consumeFieldValueD : Nat → Nat → Nat → Bytes → Except Error Bytes
  | depth, number, type =>
      if type = varintType then fun bytes => (consumeVarint bytes).map Prod.snd
      else if type = fixed32Type then fun bytes => (consumeFixed 4 bytes).map Prod.snd
      else if type = fixed64Type then fun bytes => (consumeFixed 8 bytes).map Prod.snd
      else if type = bytesType then fun bytes => (consumeBytes bytes).map Prod.snd
      else if type = startGroupType then
        match depth with
        | 0 => fun _ => .error .recursionDepth
        | depth + 1 => fun bytes => consumeGroup (consumeFieldValueD depth) number (bytes.length + 1) bytes
      else if type = endGroupType then fun _ => .error .endGroup
      else fun _ => .error .reserved

/-- Groups may be nested in each other up to the recursion limit of 10000. -/
def consumeFieldValue : Nat → Nat → Bytes → Except Error Bytes := consumeFieldValueD 10001

def Field (bytes : Bytes) : Prop :=
  ∃ number type rest, consumeTag bytes = .ok (number, type, rest) ∧ consumeFieldValue number type rest = .ok []

theorem consumeTag_append {number type : Nat} (valid : 0 < number ∧ number < 2 ^ 31) (small : type < 8)
    (rest : Bytes) : consumeTag (appendTag number type ++ rest) = .ok (number, type, rest) := by
  have word : encodeTag number type < 2 ^ 64 := by rw [encodeTag]; omega
  have number_eq : encodeTag number type / 8 = number := by rw [encodeTag]; omega
  have type_eq : encodeTag number type % 8 = type := by rw [encodeTag]; omega
  rw [consumeTag, appendTag, consumeVarint_append word]
  dsimp only
  rw [number_eq, type_eq, if_neg (by omega)]

theorem consumeBytes_append {value : Bytes} (word : value.length < 2 ^ 64) (rest : Bytes) :
    consumeBytes (appendBytes value ++ rest) = .ok (value, rest) := by
  rw [consumeBytes, appendBytes, List.append_assoc, consumeVarint_append word]
  dsimp only
  rw [consumeFixed, if_neg (by simp), List.take_left, List.drop_left]

/-! What a reader has read it reads again, alone or with other bytes behind it. -/

structure Local {Value : Type} (read : Bytes → Except Error (Value × Bytes)) : Prop where
  extend : ∀ {bytes rest value}, read bytes = .ok (value, rest) →
    ∀ tail, read (bytes ++ tail) = .ok (value, rest ++ tail)
  restrict : ∀ {bytes rest value}, read bytes = .ok (value, rest) →
    ∃ front, bytes = front ++ rest ∧ read front = .ok (value, [])

structure Skips (skip : Bytes → Except Error Bytes) : Prop where
  extend : ∀ {bytes rest}, skip bytes = .ok rest → ∀ tail, skip (bytes ++ tail) = .ok (rest ++ tail)
  restrict : ∀ {bytes rest}, skip bytes = .ok rest → ∃ front, bytes = front ++ rest ∧ skip front = .ok []

theorem Local.skips {Value : Type} {read : Bytes → Except Error (Value × Bytes)} (localized : Local read) :
    Skips fun bytes => (read bytes).map Prod.snd := by
  have found : ∀ {bytes rest}, (read bytes).map Prod.snd = .ok rest → ∃ value, read bytes = .ok (value, rest) := by
    intro bytes rest skipped
    cases result : read bytes with
    | error fault =>
        rw [result] at skipped
        cases skipped
    | ok pair =>
        rw [result] at skipped
        cases skipped
        exact ⟨pair.1, rfl⟩
  constructor
  · intro bytes rest skipped tail
    obtain ⟨value, read⟩ := found skipped
    rw [localized.extend read tail]
    rfl
  · intro bytes rest skipped
    obtain ⟨value, read⟩ := found skipped
    obtain ⟨front, same, alone⟩ := localized.restrict read
    refine ⟨front, same, ?_⟩
    rw [alone]
    rfl

theorem local_consumeVarintFrom (left : Nat) : Local (consumeVarintFrom left) := by
  induction left with
  | zero =>
      constructor
      · intro bytes rest value read tail
        match bytes with
        | [] => cases read
        | byte :: bytes =>
            simp only [consumeVarintFrom] at read
            split at read
            · rename_i tiny
              cases read
              simp [consumeVarintFrom, tiny]
            · cases read
      · intro bytes rest value read
        match bytes with
        | [] => cases read
        | byte :: bytes =>
            simp only [consumeVarintFrom] at read
            split at read
            · rename_i tiny
              cases read
              exact ⟨[byte], rfl, by simp [consumeVarintFrom, tiny]⟩
            · cases read
  | succ left ih =>
      constructor
      · intro bytes rest value read tail
        match bytes with
        | [] => cases read
        | byte :: bytes =>
            simp only [consumeVarintFrom] at read
            split at read
            · rename_i short
              cases read
              simp [consumeVarintFrom, short]
            · rename_i long
              cases later : consumeVarintFrom left bytes with
              | error fault => simp [later, Except.map] at read
              | ok found =>
                  rw [later] at read
                  cases read
                  simp [consumeVarintFrom, long, ih.extend later tail, Except.map]
      · intro bytes rest value read
        match bytes with
        | [] => cases read
        | byte :: bytes =>
            simp only [consumeVarintFrom] at read
            split at read
            · rename_i short
              cases read
              exact ⟨[byte], rfl, by simp [consumeVarintFrom, short]⟩
            · rename_i long
              cases later : consumeVarintFrom left bytes with
              | error fault => simp [later, Except.map] at read
              | ok found =>
                  rw [later] at read
                  cases read
                  obtain ⟨front, same, alone⟩ := ih.restrict later
                  refine ⟨byte :: front, by rw [same, List.cons_append], ?_⟩
                  simp [consumeVarintFrom, long, alone, Except.map]

theorem local_consumeVarint : Local consumeVarint := local_consumeVarintFrom 9

theorem local_consumeFixed (count : Nat) : Local (consumeFixed count) := by
  constructor
  · intro bytes rest value read tail
    rw [consumeFixed] at read ⊢
    split at read
    · cases read
    · rename_i enough
      cases read
      have short : count ≤ bytes.length := Nat.le_of_not_lt enough
      rw [if_neg (by rw [List.length_append]; omega), List.take_append_of_le_length short,
        List.drop_append_of_le_length short]
  · intro bytes rest value read
    rw [consumeFixed] at read
    split at read
    · cases read
    · rename_i enough
      cases read
      have length : (bytes.take count).length = count := List.length_take_of_le (Nat.le_of_not_lt enough)
      refine ⟨bytes.take count, (List.take_append_drop count bytes).symm, ?_⟩
      rw [consumeFixed, if_neg (by omega), List.take_of_length_le (by omega), List.drop_eq_nil_of_le (by omega)]

theorem local_consumeBytes : Local consumeBytes := by
  constructor
  · intro bytes rest value read tail
    rw [consumeBytes] at read ⊢
    cases varint : consumeVarint bytes with
    | error fault => simp [varint] at read
    | ok found =>
        rw [varint] at read
        rw [local_consumeVarint.extend varint tail]
        exact (local_consumeFixed found.1).extend read tail
  · intro bytes rest value read
    rw [consumeBytes] at read
    cases varint : consumeVarint bytes with
    | error fault => simp [varint] at read
    | ok found =>
        rw [varint] at read
        obtain ⟨front, same, alone⟩ := local_consumeVarint.restrict varint
        obtain ⟨content, rest_eq, fixed⟩ := (local_consumeFixed found.1).restrict read
        refine ⟨front ++ content, by rw [same, rest_eq, List.append_assoc], ?_⟩
        rw [consumeBytes, local_consumeVarint.extend alone content]
        exact fixed

theorem consumeTag_extend {bytes rest : Bytes} {number type : Nat}
    (read : consumeTag bytes = .ok (number, type, rest)) (tail : Bytes) :
    consumeTag (bytes ++ tail) = .ok (number, type, rest ++ tail) := by
  rw [consumeTag] at read ⊢
  cases varint : consumeVarint bytes with
  | error fault => simp [varint] at read
  | ok found =>
      rw [varint] at read
      rw [local_consumeVarint.extend varint tail]
      dsimp only at read ⊢
      split at read
      · cases read
      · rename_i valid
        cases read
        rw [if_neg valid]

theorem consumeTag_restrict {bytes rest : Bytes} {number type : Nat}
    (read : consumeTag bytes = .ok (number, type, rest)) :
    ∃ front, front ≠ [] ∧ bytes = front ++ rest ∧ consumeTag front = .ok (number, type, []) := by
  rw [consumeTag] at read
  cases varint : consumeVarint bytes with
  | error fault => simp [varint] at read
  | ok found =>
      rw [varint] at read
      dsimp only at read
      split at read
      · cases read
      · rename_i valid
        cases read
        obtain ⟨front, same, alone⟩ := local_consumeVarint.restrict varint
        refine ⟨front, ?_, same, ?_⟩
        · rintro rfl
          cases alone
        · rw [consumeTag, alone]
          exact if_neg valid

/-! Groups and fields.  The induction of the groups is on their fuel, that of the values on the depth. -/

section Groups

variable {value : Nat → Nat → Bytes → Except Error Bytes} {number : Nat}

theorem consumeGroup_extend (skips : ∀ inner type, Skips (value inner type)) (fuel : Nat) :
    ∀ {bytes rest : Bytes}, consumeGroup value number fuel bytes = .ok rest → ∀ more, fuel ≤ more →
      ∀ tail, consumeGroup value number more (bytes ++ tail) = .ok (rest ++ tail) := by
  induction fuel with
  | zero =>
      intro bytes rest done
      cases done
  | succ fuel ih =>
      intro bytes rest done more enough tail
      obtain ⟨more, rfl⟩ := Nat.exists_eq_add_of_le' (show 1 ≤ more by omega)
      rw [consumeGroup] at done ⊢
      cases tag : consumeTag bytes with
      | error fault => simp [tag] at done
      | ok found =>
          obtain ⟨inner, type, after⟩ := found
          rw [tag] at done
          rw [consumeTag_extend tag tail]
          dsimp only at done ⊢
          by_cases ends : type = endGroupType
          · rw [if_pos ends] at done ⊢
            split at done
            · rename_i same
              cases done
              rw [if_pos same]
            · cases done
          · rw [if_neg ends] at done ⊢
            cases read : value inner type after with
            | error fault => simp [read] at done
            | ok next =>
                rw [read] at done
                rw [(skips inner type).extend read tail]
                exact ih done more (by omega) tail

theorem consumeGroup_restrict (skips : ∀ inner type, Skips (value inner type)) (fuel : Nat) :
    ∀ {bytes rest : Bytes}, consumeGroup value number fuel bytes = .ok rest →
      ∃ front, bytes = front ++ rest ∧ ∀ more, front.length ≤ more →
        consumeGroup value number more front = .ok [] := by
  induction fuel with
  | zero =>
      intro bytes rest done
      cases done
  | succ fuel ih =>
      intro bytes rest done
      rw [consumeGroup] at done
      cases tag : consumeTag bytes with
      | error fault => simp [tag] at done
      | ok found =>
          obtain ⟨inner, type, after⟩ := found
          rw [tag] at done
          dsimp only at done
          obtain ⟨head, some, same, alone⟩ := consumeTag_restrict tag
          have positive := List.length_pos_iff.mpr some
          by_cases ends : type = endGroupType
          · rw [if_pos ends] at done
            split at done
            · rename_i named
              cases done
              refine ⟨head, same, fun more enough => ?_⟩
              obtain ⟨more, rfl⟩ := Nat.exists_eq_add_of_le' (show 1 ≤ more by omega)
              rw [consumeGroup, alone]
              dsimp only
              rw [if_pos ends, if_pos named]
            · cases done
          · rw [if_neg ends] at done
            cases read : value inner type after with
            | error fault => simp [read] at done
            | ok next =>
                rw [read] at done
                obtain ⟨content, content_eq, skipped⟩ := (skips inner type).restrict read
                obtain ⟨others, others_eq, finish⟩ := ih done
                refine ⟨head ++ (content ++ others), ?_, fun more enough => ?_⟩
                · rw [same, content_eq, others_eq, List.append_assoc, List.append_assoc]
                · simp only [List.length_append] at enough
                  obtain ⟨more, rfl⟩ := Nat.exists_eq_add_of_le' (show 1 ≤ more by omega)
                  rw [consumeGroup, consumeTag_extend alone]
                  dsimp only
                  rw [if_neg ends, List.nil_append, (skips inner type).extend skipped]
                  exact finish more (by omega)

theorem skips_consumeGroup (skips : ∀ inner type, Skips (value inner type)) :
    Skips fun bytes => consumeGroup value number (bytes.length + 1) bytes := by
  constructor
  · intro bytes rest done tail
    exact consumeGroup_extend skips _ done _ (by rw [List.length_append]; omega) tail
  · intro bytes rest done
    obtain ⟨front, same, alone⟩ := consumeGroup_restrict skips _ done
    exact ⟨front, same, alone _ (by omega)⟩

end Groups

theorem skips_error (fault : Error) : Skips fun _ => .error fault :=
  ⟨fun read => (by cases read), fun read => (by cases read)⟩

theorem skips_consumeFieldValueD (depth : Nat) :
    ∀ number type, Skips (consumeFieldValueD depth number type) := by
  induction depth with
  | zero =>
      intro number type
      unfold consumeFieldValueD
      split
      · exact local_consumeVarint.skips
      split
      · exact (local_consumeFixed 4).skips
      split
      · exact (local_consumeFixed 8).skips
      split
      · exact local_consumeBytes.skips
      split
      · exact skips_error _
      split <;> exact skips_error _
  | succ depth ih =>
      intro number type
      unfold consumeFieldValueD
      split
      · exact local_consumeVarint.skips
      split
      · exact (local_consumeFixed 4).skips
      split
      · exact (local_consumeFixed 8).skips
      split
      · exact local_consumeBytes.skips
      split
      · exact skips_consumeGroup ih
      split <;> exact skips_error _

theorem skips_consumeFieldValue (number type : Nat) : Skips (consumeFieldValue number type) :=
  skips_consumeFieldValueD _ number type

theorem consumeFieldValue_varint (number : Nat) :
    consumeFieldValue number varintType = fun bytes => (consumeVarint bytes).map Prod.snd := by
  rw [consumeFieldValue, consumeFieldValueD.eq_def]
  exact if_pos rfl

theorem consumeFieldValue_bytes (number : Nat) :
    consumeFieldValue number bytesType = fun bytes => (consumeBytes bytes).map Prod.snd := by
  rw [consumeFieldValue, consumeFieldValueD.eq_def]
  dsimp only
  rw [if_neg (by decide), if_neg (by decide), if_neg (by decide), if_pos rfl]

theorem field_varint {number value : Nat} (valid : 0 < number ∧ number < 2 ^ 31) (word : value < 2 ^ 64) :
    Field (appendTag number varintType ++ appendVarint value) := by
  refine ⟨number, varintType, appendVarint value, consumeTag_append valid (by decide) _, ?_⟩
  have alone := consumeVarint_append word []
  rw [List.append_nil] at alone
  simp only [consumeFieldValue_varint, alone, Except.map]

theorem field_bytes {number : Nat} {value : Bytes} (valid : 0 < number ∧ number < 2 ^ 31)
    (word : value.length < 2 ^ 64) : Field (appendTag number bytesType ++ appendBytes value) := by
  refine ⟨number, bytesType, appendBytes value, consumeTag_append valid (by decide) _, ?_⟩
  have alone := consumeBytes_append word []
  rw [List.append_nil] at alone
  simp only [consumeFieldValue_bytes, alone, Except.map]

theorem Field.ne_nil {bytes : Bytes} (field : Field bytes) : bytes ≠ [] := by
  rintro rfl
  obtain ⟨_, _, _, tag, _⟩ := field
  cases tag

theorem field_of_consumed {bytes after rest : Bytes} {number type : Nat}
    (tag : consumeTag bytes = .ok (number, type, after))
    (value : consumeFieldValue number type after = .ok rest) :
    ∃ field, Field field ∧ bytes = field ++ rest := by
  obtain ⟨head, _, same, alone⟩ := consumeTag_restrict tag
  obtain ⟨content, content_eq, skipped⟩ := (skips_consumeFieldValue number type).restrict value
  refine ⟨head ++ content, ⟨number, type, content, ?_, skipped⟩, ?_⟩
  · simpa using consumeTag_extend alone content
  · rw [same, content_eq, List.append_assoc]

theorem Field.unique {left right back other : Bytes} (first : Field left) (second : Field right)
    (same : left ++ back = right ++ other) : left = right ∧ back = other := by
  obtain ⟨number, type, after, tag, value⟩ := first
  obtain ⟨_, _, _, tagRight, valueRight⟩ := second
  have tags := consumeTag_extend tag back
  rw [same, consumeTag_extend tagRight other] at tags
  simp only [Except.ok.injEq, Prod.mk.injEq] at tags
  obtain ⟨rfl, rfl, afters⟩ := tags
  have values := (skips_consumeFieldValue _ _).extend value back
  rw [← afters, (skips_consumeFieldValue _ _).extend valueRight other] at values
  simp only [List.nil_append, Except.ok.injEq] at values
  subst values
  exact ⟨List.append_cancel_right same, rfl⟩

/-! Messages: a step reads one field into the state. -/

section Message

variable {State Fault : Type} (step : State → Bytes → Except Fault (State × Bytes))

def decodeFrom : Nat → State → Bytes → Except Fault State
  | 0, state, _ => .ok state
  | fuel + 1, state, bytes =>
      if bytes = [] then .ok state
      else
        match step state bytes with
        | .error fault => .error fault
        | .ok (next, rest) => decodeFrom fuel next rest

def decode (state : State) (bytes : Bytes) : Except Fault State := decodeFrom step bytes.length state bytes

def apply (state : State) (field : Bytes) : Except Fault State := (step state field).map Prod.fst

structure Reads : Prop where
  whole : ∀ (state : State) {field : Bytes}, Field field →
    ∃ outcome : Except Fault State, ∀ tail, step state (field ++ tail) = outcome.map fun next => (next, tail)
  field : ∀ {state next : State} {bytes rest : Bytes}, step state bytes = .ok (next, rest) →
    ∃ field, Field field ∧ bytes = field ++ rest

variable {step}

theorem Reads.step_append (reads : Reads step) (state : State) {field : Bytes} (whole : Field field) (tail : Bytes) :
    step state (field ++ tail) = (apply step state field).map fun next => (next, tail) := by
  obtain ⟨outcome, each⟩ := reads.whole state whole
  have alone := each []
  rw [List.append_nil] at alone
  rw [each tail, apply, alone]
  cases outcome <;> rfl

theorem Reads.shorter (reads : Reads step) {state next : State} {bytes rest : Bytes}
    (read : step state bytes = .ok (next, rest)) : rest.length < bytes.length := by
  obtain ⟨field, whole, rfl⟩ := reads.field read
  have positive := List.length_pos_iff.mpr whole.ne_nil
  rw [List.length_append]
  omega

theorem Reads.decodeFrom_enough (reads : Reads step) (fuel : Nat) :
    ∀ {state : State} {bytes : Bytes} (more : Nat), bytes.length ≤ fuel → bytes.length ≤ more →
      decodeFrom step fuel state bytes = decodeFrom step more state bytes := by
  induction fuel with
  | zero =>
      intro state bytes more enough _
      rw [List.length_eq_zero_iff.mp (Nat.le_zero.mp enough)]
      cases more <;> rfl
  | succ fuel ih =>
      intro state bytes more enough others
      by_cases done : bytes = []
      · subst done
        cases more <;> rfl
      · have positive := List.length_pos_iff.mpr done
        obtain ⟨more, rfl⟩ := Nat.exists_eq_add_of_le' (show 1 ≤ more by omega)
        rw [decodeFrom, decodeFrom, if_neg done, if_neg done]
        cases read : step state bytes with
        | error fault => rfl
        | ok found =>
            have shorter := reads.shorter read
            exact ih more (by omega) (by omega)

theorem Reads.decode_field (reads : Reads step) (state : State) {field : Bytes} (whole : Field field)
    (tail : Bytes) :
    decode step state (field ++ tail) = (apply step state field).bind fun next => decode step next tail := by
  have positive := List.length_pos_iff.mpr whole.ne_nil
  have some : field ++ tail ≠ [] := fun none => whole.ne_nil (List.append_eq_nil_iff.mp none).1
  have length : (field ++ tail).length = field.length - 1 + tail.length + 1 := by
    rw [List.length_append]
    omega
  rw [decode, length, decodeFrom, if_neg some, reads.step_append state whole]
  cases apply step state field with
  | error fault => rfl
  | ok next => exact reads.decodeFrom_enough _ _ (by omega) (Nat.le_refl _)

theorem Reads.decode_fields (reads : Reads step) {fields : List Bytes} (whole : ∀ field ∈ fields, Field field)
    (tail : Bytes) : ∀ state,
    decode step state (fields.flatten ++ tail) =
      (fields.foldlM (apply step) state).bind fun next => decode step next tail := by
  induction fields with
  | nil => exact fun state => rfl
  | cons first rest ih =>
      intro state
      have later := ih fun field member => whole field (List.mem_cons_of_mem _ member)
      rw [List.flatten_cons, List.append_assoc, reads.decode_field state (whole first List.mem_cons_self),
        List.foldlM_cons]
      cases apply step state first with
      | error fault => rfl
      | ok next => exact later next

theorem Reads.decode_flatten (reads : Reads step) {fields : List Bytes} (whole : ∀ field ∈ fields, Field field)
    (state : State) : decode step state fields.flatten = fields.foldlM (apply step) state := by
  have ended := reads.decode_fields whole [] state
  rw [List.append_nil] at ended
  rw [ended]
  cases fields.foldlM (apply step) state <;> rfl

theorem Reads.decode_insert (reads : Reads step) {before after : List Bytes} {skipped : Bytes}
    (wholeBefore : ∀ field ∈ before, Field field) (wholeAfter : ∀ field ∈ after, Field field)
    (whole : Field skipped) (ignored : ∀ state, apply step state skipped = .ok state) (state : State) :
    decode step state (before ++ skipped :: after).flatten = decode step state (before ++ after).flatten := by
  rw [reads.decode_flatten (by
      intro field member
      rcases List.mem_append.mp member with early | late
      · exact wholeBefore field early
      · rcases List.mem_cons.mp late with rfl | late
        · exact whole
        · exact wholeAfter field late),
    reads.decode_flatten (by
      intro field member
      rcases List.mem_append.mp member with early | late
      · exact wholeBefore field early
      · exact wholeAfter field late),
    List.foldlM_append, List.foldlM_append]
  cases before.foldlM (apply step) state with
  | error fault => rfl
  | ok next =>
      change (skipped :: after).foldlM (apply step) next = _
      rw [List.foldlM_cons, ignored]

theorem Reads.fields_of_decode (reads : Reads step) (fuel : Nat) :
    ∀ {state next : State} {bytes : Bytes}, bytes.length ≤ fuel → decodeFrom step fuel state bytes = .ok next →
      ∃ fields : List Bytes, (∀ field ∈ fields, Field field) ∧ bytes = fields.flatten := by
  induction fuel with
  | zero =>
      intro state next bytes enough _
      exact ⟨[], by simp, List.length_eq_zero_iff.mp (Nat.le_zero.mp enough)⟩
  | succ fuel ih =>
      intro state next bytes enough decoded
      rw [decodeFrom] at decoded
      split at decoded
      · rename_i none
        exact ⟨[], by simp, none⟩
      · cases read : step state bytes with
        | error fault => simp [read] at decoded
        | ok found =>
            rw [read] at decoded
            have shorter := reads.shorter read
            obtain ⟨first, whole, same⟩ := reads.field read
            obtain ⟨fields, others, rest⟩ := ih (by omega) decoded
            refine ⟨first :: fields, ?_, by rw [same, rest, List.flatten_cons]⟩
            intro field member
            rcases List.mem_cons.mp member with rfl | member
            · exact whole
            · exact others field member

theorem decodeFrom_invariant {holds : State → Prop}
    (preserves : ∀ {state next : State} {bytes rest : Bytes}, step state bytes = .ok (next, rest) →
      holds state → holds next) (fuel : Nat) :
    ∀ {state next : State} {bytes : Bytes}, decodeFrom step fuel state bytes = .ok next → holds state →
      holds next := by
  induction fuel with
  | zero =>
      intro state next bytes decoded start
      cases decoded
      exact start
  | succ fuel ih =>
      intro state next bytes decoded start
      rw [decodeFrom] at decoded
      split at decoded
      · cases decoded
        exact start
      · cases read : step state bytes with
        | error fault => simp [read] at decoded
        | ok found =>
            rw [read] at decoded
            exact ih decoded (preserves read start)

theorem Reads.decode_cut (reads : Reads step) {part missing : Bytes} (whole : Field (part ++ missing))
    (some : part ≠ []) (cut : missing ≠ []) (state next : State) : decode step state part ≠ .ok next := by
  intro decoded
  obtain ⟨fields, wholes, same⟩ := reads.fields_of_decode _ (Nat.le_refl _) decoded
  cases fields with
  | nil => exact some same
  | cons first rest =>
      have overlap : part ++ missing ++ [] = first ++ (rest.flatten ++ missing) := by
        rw [List.append_nil, same, List.flatten_cons, List.append_assoc]
      obtain ⟨-, nothing⟩ := whole.unique (wholes first List.mem_cons_self) overlap
      exact cut (List.append_eq_nil_iff.mp nothing.symm).2

end Message

end WireLib
