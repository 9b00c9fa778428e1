import Mathlib.Tactic.Common

/-!
Base64 with the alphabet for URLs and without padding: bytes, and texts as their UTF-8.
-/

namespace Base64Lib

def digit (value : Nat) : Char :=
  if value < 26 then Char.ofNat (65 + value)
  else if value < 52 then Char.ofNat (71 + value)
  else if value < 62 then Char.ofNat (value - 4)
  else if value = 62 then '-'
  else '_'

def value (char : Char) : Option Nat :=
  let code := char.toNat
  if 65 ≤ code ∧ code ≤ 90 then some (code - 65)
  else if 97 ≤ code ∧ code ≤ 122 then some (code - 71)
  else if 48 ≤ code ∧ code ≤ 57 then some (code + 4)
  else if char = '-' then some 62
  else if char = '_' then some 63
  else none

def encodeBytes : List UInt8 → List Nat
  | [] => []
  | [a] => [a.toNat / 4, a.toNat % 4 * 16]
  | [a, b] => [a.toNat / 4, a.toNat % 4 * 16 + b.toNat / 16, b.toNat % 16 * 4]
  | a :: b :: c :: rest =>
      a.toNat / 4 :: (a.toNat % 4 * 16 + b.toNat / 16) :: (b.toNat % 16 * 4 + c.toNat / 64) ::
        c.toNat % 64 :: encodeBytes rest

def decodeBytes : List Nat → Option (List UInt8)
  | [] => some []
  | [_] => none
  | [w, x] => some [UInt8.ofNat (w * 4 + x / 16)]
  | [w, x, y] => some [UInt8.ofNat (w * 4 + x / 16), UInt8.ofNat (x % 16 * 16 + y / 4)]
  | w :: x :: y :: z :: rest =>
      (decodeBytes rest).map fun bytes =>
        UInt8.ofNat (w * 4 + x / 16) :: UInt8.ofNat (x % 16 * 16 + y / 4) ::
          UInt8.ofNat (y % 4 * 64 + z) :: bytes

def encode (text : String) : String := String.ofList ((encodeBytes text.toByteArray.data.toList).map digit)

def decode (text : String) : Option String :=
  ((text.toList.filter fun char => char ≠ '\n' && char ≠ '\r').mapM value).bind fun digits =>
    (decodeBytes digits).bind fun bytes => String.fromUTF8? ⟨bytes.toArray⟩

theorem encodeBytes_lt (bytes : List UInt8) : ∀ digit ∈ encodeBytes bytes, digit < 64 := by
  fun_induction encodeBytes bytes with
  | case1 => simp
  | case2 a =>
      have small := a.toNat_lt
      intro digit member
      simp only [List.mem_cons, List.not_mem_nil, or_false] at member
      omega
  | case3 a b =>
      have small := a.toNat_lt
      have smallB := b.toNat_lt
      intro digit member
      simp only [List.mem_cons, List.not_mem_nil, or_false] at member
      omega
  | case4 a b c rest ih =>
      have small := a.toNat_lt
      have smallB := b.toNat_lt
      have smallC := c.toNat_lt
      intro digit member
      simp only [List.mem_cons] at member
      rcases member with here | here | here | here | later
      · omega
      · omega
      · omega
      · omega
      · exact ih digit later

theorem ofNat_eq {value : Nat} (byte : UInt8) (same : value = byte.toNat) : UInt8.ofNat value = byte := by
  rw [same, UInt8.ofNat_toNat]

theorem decodeBytes_encodeBytes (bytes : List UInt8) :
    decodeBytes (encodeBytes bytes) = some bytes := by
  fun_induction encodeBytes bytes with
  | case1 => rfl
  | case2 a =>
      have small := a.toNat_lt
      rw [decodeBytes, ofNat_eq a (by omega)]
  | case3 a b =>
      have small := a.toNat_lt
      have smallB := b.toNat_lt
      rw [decodeBytes, ofNat_eq a (by omega), ofNat_eq b (by omega)]
  | case4 a b c rest ih =>
      have small := a.toNat_lt
      have smallB := b.toNat_lt
      have smallC := c.toNat_lt
      rw [decodeBytes, ih, Option.map_some, ofNat_eq a (by omega),
        ofNat_eq b (by omega), ofNat_eq c (by omega)]

theorem value_digit {code : Nat} (small : code < 64) : value (digit code) = some code := by
  have each : ∀ code : Fin 64, value (digit code) = some code.val := by decide
  exact each ⟨code, small⟩

theorem digit_ne {code : Nat} (small : code < 64) :
    ∀ char ∈ ['\n', '\r', ':', ' '], digit code ≠ char := by
  intro char member same
  have isValue := value_digit small
  rw [same] at isValue
  simp only [List.mem_cons, List.not_mem_nil, or_false] at member
  rcases member with rfl | rfl | rfl | rfl <;> cases isValue

theorem mapM_value {digits : List Nat} (small : ∀ code ∈ digits, code < 64) :
    (digits.map digit).mapM value = some digits := by
  induction digits with
  | nil => rfl
  | cons code rest ih =>
      rw [List.map_cons, List.mapM_cons, value_digit (small code (by simp)),
        ih fun other member => small other (by simp [member])]
      rfl

theorem mem_encode {text : String} {char : Char} (member : char ∈ (encode text).toList) :
    ∃ code < 64, char = digit code := by
  rw [encode, String.toList_ofList] at member
  obtain ⟨code, listed, same⟩ := List.mem_map.mp member
  exact ⟨code, encodeBytes_lt _ code listed, same.symm⟩

theorem fromUTF8?_toByteArray (text : String) :
    String.fromUTF8? ⟨text.toByteArray.data.toList.toArray⟩ = some text := by
  rw [Array.toArray_toList, String.fromUTF8?, dif_pos text.isValidUTF8]
  rfl

theorem decode_encode (text : String) : decode (encode text) = some text := by
  have clean : (encode text).toList.filter (fun char => char ≠ '\n' && char ≠ '\r') =
      (encode text).toList := by
    refine List.filter_eq_self.mpr fun char member => ?_
    obtain ⟨code, small, rfl⟩ := mem_encode member
    simp [digit_ne small]
  rw [decode, clean, encode, String.toList_ofList, mapM_value (encodeBytes_lt _), Option.bind_some,
    decodeBytes_encodeBytes, Option.bind_some, fromUTF8?_toByteArray]

end Base64Lib
