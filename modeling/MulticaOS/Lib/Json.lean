import MulticaOS.Lib.GoText

/-!
Strings, objects and arrays as Go's package `encoding/json` writes them, and how many bytes
that takes.
-/

namespace JsonLib

def byteSize (text : List Char) : Nat := (text.map Char.utf8Size).sum

@[simp] theorem byteSize_nil : byteSize [] = 0 := rfl

@[simp] theorem byteSize_cons (char : Char) (rest : List Char) :
    byteSize (char :: rest) = char.utf8Size + byteSize rest := by
  simp [byteSize]

@[simp] theorem byteSize_append (front back : List Char) :
    byteSize (front ++ back) = byteSize front + byteSize back := by
  simp [byteSize]

theorem byteSize_sublist {part text : List Char} (sub : part.Sublist text) :
    byteSize part ≤ byteSize text := by
  induction sub with
  | slnil => exact Nat.le_refl _
  | cons char _ ih =>
      rw [byteSize_cons]
      omega
  | cons_cons char _ ih =>
      rw [byteSize_cons, byteSize_cons]
      omega

def quotationMark : Char := Char.ofNat 0x22

def backslash : Char := Char.ofNat 0x5C

def hexDigits (code : Nat) : List Char := [Nat.digitChar (code / 16), Nat.digitChar (code % 16)]

/-- A character inside a string; `<`, `>` and `&` are escaped so that HTML may embed the text. -/
def escapeChar (char : Char) : List Char :=
  let code := char.toNat
  if char = quotationMark ∨ char = backslash then [backslash, char]
  else if code = 0x08 then [backslash, 'b']
  else if code = 0x0C then [backslash, 'f']
  else if code = 0x0A then [backslash, 'n']
  else if code = 0x0D then [backslash, 'r']
  else if code = 0x09 then [backslash, 't']
  else if code < 0x20 ∨ char = '<' ∨ char = '>' ∨ char = '&' then
    [backslash, 'u', '0', '0'] ++ hexDigits code
  else if code = 0x2028 ∨ code = 0x2029 then [backslash, 'u', '2', '0'] ++ hexDigits (code % 256)
  else [char]

def escape (text : List Char) : List Char := text.flatMap escapeChar

@[simp] theorem escape_append (front back : List Char) :
    escape (front ++ back) = escape front ++ escape back := by
  simp [escape]

theorem escape_sublist {part text : List Char} (sub : part.Sublist text) :
    (escape part).Sublist (escape text) :=
  sub.flatMap escapeChar

def marshalString (text : String) : List Char :=
  quotationMark :: escape text.toList ++ [quotationMark]

theorem byteSize_marshalString (text : String) :
    byteSize (marshalString text) = byteSize (escape text.toList) + 2 := by
  have one : quotationMark.utf8Size = 1 := rfl
  rw [marshalString, List.cons_append, byteSize_cons, byteSize_append, byteSize_cons, byteSize_nil, one]
  omega

def field (name value : String) : List (List Char) :=
  [marshalString name ++ ':' :: marshalString value]

def fieldOmitEmpty (name value : String) : List (List Char) :=
  if value = "" then [] else field name value

def commaSeparated : List (List Char) → List Char
  | [] => []
  | [item] => item
  | item :: rest => item ++ ',' :: commaSeparated rest

theorem byteSize_commaSeparated {items : List (List Char)} (nonempty : items ≠ []) :
    byteSize (commaSeparated items) + 1 = (items.map fun item => byteSize item + 1).sum := by
  induction items with
  | nil => contradiction
  | cons item rest ih =>
      cases rest with
      | nil => simp [commaSeparated]
      | cons next later =>
          have comma : (',' : Char).utf8Size = 1 := rfl
          have shorter := ih (List.cons_ne_nil next later)
          rw [commaSeparated, byteSize_append, byteSize_cons, comma, List.map_cons, List.sum_cons,
            ← shorter]
          · omega
          · simp

def marshalObject (fields : List (List Char)) : List Char :=
  '{' :: commaSeparated fields ++ ['}']

def marshalArray (items : List (List Char)) : List Char :=
  '[' :: commaSeparated items ++ [']']

theorem byteSize_marshalArray {items : List (List Char)} (nonempty : items ≠ []) :
    byteSize (marshalArray items) = 1 + (items.map fun item => byteSize item + 1).sum := by
  have opening : ('[' : Char).utf8Size = 1 := rfl
  have closing : (']' : Char).utf8Size = 1 := rfl
  rw [marshalArray, List.cons_append, byteSize_cons, byteSize_append, byteSize_cons, byteSize_nil,
    opening, closing, ← byteSize_commaSeparated nonempty]

end JsonLib
