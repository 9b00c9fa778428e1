import Mathlib.Data.List.Lex
import Mathlib.Data.List.Sort
import Mathlib.Data.Nat.Digits.Defs
import MulticaOS.Lib.Frames
import MulticaOS.Lib.Lists

/-!
The manifest of a skill bundle: what its hash is a digest of.  A string of Go is its bytes.
-/

namespace MulticaOS.SkillBundles

abbrev GoString := List (Fin 256)

def goString (text : String) : GoString := text.toUTF8.toList.map fun byte => Fin.ofNat 256 byte.toNat

def decimal (number : Nat) : GoString :=
  (Nat.toDigits 10 number).map fun digit => Fin.ofNat 256 digit.toNat

def colon : Fin 256 := 58

def newline : Fin 256 := 10

structure File where
  path : GoString
  content : GoString
  deriving DecidableEq

structure Skill where
  id : GoString
  source : GoString
  name : GoString
  description : GoString
  content : GoString
  files : List File
  deriving DecidableEq

def writeHashPart (value : GoString) : GoString :=
  decimal value.length ++ [colon] ++ value ++ [newline]

def sortedFiles (files : List File) : List File :=
  files.insertionSort fun left right => left.path ≤ right.path

def sourceWorkspace : GoString := goString "workspace"

section

/-! `sum256` is SHA-256, with its digest in hexadecimal. -/

variable (sum256 : GoString → GoString)

def fileDigest (file : File) : GoString := goString "sha256:" ++ sum256 file.content

def hashParts (skill : Skill) : List GoString :=
  [goString "v1", skill.source, skill.id, skill.name, skill.description, skill.content] ++
    (sortedFiles skill.files).flatMap fun file => [file.path, fileDigest sum256 file, file.content]

def hashStream (skill : Skill) : GoString := (hashParts sum256 skill).flatMap writeHashPart

end

def Skill.contentAt (skill : Skill) (path : GoString) : Option GoString :=
  (skill.files.find? fun file => file.path = path).map File.content

theorem digit_bounds {digit : Char} {number : Nat} (member : digit ∈ Nat.toDigits 10 number) :
    48 ≤ digit.toNat ∧ digit.toNat ≤ 57 :=
  Char.isDigit_iff_toNat.mp (Nat.isDigit_of_mem_toDigits (by decide) (by decide) member)

def decimalValue (digits : GoString) : Nat :=
  Nat.ofDigitChars 10 (digits.map fun digit => Char.ofNat digit.val) 0

theorem decimalValue_decimal (number : Nat) : decimalValue (decimal number) = number := by
  have same : (decimal number).map (fun digit => Char.ofNat digit.val) = Nat.toDigits 10 number := by
    rw [decimal, List.map_map]
    conv_rhs => rw [← List.map_id (Nat.toDigits 10 number)]
    apply List.map_congr_left
    intro digit member
    have small : digit.toNat < 256 := by
      have bounds := digit_bounds member
      omega
    simp [Fin.ofNat, Nat.mod_eq_of_lt small]
  rw [decimalValue, same, Nat.ofDigitChars_ten_toDigits]

theorem colon_notMem_decimal (number : Nat) : colon ∉ decimal number := by
  intro member
  obtain ⟨digit, inDigits, same⟩ := List.mem_map.mp member
  have bounds := digit_bounds inDigits
  have value := congrArg Fin.val same
  have colonValue : colon.val = 58 := rfl
  simp only [Fin.ofNat] at value
  omega

def decimalHeader : FrameLib.Header (Fin 256) :=
  .ofDigits decimal decimalValue colon decimalValue_decimal colon_notMem_decimal

theorem hashStream_frames (sum256 : GoString → GoString) (skill : Skill) :
    hashStream sum256 skill = FrameLib.frames decimalHeader [newline] (hashParts sum256 skill) := rfl

theorem frames_decimal_injective : Function.Injective (FrameLib.frames decimalHeader [newline]) :=
  FrameLib.frames_injective fun length => by simp [decimalHeader, FrameLib.Header.ofDigits]

theorem flatMap_file_injective (sum256 : GoString → GoString) {left right : List File}
    (same : left.flatMap (fun file => [file.path, fileDigest sum256 file, file.content]) =
      right.flatMap fun file => [file.path, fileDigest sum256 file, file.content]) : left = right := by
  induction left generalizing right with
  | nil =>
      cases right with
      | nil => rfl
      | cons first rest => simp at same
  | cons first rest ih =>
      cases right with
      | nil => simp at same
      | cons next later =>
          simp only [List.flatMap_cons, List.cons_append, List.nil_append, List.cons.injEq] at same
          obtain ⟨samePath, -, sameContent, sameRest⟩ := same
          have sameFile : first = next := by
            cases first
            cases next
            cases samePath
            cases sameContent
            rfl
          rw [sameFile, ih sameRest]

/-! Files at distinct paths are the map from path to content. -/

section

variable {left right : Skill}

theorem contentAt_eq_some {skill : Skill} (distinct : (skill.files.map File.path).Nodup)
    {path content : GoString} : skill.contentAt path = some content ↔ ⟨path, content⟩ ∈ skill.files := by
  rw [Skill.contentAt, Option.map_eq_some_iff]
  constructor
  · rintro ⟨file, found, same⟩
    have samePath : file.path = path := by simpa using List.find?_some found
    subst same samePath
    exact List.mem_of_find?_eq_some found
  · intro member
    refine ⟨⟨path, content⟩, ?_, rfl⟩
    have only := ListLib.filter_key_eq distinct member
    rw [← List.head?_filter, only, List.head?_cons]

theorem perm_iff_contentAt (leftDistinct : (left.files.map File.path).Nodup)
    (rightDistinct : (right.files.map File.path).Nodup) :
    left.files.Perm right.files ↔ ∀ path, left.contentAt path = right.contentAt path := by
  rw [List.perm_ext_iff_of_nodup leftDistinct.of_map rightDistinct.of_map]
  constructor
  · intro same path
    ext content
    rw [contentAt_eq_some leftDistinct, contentAt_eq_some rightDistinct, same]
  · rintro same ⟨path, content⟩
    rw [← contentAt_eq_some leftDistinct, ← contentAt_eq_some rightDistinct, same]

theorem sortedFiles_eq_iff {one two : List File} (distinct : (one.map File.path).Nodup) :
    sortedFiles one = sortedFiles two ↔ one.Perm two := by
  constructor
  · intro same
    have first : (sortedFiles one).Perm one := List.perm_insertionSort _ one
    have second : (sortedFiles two).Perm two := List.perm_insertionSort _ two
    rw [same] at first
    exact first.symm.trans second
  · intro shuffled
    have sorted : ∀ files : List File, (sortedFiles files).Pairwise fun a b => a.path ≤ b.path := by
      intro files
      have : Std.Total fun a b : File => a.path ≤ b.path := ⟨fun a b => le_total a.path b.path⟩
      have : IsTrans File fun a b : File => a.path ≤ b.path := ⟨fun a b c => le_trans⟩
      exact List.pairwise_insertionSort _ files
    have both : (sortedFiles one).Perm (sortedFiles two) :=
      (List.perm_insertionSort _ one).trans
        (shuffled.trans (List.perm_insertionSort _ two).symm)
    refine List.Perm.eq_of_pairwise ?_ (sorted one) (sorted two) both
    intro a b inOne inTwo before after
    apply List.inj_on_of_nodup_map distinct
    · exact (List.perm_insertionSort _ one).mem_iff.mp inOne
    · exact shuffled.mem_iff.mpr ((List.perm_insertionSort _ two).mem_iff.mp inTwo)
    · exact le_antisymm before after

end

/-- The bytes that are hashed determine a bundle, and are determined by it. -/
theorem hashStream_eq_iff (sum256 : GoString → GoString) (left right : Skill)
    (leftDistinct : (left.files.map File.path).Nodup)
    (rightDistinct : (right.files.map File.path).Nodup) :
    hashStream sum256 left = hashStream sum256 right ↔
      left.source = right.source ∧ left.id = right.id ∧ left.name = right.name ∧
        left.description = right.description ∧ left.content = right.content ∧
        ∀ path, left.contentAt path = right.contentAt path := by
  rw [← perm_iff_contentAt leftDistinct rightDistinct, ← sortedFiles_eq_iff leftDistinct,
    hashStream_frames, hashStream_frames, frames_decimal_injective.eq_iff]
  simp only [hashParts, List.cons_append, List.nil_append, List.cons.injEq, true_and]
  constructor
  · rintro ⟨source, id, name, description, content, files⟩
    exact ⟨source, id, name, description, content, flatMap_file_injective sum256 files⟩
  · rintro ⟨source, id, name, description, content, files⟩
    exact ⟨source, id, name, description, content, by rw [files]⟩

def oneFile : Skill :=
  ⟨goString "s", sourceWorkspace, goString "ab", goString "c", [], [⟨goString "f", goString "g"⟩]⟩

def otherField : Skill :=
  ⟨goString "s", sourceWorkspace, goString "a", goString "bc", [], [⟨goString "f", goString "g"⟩]⟩

/-- A byte moved from the name to the description. -/
theorem hashStream_eq_iff_otherField :
    ¬ hashStream id oneFile = hashStream id otherField :=
  fun same =>
    absurd ((hashStream_eq_iff id oneFile otherField (by decide) (by decide)).mp same).2.2.1
      (by decide +kernel)

end MulticaOS.SkillBundles
