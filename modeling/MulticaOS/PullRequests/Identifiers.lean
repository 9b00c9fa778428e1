import Mathlib

/-!
The issue identifiers in the texts of a pull request, translated from `github.go`: the two
regular expressions, and the number that an identifier stands for.  Under `(?i)` Go folds the
long s and the Kelvin sign to the letters s and k; `\b` and `\d` are about ASCII only.
-/

namespace MulticaOS.PullRequests

def longS : Char := Char.ofNat 0x17F

def kelvin : Char := Char.ofNat 0x212A

def foldChar (char : Char) : Char :=
  if char = longS then 's' else if char = kelvin then 'k' else char.toLower

def upperChar (char : Char) : Char := if char = longS then 'S' else char.toUpper

def isWord (char : Char) : Bool := char.isAlphanum || char = '_'

def isLetter (char : Char) : Bool := char.isAlpha || char = longS || char = kelvin

/-- `\b` between two characters, one of which may be an end of the text. -/
def boundary (before after : Option Char) : Bool := before.any isWord != after.any isWord

structure Identifier where
  letters : List Char
  number : List Char
  deriving DecidableEq

/-- `([a-z][a-z0-9]{1,9})-(\d+)\b` at the head of the text, with the length of the match. -/
def matchIdentifier (text : List Char) : Option (Identifier × Nat) :=
  let letters := text.takeWhile fun char => isLetter char || char.isDigit
  match text.drop letters.length with
  | '-' :: rest =>
      let number := rest.takeWhile Char.isDigit
      if letters.head?.any isLetter && 2 ≤ letters.length && letters.length ≤ 10 &&
          !number.isEmpty && !(rest.drop number.length).head?.any isWord then
        some (⟨letters.map upperChar, number⟩, letters.length + 1 + number.length)
      else none
  | _ => none

def closingKeywords : List (List Char) :=
  ["closes", "closed", "close", "fixes", "fixed", "fix", "resolves", "resolved", "resolve"].map
    String.toList

def isSeparator (char : Char) : Bool := char ∈ [':', '\t', '\n', Char.ofNat 12, '\r', ' ']

/-- A closing keyword, separators and an identifier at the head of the text. -/
def matchClosing (text : List Char) : Option (Identifier × Nat) :=
  closingKeywords.findSome? fun keyword =>
    if (text.take keyword.length).map foldChar = keyword then
      let rest := text.drop keyword.length
      let separators := rest.takeWhile isSeparator
      if separators.isEmpty then none
      else
        (matchIdentifier (rest.drop separators.length)).map fun found =>
          (found.1, keyword.length + separators.length + found.2)
    else none

/-- `FindAllStringSubmatch` of an expression that begins with `\b`: the matches from left to
right, none inside an earlier one. -/
def findAll (matcher : List Char → Option (Identifier × Nat)) (before : Option Char) (skip : Nat) :
    List Char → List Identifier
  | [] => []
  | char :: rest =>
      match skip with
      | left + 1 => findAll matcher (some char) left rest
      | 0 =>
          if boundary before (some char) then
            match matcher (char :: rest) with
            | some (identifier, length) =>
                identifier :: findAll matcher (some char) (length - 1) rest
            | none => findAll matcher (some char) 0 rest
          else findAll matcher (some char) 0 rest

def extract (matcher : List Char → Option (Identifier × Nat)) (parts : List String) : List Identifier :=
  (parts.flatMap fun part => findAll matcher none 0 part.toList).eraseDups

def extractIdentifiers : List String → List Identifier := extract matchIdentifier

def extractClosingIdentifiers : List String → List Identifier := extract matchClosing

/-- The number that `lookupIssueByIdentifier` asks for: the letters are those of the workspace, and
`strconv.Atoi` and the conversion to `int32` succeed or wrap. -/
def issueNumber (issuePrefix : String) (identifier : Identifier) : Option Int :=
  if identifier.letters.map foldChar = issuePrefix.toList.map foldChar then
    let number := Nat.ofDigitChars 10 identifier.number 0
    if number < 2 ^ 63 then some ((number : Int).bmod (2 ^ 32)) else none
  else none

example : extractClosingIdentifiers ["Disclosed MUL-1", "CLOSES: MUL-1, Fixes:MUL-2, fix login MUL-3"] =
    [⟨"MUL".toList, "1".toList⟩, ⟨"MUL".toList, "2".toList⟩] := by
  decide

end MulticaOS.PullRequests
