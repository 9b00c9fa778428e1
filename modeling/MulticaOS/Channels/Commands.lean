import MulticaOS.Lib.GoText

/-!
The `/issue` command of a chat message: its first non-empty line is the command and its
title, the lines after it are the description.
-/

namespace MulticaOS.Channels

open GoLib

def issueCommandPrefix : String := "/issue"

structure IssueCommand where
  title : String
  description : String
  deriving DecidableEq

def isBlank (char : Char) : Bool := char = ' ' || char = '\t'

def lines (body : String) : List String := (body.toList.splitOn '\n').map String.ofList

def joinLines (parts : List String) : String :=
  String.ofList ((['\n'] : List Char).intercalate (parts.map String.toList))

def trimLeft (line : String) : String := String.ofList (line.toList.dropWhile isBlank)

def trimRight (text : String) : String :=
  String.ofList (text.toList.rdropWhile fun char => isBlank char || char = '\n')

def fromFirstLine (body : String) : List String :=
  (lines body).dropWhile fun line => trimSpace line = ""

def parseIssueCommand (body : String) : Option IssueCommand :=
  match fromFirstLine body with
  | [] => none
  | line :: later =>
      match cutPrefix issueCommandPrefix (trimLeft line) with
      | none => none
      | some rest =>
          if rest.toList.head?.any fun char => !isBlank char then none
          else
            some
              { title := trimSpace rest
                description := if later.isEmpty then "" else trimRight (joinLines later) }

def titleFromPreviousMessage (body : String) : String :=
  match parseIssueCommand body with
  | some command => command.title
  | none =>
      match fromFirstLine body with
      | [] => ""
      | line :: _ => trimSpace line

end MulticaOS.Channels
