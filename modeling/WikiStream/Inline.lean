namespace WikiStream

inductive Inline
  | word (text : String)
  | space
  | newLine
  | symbol (char : Char)
  deriving DecidableEq, Repr

namespace Inline

abbrev Parser := String → Except String (List Inline)

def isPunctuation (c : Char) : Bool :=
  ('!' ≤ c && c ≤ '/') || (':' ≤ c && c ≤ '@') || ('[' ≤ c && c ≤ '\x60') || ('\x7b' ≤ c && c ≤ '~')

def ofChar? (c : Char) : Option Inline :=
  if c = '\n' then some newLine
  else if c = ' ' then some space
  else if isPunctuation c then some (symbol c)
  else none

/-- Closes the word whose letters are collected, last letter first. -/
def flush (letters : List Char) (rest : List Inline) : List Inline :=
  if letters = [] then rest else word (String.ofList letters.reverse) :: rest

def split (letters : List Char) : List Char → List Inline
  | [] => flush letters []
  | c :: rest =>
    if c = '\r' then split letters rest
    else match ofChar? c with
      | some i => flush letters (i :: split [] rest)
      | none => split (c :: letters) rest

def plain (s : String) : List Inline := split [] s.toList

def parsePlain : Parser := fun s ↦ .ok (plain s)

def refusing (refuses : String → Option String) : Parser := fun s ↦
  match refuses s with
  | some reason => .error reason
  | none => parsePlain s

end Inline

def inlineFailure (reason : String) : String := "inline parse failed: " ++ reason

end WikiStream
