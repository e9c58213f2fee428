import WikiStream.NumberMap
import WikiStream.Text.Blank
import WikiStream.Text.Case

namespace WikiStream

structure Namespace where
  number : Int32
  name : String
  aliases : List String := []
  deriving DecidableEq, Repr

namespace Namespace

def names (n : Namespace) : List String := n.name :: n.aliases

def answersTo (n : Namespace) (name : String) : Bool :=
  n.names.any (Text.sameIgnoringCase · name)

abbrev Table := NumberMap Namespace

/-- Splits a title at its first colon, the first character not counted. -/
def split? (title : String) : Option (String × String) :=
  match title.toList with
  | [] => none
  | c :: rest => (Text.splitAt? ':' rest).map fun p ↦ (String.ofList (c :: p.1), String.ofList p.2)

def media : Int32 := -2

def file : Int32 := 6

namespace Table

/-- An alias of a number without a namespace becomes the name of a new one. -/
def addAlias (t : Table) (key : Int32) (name : String) : Table :=
  t.alter key fun
    | none => ⟨key, name, []⟩
    | some n => if n.answersTo name then n else { n with aliases := n.aliases ++ [name] }

def standard : Table :=
  let named : List (Int32 × String) := [(media, "Media"), (-1, "Special"), (0, ""), (2, "User"),
    (4, "Project"), (file, "File"), (8, "MediaWiki"), (10, "Template"), (12, "Help"),
    (14, "Category")]
  addAlias (NumberMap.ofList (named.map fun p ↦ (p.1, ⟨p.1, p.2, []⟩))) file "Image"

def withAliases (aliases : NumberMap (List String)) : Table :=
  aliases.entries.foldl (fun t p ↦ p.2.foldl (fun t name ↦ t.addAlias p.1 name) t) standard

def keyOf? (t : Table) (name : String) : Option Int32 :=
  (t.entries.find? fun p ↦ p.2.answersTo name).map fun p ↦ p.2.number

def resolve? (t : Table) (name : String) : Option String :=
  (t.keyOf? name).bind fun key ↦ (t.get? key).map Namespace.name

def isNamespace (t : Table) (key : Int32) (name : String) : Bool :=
  (t.get? key).any (·.answersTo name)

def isFile (t : Table) (name : String) : Bool := t.isNamespace file name || t.isNamespace media name

/-- The name of the file, if `title` lies in a namespace of files. -/
def fileName? (t : Table) (title : String) : Option String :=
  (split? title).bind fun p ↦ if t.isFile p.1 then some p.2 else none

end Table

end Namespace

end WikiStream
