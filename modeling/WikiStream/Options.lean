import WikiStream.Json.Lexical
import WikiStream.NumberMap
import WikiStream.Text.Blank
import WikiStream.Text.Numeral

namespace WikiStream

inductive Error
  | unknownReferenceType (name : String)
  | invalidNamespaceKey (key : String)
  | invalidTokens (fault : Json.Fault)
  | formatNotFound (name : String)
  deriving DecidableEq, Repr

def Error.message : Error → String
  | unknownReferenceType name =>
    "unknown reference type '" ++ name ++ "' (expected none, structured or native)"
  | invalidNamespaceKey key => "invalid namespace key '" ++ key ++ "': expected an integer"
  | invalidTokens fault => "invalid token tree: " ++ fault.message
  | formatNotFound name => "event format '" ++ name ++ "' not found"

inductive Policy
  | none
  | structured
  /-- As titles, with underscores for spaces and a capital first letter. -/
  | native
  deriving DecidableEq, Repr

namespace Policy

def name : Policy → String
  | none => "none"
  | structured => "structured"
  | native => "native"

def named? : String → Option Policy
  | "none" => some none
  | "structured" => some structured
  | "native" => some native
  | _ => Option.none

/-- Letters may have any case, and two of the policies have a second name. -/
def ofName (name : String) : Except Error Policy :=
  match name.toLower with
  | "none" => .ok none
  | "structured" | "xwiki" => .ok structured
  | "native" | "mediawiki" => .ok native
  | _ => .error (.unknownReferenceType name)

end Policy

structure Options where
  policy : Policy := .structured
  aliases : NumberMap (List String) := ∅
  noToc : Bool := false
  templatePrefix : String := ""
  /-- How many token lists may lie inside each other. -/
  maxDepth : UInt64 := 32
  deriving DecidableEq, Repr

namespace Options

def addAlias (o : Options) (key : Int32) (name : String) : Options :=
  { o with aliases := o.aliases.alter key fun names ↦ names.getD [] ++ [name] }

def readKey? (key : String) : Option Int32 :=
  (Text.readInteger? (Text.trim key).toList).bind fun n ↦
    if Int32.minValue.toInt ≤ n ∧ n ≤ Int32.maxValue.toInt then some (Int32.ofInt n) else none

def readKeysInOrder : NumberMap (List String) → List (String × List String) →
    Except Error (NumberMap (List String))
  | m, [] => .ok m
  | m, (key, names) :: rest =>
    match readKey? key with
    | some n => readKeysInOrder (m.insert n names) rest
    | none => .error (.invalidNamespaceKey key)

/-- Reads the keys of a table of aliases in the order of their texts; of two texts for one number
the later one counts. -/
def readAliases (table : List (String × List String)) : Except Error (NumberMap (List String)) :=
  readKeysInOrder ∅ (table.mergeSort fun a b ↦ a.1 ≤ b.1)

end Options

end WikiStream
