import WikiStream.Options
import WikiStream.Settings.Path
import WikiStream.Toml.Reader

namespace WikiStream

structure Settings where
  referenceType : String := "structured"
  noToc : Bool := false
  templatePrefix : String := ""
  maxDepth : UInt64 := 32
  namespaces : List (String × List String) := []
  format : String := "trace"
  deriving DecidableEq, Repr

namespace Settings

def toValue (s : Settings) : Value :=
  .table [
    ("convert", .table [
      ("reference_type", .text s.referenceType),
      ("no_toc", .bool s.noToc),
      ("template_macro_prefix", .text s.templatePrefix),
      ("max_depth", .integer s.maxDepth.toNat),
      ("namespaces", .table (s.namespaces.map fun p ↦ (p.1, .list (p.2.map .text))))]),
    ("output", .table [("format", .text s.format)])]

def readNamespaces? : Value → Option (List (String × List String))
  | .table es => do
    let table ← es.mapM fun e ↦ return (e.1, ← e.2.texts?)
    return table.mergeSort fun a b ↦ a.1 ≤ b.1
  | _ => none

def ofValue? (v : Value) : Option Settings := do
  let root ← v.fields? ["convert", "output"]
  let convert ← (← root.lookup "convert").fields?
    ["reference_type", "no_toc", "template_macro_prefix", "max_depth", "namespaces"]
  let output ← (← root.lookup "output").fields? ["format"]
  return {
    referenceType := ← (← convert.lookup "reference_type").text?
    noToc := ← (← convert.lookup "no_toc").bool?
    templatePrefix := ← (← convert.lookup "template_macro_prefix").text?
    maxDepth := ← (← convert.lookup "max_depth").count?
    namespaces := ← (convert.lookup "namespaces").elim (some []) readNamespaces?
    format := ← (← output.lookup "format").text? }

/-- Lays the entries of a file over the layers below. A key that is written like a path leads where
the path leads. -/
def layFile (below : Value) (file : List (String × Value)) : Value :=
  file.foldl (fun below e ↦ e.2.putAt ((Path.read? e.1).getD ⟨e.1, []⟩) below) below

def ofLayers? (files : List (List (String × Value))) (values : List (Path × Value)) :
    Option Settings :=
  ofValue? (values.foldl (fun below e ↦ e.2.putAt e.1 below)
    (files.foldl layFile (toValue {})))

structure Source where
  text : Option String
  required : Bool
  deriving DecidableEq, Repr

def dropOrderMark (text : String) : String :=
  match text.toList with
  | '\uFEFF' :: s => String.ofList s
  | _ => text

/-- Only a file that is required has to exist, but every file that exists has to be TOML. -/
def Source.read? (s : Source) : Option (List (String × Value)) :=
  match s.text with
  | some text => Toml.read? (dropOrderMark text)
  | none => if s.required then none else some []

def load? (sources : List Source) (values : List (Path × Value)) : Option Settings := do
  ofLayers? (← sources.mapM Source.read?) values

def options (s : Settings) : Except Error Options := do
  let policy ← Policy.ofName s.referenceType
  let aliases ← Options.readAliases s.namespaces
  return {
    policy := policy
    aliases := aliases
    noToc := s.noToc
    templatePrefix := s.templatePrefix
    maxDepth := s.maxDepth }

end Settings

end WikiStream
