import WikiStream.Json.Reader
import WikiStream.Json.Writer
import WikiStream.Options

namespace WikiStream

open Json

namespace Options

def toValue (o : Options) : Value :=
  .object [("reference_type", .string o.policy.name),
    ("custom_namespaces", .object (o.aliases.entries.map fun p ↦
      (String.ofList (Text.decimalInt p.1.toInt), .array (p.2.map .string)))),
    ("no_toc", .bool o.noToc),
    ("template_macro_prefix", .string o.templatePrefix),
    ("max_depth", .number (.whole o.maxDepth.toNat))]

def aliasesReader : Reader (NumberMap (List String)) :=
  Reader.object Reader.numberKey
    (fun m key ↦ .ok ((Reader.array Reader.string).map fun names ↦ m.insert key names)) ∅

structure Draft where
  options : Options := {}
  seen : List String := []

namespace Draft

def fieldReader (o : Options) (key : String) : Reader Options :=
  match key with
  | "reference_type" => (Reader.name Policy.named?).map fun p ↦ { o with policy := p }
  | "custom_namespaces" => aliasesReader.map fun m ↦ { o with aliases := m }
  | "no_toc" => Reader.boolean.map fun b ↦ { o with noToc := b }
  | "template_macro_prefix" => Reader.string.map fun s ↦ { o with templatePrefix := s }
  | "max_depth" =>
    (Reader.integer 0 0xFFFFFFFFFFFFFFFF).map fun n ↦ { o with maxDepth := .ofNat n.toNat }
  | _ => Reader.ignored.map fun _ ↦ o

def names : List String :=
  ["reference_type", "custom_namespaces", "no_toc", "template_macro_prefix", "max_depth"]

def member (d : Draft) (key : String) : Except Fault (Reader Draft) :=
  if key ∈ d.seen then .error .mismatch
  else .ok ((fieldReader d.options key).map fun o ↦
    ⟨o, if key ∈ names then key :: d.seen else d.seen⟩)

end Draft

def reader : Reader Options := (Reader.record Draft.names Draft.member {}).map Draft.options

def read (text : String) : Except Fault Options := Reader.run reader text

end Options

end WikiStream
