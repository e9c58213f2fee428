import WikiStream.Dict
import WikiStream.Json.Fields
import WikiStream.Json.Reader
import WikiStream.Json.Writer

namespace WikiStream

abbrev Attributes := Dict String String

namespace Attributes

/-- Takes out the first pair whose key equals `key` when the case of ASCII letters is ignored. -/
def popIgnoringCase (a : Attributes) (key : String) : Option (String × Attributes) :=
  (a.entries.find? fun p ↦ p.1.toLower = key.toLower).map fun p ↦ (p.2, a.erase p.1)

def exchange (a : Attributes) (key value : String) : Option String × Attributes :=
  (a.get? key, a.insert key value)

def take (a : Attributes) (key : String) : Option String × Attributes := (a.get? key, a.erase key)

def takeIgnoringCase (a : Attributes) (key : String) : Option String × Attributes :=
  match a.popIgnoringCase key with
  | some (value, rest) => (some value, rest)
  | none => (none, a)

open Json

def toValue (a : Attributes) : Value := .object (a.entries.map fun p ↦ (p.1, .string p.2))

def ofValue? : Value → Option Attributes
  | .object ms => (ms.mapM fun p : String × Value ↦ p.2.string?.map (p.1, ·)).map Dict.ofList
  | _ => none

def reader : Reader Attributes :=
  Reader.object (stringBody .keep)
    (fun a key ↦ .ok (Reader.string.map fun value ↦ a.insert key value)) ∅

def read (text : String) : Except Fault Attributes := Reader.run reader text

end Attributes

end WikiStream
