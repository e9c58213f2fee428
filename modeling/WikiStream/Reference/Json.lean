import WikiStream.Json.Reader
import WikiStream.Json.Writer
import WikiStream.Reference

namespace WikiStream.Reference

open WikiStream.Json

def Kind.name : Kind → String
  | url => "url"
  | path => "path"
  | document => "document"
  | attachment => "attachment"
  | mailto => "mailto"

def Kind.ofName? : String → Option Kind
  | "url" => some .url
  | "path" => some .path
  | "document" => some .document
  | "attachment" => some .attachment
  | "mailto" => some .mailto
  | _ => none

def toValue (r : Reference) : Value :=
  .object ([("kind", .string r.kind.name), ("reference", .string r.text)] ++
    r.anchor.toList.map (fun a ↦ ("anchor", .string a)) ++ [("typed", .bool r.typed)])

structure Draft where
  kind : Option Kind := none
  text : Option String := none
  anchor : Option (Option String) := none
  typed : Option Bool := none

namespace Draft

def member (d : Draft) (key : String) : Except Fault (Reader Draft) :=
  match key with
  | "kind" =>
    if d.kind.isSome then .error .mismatch
    else .ok ((Reader.name Kind.ofName?).map fun k ↦ { d with kind := some k })
  | "reference" =>
    if d.text.isSome then .error .mismatch
    else .ok (Reader.string.map fun s ↦ { d with text := some s })
  | "anchor" =>
    if d.anchor.isSome then .error .mismatch
    else .ok (Reader.optionalString.map fun a ↦ { d with anchor := some a })
  | "typed" =>
    if d.typed.isSome then .error .mismatch
    else .ok (Reader.boolean.map fun b ↦ { d with typed := some b })
  | _ => .ok (Reader.ignored.map fun _ ↦ d)

def finish? (d : Draft) : Option Reference := do
  return ⟨← d.kind, ← d.text, d.anchor.getD none, d.typed.getD false⟩

end Draft

def reader : Reader Reference :=
  (Reader.record ["kind", "reference", "anchor", "typed"] Draft.member {}).accept Draft.finish?

def read (text : String) : Except Fault Reference := Reader.run reader text

end WikiStream.Reference
