import WikiStream.Attributes
import WikiStream.Options
import WikiStream.Token

namespace WikiStream

open Json Json.Value

inductive TokenType
  | content
  | tag
  deriving DecidableEq

def TokenType.ofName? : String → Option TokenType
  | "content" => some .content
  | "tag" => some .tag
  | _ => none

/-- A type inside of a token may also be given by its place. -/
def TokenType.ofValue? : Value → Option TokenType
  | .string name => ofName? name
  | .number (.whole 0) => some .content
  | .number (.whole 1) => some .tag
  | _ => none

inductive NodeType
  | run
  | line
  deriving DecidableEq

def NodeType.ofValue? : Value → Option NodeType
  | .string "run" | .number (.whole 0) => some .run
  | .string "element" | .number (.whole 1) => some .line
  | _ => none

def CellKind.ofValue? (v : Value) : Option CellKind :=
  match v.variant? with
  | some (name, value) =>
    if value.all (·.1.isEmpty) then
      match name with
      | "header" => some .header
      | "body" => some .body
      | "caption" => some .caption
      | _ => none
    else none
  | none => none

def MacroCall.ofValue? (v : Value) : Option MacroCall := do
  let get ← (← v.fields?).lookup? ["id", "inline", "has_content"]
  let id ← defaulted? none (optional? string?) (get "id")
  let inline ← defaulted? none (optional? bool?) (get "inline")
  let hasContent ← defaulted? true bool? (get "has_content")
  return ⟨id, inline, hasContent⟩

def LinkTarget.ofValue? (v : Value) : Option LinkTarget := do
  let (name, value) ← v.variant?
  let fields ← (← value).1.fields?
  match name with
  | "internal" =>
    let get ← fields.lookup? ["topic", "anchor"]
    let topic ← required? string? (get "topic")
    let anchor ← defaulted? none (optional? string?) (get "anchor")
    return .internal topic anchor
  | "external" =>
    let get ← fields.lookup? ["url"]
    return .external (← required? string? (get "url"))
  | "mailto" =>
    let get ← fields.lookup? ["address"]
    return .mailto (← required? string? (get "address"))
  | _ => none

def Link.ofValue? (v : Value) : Option Link := do
  let get ← (← v.fields?).lookup? ["target", "freestanding"]
  let target ← required? LinkTarget.ofValue? (get "target")
  let freestanding ← defaulted? false bool? (get "freestanding")
  return ⟨target, freestanding⟩

def EmbeddedFile.ofValue? (v : Value) : Option EmbeddedFile := do
  let get ← (← v.fields?).lookup?
    ["filename", "namespace", "link", "width", "height", "alt", "caption", "align"]
  let text (field : String) := defaulted? none (optional? string?) (get field)
  return {
    name := ← required? string? (get "filename")
    space := ← defaulted? "File" string? (get "namespace")
    link := ← text "link"
    width := ← text "width"
    height := ← text "height"
    alt := ← text "alt"
    caption := ← text "caption"
    align := ← text "align" }

def Shape.ofName? (name : String) : Option Shape :=
  match name with
  | "element" => some .element
  | "no_body_parsing" => some .opaqueBody
  | "template" => some .template
  | _ => none

def Shape.ofLeaf? (name : String) (v : Value) : Option Shape :=
  match name with
  | "table_of_contents" => do
    let get ← (← v.fields?).lookup? ["show", "explicit"]
    return .tableOfContents (← required? bool? (get "show")) (← required? bool? (get "explicit"))
  | "macro" => (MacroCall.ofValue? v).map .macroCall
  | "link" => (Link.ofValue? v).map .link
  | "image" => (EmbeddedFile.ofValue? v).map .file
  | name => if v.isEmpty then ofName? name else none

namespace Token

mutual

def ofFields? {v : Value} (type : TokenType) (fields : Fields v) : Option Token :=
  match type with
  | .content => do
    let get ← fields.lookup? ["text"]
    return .content (← required? string? (get "text"))
  | .tag => do
    let get ← fields.lookup? ["name", "attributes", "children", "body", "kind", "context"]
    let name ← required? string? (get "name")
    let attributes ← defaulted? ∅ Attributes.ofValue? (get "attributes")
    let children ← match get "children" with
      | none => some []
      | some ⟨w, _⟩ => listOfValue? w
    let body ← defaulted? none (optional? string?) (get "body")
    let shape ← match get "kind" with
      | none => some .element
      | some ⟨w, _⟩ => shapeOfValue? w
    let context ← defaulted? none (optional? string?) (get "context")
    return .tag ⟨name, attributes, children, body, shape, context⟩
termination_by 2 * sizeOf v

def ofValue? (v : Value) : Option Token :=
  match v.fields? with
  | none => none
  | some fields =>
    match fields.split? TokenType.ofValue? with
    | none => none
    | some (type, fields) => ofFields? type fields
termination_by 2 * sizeOf v + 1

def listOfValue? (v : Value) : Option (List Token) :=
  match v.items? with
  | none => none
  | some parts => parts.mapM fun ⟨w, _⟩ ↦ ofValue? w
termination_by 2 * sizeOf v

def shapeOfValue? (v : Value) : Option Shape :=
  match v.variant? with
  | none => none
  | some (name, none) => Shape.ofName? name
  | some (name, some ⟨w, _⟩) =>
    match name with
    | "list" => do
      let get ← (← w.fields?).lookup? ["elements"]
      match get "elements" with
      | none => none
      | some ⟨x, _⟩ => (nodesOfValue? x).map .list
    | "table" => do
      let get ← (← w.fields?).lookup? ["attributes", "rows"]
      let attributes ← defaulted? ∅ Attributes.ofValue? (get "attributes")
      match get "rows" with
      | none => some (.table ⟨attributes, []⟩)
      | some ⟨x, _⟩ => (rowsOfValue? x).map fun rows ↦ .table ⟨attributes, rows⟩
    | name => Shape.ofLeaf? name w
termination_by 2 * sizeOf v

def nodesOfValue? (v : Value) : Option (List ListNode) :=
  match v.items? with
  | none => none
  | some parts => parts.mapM fun ⟨w, _⟩ ↦ nodeOfValue? w
termination_by 2 * sizeOf v

def nodeOfValue? (v : Value) : Option ListNode := do
  match ← (← v.fields?).split? NodeType.ofValue? with
  | (.run, fields) =>
    let get ← fields.lookup? ["marker", "elements"]
    let marker ← required? char? (get "marker")
    match get "elements" with
    | none => some (.run marker [])
    | some ⟨w, _⟩ => (nodesOfValue? w).map (.run marker)
  | (.line, fields) =>
    let get ← fields.lookup? ["sequence", "content"]
    let sequence ← required? string? (get "sequence")
    match get "content" with
    | none => some (.line sequence [])
    | some ⟨w, _⟩ => (listOfValue? w).map (.line sequence)
termination_by 2 * sizeOf v

def rowsOfValue? (v : Value) : Option (List Row) :=
  match v.items? with
  | none => none
  | some parts => parts.mapM fun ⟨w, _⟩ ↦ rowOfValue? w
termination_by 2 * sizeOf v

def rowOfValue? (v : Value) : Option Row := do
  let get ← (← v.fields?).lookup? ["attributes", "cells"]
  let attributes ← defaulted? ∅ Attributes.ofValue? (get "attributes")
  match get "cells" with
  | none => some ⟨attributes, []⟩
  | some ⟨w, _⟩ => (cellsOfValue? w).map fun cells ↦ ⟨attributes, cells⟩
termination_by 2 * sizeOf v

def cellsOfValue? (v : Value) : Option (List Cell) :=
  match v.items? with
  | none => none
  | some parts => parts.mapM fun ⟨w, _⟩ ↦ cellOfValue? w
termination_by 2 * sizeOf v

def cellOfValue? (v : Value) : Option Cell := do
  let get ← (← v.fields?).lookup? ["kind", "attributes", "content"]
  let kind ← defaulted? .body CellKind.ofValue? (get "kind")
  let attributes ← defaulted? ∅ Attributes.ofValue? (get "attributes")
  match get "content" with
  | none => some ⟨kind, attributes, []⟩
  | some ⟨w, _⟩ => (listOfValue? w).map fun content ↦ ⟨kind, attributes, content⟩
termination_by 2 * sizeOf v

end

abbrev Draft := Option TokenType × List (String × Value)

def draftMember (d : Draft) (key : String) : Except Fault (Json.Reader Draft) :=
  if key = "type" then
    if d.1.isSome then .error .mismatch
    else .ok ((Reader.string.accept TokenType.ofName?).map fun type ↦ (some type, d.2))
  else .ok (Reader.any.map fun v ↦ (d.1, (key, v) :: d.2))

def ofDraft? (d : Draft) : Option Token :=
  d.1.bind fun type ↦ (Value.object d.2.reverse).fields?.bind (ofFields? type)

def ordered : Json.Reader Token := fun s ↦
  match nextItem true s with
  | .error f => .error f
  | .ok (.done _) => .error .mismatch
  | .ok (.more ⟨r, hr⟩) =>
    match Reader.string.accept TokenType.ofName? r with
    | .error f => .error f
    | .ok (type, ⟨t, ht⟩) =>
      match items .keep false t with
      | .error f => .error f
      | .ok (vs, ⟨u, hu⟩) =>
        match (Value.array vs).fields?.bind (ofFields? type) with
        | some token => .ok (token, ⟨u, Text.length_lt_trans hu ht hr⟩)
        | none => .error .mismatch

def reader : Json.Reader Token := fun s ↦
  match skipBlanks s with
  | '[' :: _ => Reader.after '[' ordered s
  | _ => Reader.accept (Reader.object (stringBody .keep) draftMember (none, [])) ofDraft? s

def parse (text : String) : Except Error (List Token) :=
  (Reader.run (Reader.array reader) text).mapError .invalidTokens

end Token

end WikiStream
