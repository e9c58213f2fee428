import WikiStream.Proofs.Json.Record
import WikiStream.Token.Reader
import WikiStream.Token.Writer

namespace WikiStream

open Json

def TokenType.name : TokenType → String
  | content => "content"
  | tag => "tag"

section Specs

def Attributes.field (a : Attributes) : Field := .exact "attributes" a.toValue (a = ∅)

def MacroCall.fields (m : MacroCall) : List Field :=
  [.optional "id" .string m.id, .optional "inline" .bool m.inline,
    .exact "has_content" (.bool m.hasContent) (m.hasContent = true)]

def LinkTarget.Describes : LinkTarget → Value → Prop
  | internal topic anchor => Variant "internal" (Record
    [.exact "topic" (.string topic) False, .optional "anchor" .string anchor])
  | external url => Variant "external" (Record [.exact "url" (.string url) False])
  | mailto address => Variant "mailto" (Record [.exact "address" (.string address) False])

def Link.fields (l : Link) : List Field :=
  [⟨"target", l.target.Describes, False⟩,
    .exact "freestanding" (.bool l.freestanding) (l.freestanding = false)]

def EmbeddedFile.fields (f : EmbeddedFile) : List Field :=
  [.exact "filename" (.string f.name) False, .exact "namespace" (.string f.space) (f.space = "File"),
    .optional "link" .string f.link, .optional "width" .string f.width,
    .optional "height" .string f.height, .optional "alt" .string f.alt,
    .optional "caption" .string f.caption, .optional "align" .string f.align]

end Specs

namespace Token

def type : Token → TokenType
  | .content _ => .content
  | .tag _ => .tag

def arrayField (key : String) (items : List Value → Prop) (mayOmit : Prop) : Field :=
  ⟨key, fun v ↦ ∃ vs, v = .array vs ∧ items vs, mayOmit⟩

mutual

def fields : Token → List Field
  | .content text => [.exact "text" (.string text) False]
  | .tag ⟨name, attributes, children, body, shape, context⟩ =>
    [.exact "name" (.string name) False, attributes.field,
      arrayField "children" (Describes children) (children = []), .optional "body" .string body,
      ⟨"kind", shapeDescribes shape, shape = .element⟩, .optional "context" .string context]

/-- The values stand for the tokens, one by one. -/
def Describes : List Token → List Value → Prop
  | [], vs => vs = []
  | token :: rest, vs => ∃ v us, vs = v :: us ∧ Record (typed token.type.name (fields token)) v ∧
    Describes rest us

def shapeDescribes : Shape → Value → Prop
  | .element, v => v = .string "element"
  | .opaqueBody, v => v = .string "no_body_parsing"
  | .list nodes, v =>
    Variant "list" (Record [arrayField "elements" (nodesDescribe nodes) False]) v
  | .table ⟨attributes, rows⟩, v =>
    Variant "table" (Record [attributes.field, arrayField "rows" (rowsDescribe rows) (rows = [])]) v
  | .tableOfContents shown explicit, v => Variant "table_of_contents"
    (Record [.exact "show" (.bool shown) False, .exact "explicit" (.bool explicit) False]) v
  | .template, v => v = .string "template"
  | .macroCall call, v => Variant "macro" (Record call.fields) v
  | .link link, v => Variant "link" (Record link.fields) v
  | .file file, v => Variant "image" (Record file.fields) v

def nodesDescribe : List ListNode → List Value → Prop
  | [], vs => vs = []
  | .run marker nodes :: rest, vs => ∃ v us, vs = v :: us ∧ Record (typed "run"
      [.exact "marker" (.string (String.ofList [marker])) False,
        arrayField "elements" (nodesDescribe nodes) (nodes = [])]) v ∧ nodesDescribe rest us
  | .line sequence tokens :: rest, vs => ∃ v us, vs = v :: us ∧ Record (typed "element"
      [.exact "sequence" (.string sequence) False,
        arrayField "content" (Describes tokens) (tokens = [])]) v ∧ nodesDescribe rest us

def rowsDescribe : List Row → List Value → Prop
  | [], vs => vs = []
  | ⟨attributes, cells⟩ :: rest, vs => ∃ v us, vs = v :: us ∧ Record
      [attributes.field, arrayField "cells" (cellsDescribe cells) (cells = [])] v ∧
    rowsDescribe rest us

def cellsDescribe : List Cell → List Value → Prop
  | [], vs => vs = []
  | ⟨kind, attributes, tokens⟩ :: rest, vs => ∃ v us, vs = v :: us ∧ Record
      [.exact "kind" (.string kind.name) (kind = .body), attributes.field,
        arrayField "content" (Describes tokens) (tokens = [])] v ∧
    cellsDescribe rest us

end

end Token

end WikiStream
