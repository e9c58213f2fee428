import WikiStream.Attributes
import WikiStream.Token

namespace WikiStream

open Json

def optionalText (key : String) (text : Option String) : List (String × Value) :=
  text.toList.map fun s ↦ (key, .string s)

def presentAttributes (a : Attributes) : List (String × Value) :=
  if a.isEmpty then [] else [("attributes", Attributes.toValue a)]

def CellKind.name : CellKind → String
  | header => "header"
  | body => "body"
  | caption => "caption"

def MacroCall.toValue (m : MacroCall) : Value :=
  .object (optionalText "id" m.id ++ m.inline.toList.map (fun b ↦ ("inline", .bool b)) ++
    [("has_content", .bool m.hasContent)])

def LinkTarget.toValue : LinkTarget → Value
  | internal topic anchor =>
    .object [("internal", .object (("topic", .string topic) :: optionalText "anchor" anchor))]
  | external url => .object [("external", .object [("url", .string url)])]
  | mailto address => .object [("mailto", .object [("address", .string address)])]

def Link.toValue (l : Link) : Value :=
  .object [("target", l.target.toValue), ("freestanding", .bool l.freestanding)]

def EmbeddedFile.toValue (f : EmbeddedFile) : Value :=
  .object ([("filename", .string f.name), ("namespace", .string f.space)] ++
    optionalText "link" f.link ++ optionalText "width" f.width ++ optionalText "height" f.height ++
    optionalText "alt" f.alt ++ optionalText "caption" f.caption ++ optionalText "align" f.align)

namespace Token

mutual

def toValue : Token → Value
  | .content text => .object [("type", .string "content"), ("text", .string text)]
  | .tag ⟨name, attributes, children, body, shape, context⟩ =>
    .object ([("type", .string "tag"), ("name", .string name)] ++ presentAttributes attributes ++
      (if children.isEmpty then [] else [("children", .array (listToValues children))]) ++
      optionalText "body" body ++ shapeMember shape ++ optionalText "context" context)

def listToValues : List Token → List Value
  | [] => []
  | token :: rest => toValue token :: listToValues rest

def shapeMember : Shape → List (String × Value)
  | .element => []
  | .opaqueBody => [("kind", .string "no_body_parsing")]
  | .list nodes =>
    [("kind", .object [("list", .object [("elements", .array (nodesToValues nodes))])])]
  | .table ⟨attributes, rows⟩ =>
    [("kind", .object [("table", .object (presentAttributes attributes ++
      [("rows", .array (rowsToValues rows))]))])]
  | .tableOfContents shown explicit =>
    [("kind", .object [("table_of_contents",
      .object [("show", .bool shown), ("explicit", .bool explicit)])])]
  | .template => [("kind", .string "template")]
  | .macroCall call => [("kind", .object [("macro", call.toValue)])]
  | .link link => [("kind", .object [("link", link.toValue)])]
  | .file file => [("kind", .object [("image", file.toValue)])]

def nodesToValues : List ListNode → List Value
  | [] => []
  | .run marker nodes :: rest =>
    .object [("type", .string "run"), ("marker", .string (String.ofList [marker])),
      ("elements", .array (nodesToValues nodes))] :: nodesToValues rest
  | .line sequence tokens :: rest =>
    .object [("type", .string "element"), ("sequence", .string sequence),
      ("content", .array (listToValues tokens))] :: nodesToValues rest

def rowsToValues : List Row → List Value
  | [] => []
  | ⟨attributes, cells⟩ :: rest =>
    .object (presentAttributes attributes ++ [("cells", .array (cellsToValues cells))]) ::
      rowsToValues rest

def cellsToValues : List Cell → List Value
  | [] => []
  | ⟨kind, attributes, tokens⟩ :: rest =>
    .object (("kind", .string kind.name) :: (presentAttributes attributes ++
      [("content", .array (listToValues tokens))])) :: cellsToValues rest

end

def writeAll (tokens : List Token) : String := (Value.array (listToValues tokens)).write

end Token

end WikiStream
