import WikiStream.Attributes
import WikiStream.Event
import WikiStream.Reference.Json

namespace WikiStream.Event

open WikiStream.Json

def tagged (name : String) (members : List (String × Value)) : Value :=
  .object (("event", .string name) :: members)

def parametersMember (a : Attributes) : String × Value := ("parameters", Attributes.toValue a)

def nullable : Option String → Value
  | some s => .string s
  | none => .null

def openingMembers : Opening → List (String × Value)
  | .document | .definitionTerm | .definitionDescription | .figureCaption => []
  | .header level id parameters =>
    [("level", .number (.whole level.val)), ("id", nullable id), parametersMember parameters]
  | .list kind parameters => [("kind", .string kind.name), parametersMember parameters]
  | .format format parameters => [("format", .string format.name), parametersMember parameters]
  | .link reference freestanding parameters =>
    [("reference", reference.toValue), ("freestanding", .bool freestanding),
      parametersMember parameters]
  | .unknown id parameters => [("id", .string id), parametersMember parameters]
  | .paragraph parameters | .listItem parameters | .definitionList parameters
  | .table parameters | .tableRow parameters | .tableCell parameters | .tableHeadCell parameters
  | .group parameters | .figure parameters => [parametersMember parameters]

def closingMembers : Construct → List (String × Value)
  | .header level => [("level", .number (.whole level.val))]
  | .list kind => [("kind", .string kind.name)]
  | .format format => [("format", .string format.name)]
  | .unknown id => [("id", .string id)]
  | _ => []

def pieceValue : Inline → Value
  | .word text => tagged "word" [("text", .string text)]
  | .space => tagged "space" []
  | .newLine => tagged "new_line" []
  | .symbol c => tagged "special_symbol" [("symbol", .string (String.ofList [c]))]

def singleValue : Single → Value
  | .unknown id parameters => tagged "unknown" [("id", .string id), parametersMember parameters]
  | .image reference freestanding parameters =>
    tagged "image" [("reference", reference.toValue), ("freestanding", .bool freestanding),
      parametersMember parameters]
  | .verbatim content inline parameters =>
    tagged "verbatim" [("content", .string content), ("inline", .bool inline),
      parametersMember parameters]
  | .macroCall id parameters content inline =>
    tagged "macro" [("id", .string id), parametersMember parameters, ("content", nullable content),
      ("inline", .bool inline)]
  | .horizontalLine parameters => tagged "horizontal_line" [parametersMember parameters]
  | .text piece => pieceValue piece

def toValue : Event → Value
  | opening o => tagged ("start_" ++ o.construct.name) (openingMembers o)
  | closing c => tagged ("end_" ++ c.name) (closingMembers c)
  | single s => singleValue s

end WikiStream.Event
