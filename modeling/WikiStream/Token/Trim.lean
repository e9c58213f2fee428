import WikiStream.Text.Blank
import WikiStream.Token

namespace WikiStream.Token

open Text

def trimFirst : List Token → List Token
  | .content text :: rest => .content (trimLeft isPadding text) :: rest
  | tokens => tokens

def trimLast : List Token → List Token
  | [] => []
  | [.content text] => [.content (trimRight isPadding text)]
  | token :: rest => token :: trimLast rest

def trimEdges (tokens : List Token) : List Token := trimLast (trimFirst tokens)

mutual

def trim : Token → Token
  | .content text => .content text
  | .tag ⟨name, attributes, children, body, shape, context⟩ =>
    .tag ⟨name, attributes, trimEdges (trimAll children), body, trimShape shape, context⟩

def trimAll : List Token → List Token
  | [] => []
  | token :: rest => trim token :: trimAll rest

def trimShape : Shape → Shape
  | .list nodes => .list (trimNodes nodes)
  | .table ⟨attributes, rows⟩ => .table ⟨attributes, trimRows rows⟩
  | shape => shape

def trimNodes : List ListNode → List ListNode
  | [] => []
  | .run marker nodes :: rest => .run marker (trimNodes nodes) :: trimNodes rest
  | .line sequence tokens :: rest =>
    .line sequence (trimEdges (trimAll tokens)) :: trimNodes rest

def trimRows : List Row → List Row
  | [] => []
  | ⟨attributes, cells⟩ :: rest => ⟨attributes, trimCells cells⟩ :: trimRows rest

def trimCells : List Cell → List Cell
  | [] => []
  | ⟨kind, attributes, tokens⟩ :: rest =>
    ⟨kind, attributes, trimEdges (trimAll tokens)⟩ :: trimCells rest

end

end WikiStream.Token
