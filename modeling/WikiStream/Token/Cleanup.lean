import WikiStream.Text.Blank
import WikiStream.Token

namespace WikiStream.Token

open Text

inductive Edge
  | first
  | last

def Edge.cut : Edge → String → String
  | first => trimLeft isPadding
  | last => trimRight isPadding

mutual

def cut (edge : Edge) : Token → Token
  | .content text => .content (edge.cut text)
  | .tag ⟨name, attributes, children, body, shape, context⟩ =>
    .tag ⟨name, attributes, cutEdge edge children, body, shape, context⟩

def cutEdge (edge : Edge) : List Token → List Token
  | [] => []
  | [token] => [cut edge token]
  | token :: next :: rest =>
    match edge with
    | .first => cut edge token :: next :: rest
    | .last => token :: cutEdge edge (next :: rest)

end

def cutEdges (tokens : List Token) : List Token := cutEdge .last (cutEdge .first tokens)

mutual

/-- Bounds how far a walk through a token goes down. Texts do not count, so no cut changes it. -/
def size : Token → Nat
  | .content _ => 0
  | .tag ⟨_, _, children, _, shape, _⟩ => sizeAll children + sizeOfShape shape + 1

def sizeAll : List Token → Nat
  | [] => 0
  | token :: rest => size token + sizeAll rest + 1

def sizeOfShape : Shape → Nat
  | .list nodes => sizeOfNodes nodes + 1
  | .table ⟨_, rows⟩ => sizeOfRows rows + 1
  | _ => 0

def sizeOfNodes : List ListNode → Nat
  | [] => 0
  | .run _ nodes :: rest => sizeOfNodes nodes + sizeOfNodes rest + 1
  | .line _ tokens :: rest => sizeAll tokens + sizeOfNodes rest + 1

def sizeOfRows : List Row → Nat
  | [] => 0
  | ⟨_, cells⟩ :: rest => sizeOfCells cells + sizeOfRows rest + 1

def sizeOfCells : List Cell → Nat
  | [] => 0
  | ⟨_, _, tokens⟩ :: rest => sizeAll tokens + sizeOfCells rest + 1

end

mutual

theorem size_cut (edge : Edge) (token : Token) : size (cut edge token) = size token := by
  match token with
  | .content text => rfl
  | .tag ⟨name, attributes, children, body, shape, context⟩ =>
    have h := sizeAll_cutEdge edge children
    simp only [cut, size, h]

theorem sizeAll_cutEdge (edge : Edge) (tokens : List Token) :
    sizeAll (cutEdge edge tokens) = sizeAll tokens := by
  match tokens with
  | [] => rfl
  | [token] =>
    have h := size_cut edge token
    simp only [cutEdge, sizeAll, h]
  | token :: next :: rest =>
    cases edge with
    | first =>
      have h := size_cut .first token
      simp only [cutEdge, sizeAll, h]
    | last =>
      have h := sizeAll_cutEdge .last (next :: rest)
      simp only [cutEdge, sizeAll] at h ⊢
      rw [h]

end

theorem sizeAll_cutEdges (tokens : List Token) : sizeAll (cutEdges tokens) = sizeAll tokens :=
  (sizeAll_cutEdge _ _).trans (sizeAll_cutEdge _ _)

mutual

def clean : Token → Token
  | .content text => .content text
  | .tag ⟨name, attributes, children, body, shape, context⟩ =>
    .tag ⟨name, attributes, cleanAll (cutEdges children), body, cleanShape shape, context⟩
termination_by token => size token
decreasing_by all_goals simp only [size, sizeAll_cutEdges]; omega

def cleanAll : List Token → List Token
  | [] => []
  | token :: rest => clean token :: cleanAll rest
termination_by tokens => sizeAll tokens
decreasing_by all_goals simp only [sizeAll]; omega

def cleanShape : Shape → Shape
  | .list nodes => .list (cleanNodes nodes)
  | .table ⟨attributes, rows⟩ => .table ⟨attributes, cleanRows rows⟩
  | shape => shape
termination_by shape => sizeOfShape shape
decreasing_by all_goals simp only [sizeOfShape]; omega

def cleanNodes : List ListNode → List ListNode
  | [] => []
  | .run marker nodes :: rest => .run marker (cleanNodes nodes) :: cleanNodes rest
  | .line sequence tokens :: rest =>
    .line sequence (cleanAll (cutEdges tokens)) :: cleanNodes rest
termination_by nodes => sizeOfNodes nodes
decreasing_by all_goals simp only [sizeOfNodes, sizeAll_cutEdges]; omega

def cleanRows : List Row → List Row
  | [] => []
  | ⟨attributes, cells⟩ :: rest => ⟨attributes, cleanCells cells⟩ :: cleanRows rest
termination_by rows => sizeOfRows rows
decreasing_by all_goals simp only [sizeOfRows]; omega

def cleanCells : List Cell → List Cell
  | [] => []
  | ⟨kind, attributes, tokens⟩ :: rest =>
    ⟨kind, attributes, cleanAll (cutEdges tokens)⟩ :: cleanCells rest
termination_by cells => sizeOfCells cells
decreasing_by all_goals simp only [sizeOfCells, sizeAll_cutEdges]; omega

end

end WikiStream.Token
