import Mathlib.Data.List.DropRight
import WikiStream.Token.Cleanup
import WikiStream.Token.Trim

namespace WikiStream

namespace Text

variable (p : Char → Bool)

theorem dropWhile_dropTail (l : List Char) :
    (dropTail p l).dropWhile p = dropTail p (l.dropWhile p) := by
  induction l using List.reverseRecOn with
  | nil => rfl
  | append_singleton l c ih =>
    have hdrop : (l ++ [c]).dropWhile p =
        if (l.dropWhile p).isEmpty then [c].dropWhile p else l.dropWhile p ++ [c] :=
      List.dropWhile_append
    by_cases hc : p c
    · have htail (s : List Char) : dropTail p (s ++ [c]) = dropTail p s :=
        List.rdropWhile_concat_pos p s c hc
      rw [htail, ih, hdrop]
      split
      · rename_i h
        rw [List.isEmpty_iff.1 h, List.dropWhile_cons_of_pos hc]
        rfl
      · rw [htail]
    · have htail (s : List Char) : dropTail p (s ++ [c]) = s ++ [c] :=
        List.rdropWhile_concat_neg p s c hc
      rw [htail, hdrop]
      split
      · rw [List.dropWhile_cons_of_neg hc]
        exact (htail []).symm
      · rw [htail]

variable (s : String)

theorem trimLeft_trimLeft : trimLeft p (trimLeft p s) = trimLeft p s := by
  simp only [trimLeft, String.toList_ofList, List.dropWhile_idempotent]

theorem trimRight_trimRight : trimRight p (trimRight p s) = trimRight p s := by
  simp only [trimRight, dropTail, String.toList_ofList, List.reverse_reverse,
    List.dropWhile_idempotent]

theorem trimLeft_trimRight : trimLeft p (trimRight p s) = trimRight p (trimLeft p s) := by
  simp only [trimLeft, trimRight, String.toList_ofList, dropWhile_dropTail]

end Text

namespace Token

open Text

theorem Edge.cut_cut (edge : Edge) (text : String) : edge.cut (edge.cut text) = edge.cut text := by
  cases edge with
  | first => simp only [cut, trimLeft_trimLeft]
  | last => simp only [cut, trimRight_trimRight]

theorem Edge.cut_comm (text : String) : first.cut (last.cut text) = last.cut (first.cut text) := by
  simp only [cut, trimLeft_trimRight]

/-- What the rule makes of a token at an edge. -/
def trimAt (edge : Edge) : Token → Token
  | .content text => .content (edge.cut text)
  | .tag t => .tag t

theorem trimAt_trimAt (edge : Edge) (token : Token) :
    trimAt edge (trimAt edge token) = trimAt edge token := by
  cases token with
  | content text => simp only [trimAt, Edge.cut_cut]
  | tag t => rfl

theorem trimAt_comm (token : Token) :
    trimAt .first (trimAt .last token) = trimAt .last (trimAt .first token) := by
  cases token with
  | content text => simp only [trimAt, Edge.cut_comm]
  | tag t => rfl

theorem trimFirst_cons (token : Token) (rest : List Token) :
    trimFirst (token :: rest) = trimAt .first token :: rest := by
  cases token <;> rfl

theorem trimLast_singleton (token : Token) : trimLast [token] = [trimAt .last token] := by
  cases token <;> rfl

theorem trimLast_cons_cons (token next : Token) (rest : List Token) :
    trimLast (token :: next :: rest) = token :: trimLast (next :: rest) := by
  cases token <;> rfl

@[simp] theorem length_trimFirst (tokens : List Token) :
    (trimFirst tokens).length = tokens.length := by
  cases tokens with
  | nil => rfl
  | cons token rest => simp only [trimFirst_cons, List.length_cons]

@[simp] theorem length_trimLast (tokens : List Token) :
    (trimLast tokens).length = tokens.length := by
  fun_induction trimLast tokens with
  | case1 => rfl
  | case2 text => rfl
  | case3 token rest _ ih => simp only [List.length_cons, ih]

theorem getElem?_trimFirst (tokens : List Token) (i : Nat) :
    (trimFirst tokens)[i]? =
      tokens[i]?.map fun token ↦ if i = 0 then trimAt .first token else token := by
  cases tokens with
  | nil => rfl
  | cons token rest =>
    rw [trimFirst_cons]
    cases i with
    | zero => rfl
    | succ i => simp

theorem getElem?_trimLast (tokens : List Token) (i : Nat) :
    (trimLast tokens)[i]? =
      tokens[i]?.map fun token ↦ if i + 1 = tokens.length then trimAt .last token else token := by
  match tokens, i with
  | [], _ => rfl
  | [token], 0 => simp [trimLast_singleton]
  | [token], i + 1 => simp [trimLast_singleton]
  | token :: next :: rest, 0 => simp [trimLast_cons_cons]
  | token :: next :: rest, i + 1 =>
    have ih := getElem?_trimLast (next :: rest) i
    simp only [trimLast_cons_cons, List.getElem?_cons_succ, ih, List.length_cons,
      Nat.add_right_cancel_iff]

theorem getElem?_trimEdges (tokens : List Token) (i : Nat) :
    (trimEdges tokens)[i]? = tokens[i]?.map fun token ↦
      let token := if i = 0 then trimAt .first token else token
      if i + 1 = tokens.length then trimAt .last token else token := by
  rw [trimEdges, getElem?_trimLast, getElem?_trimFirst, Option.map_map, length_trimFirst]
  rfl

theorem map_trimEdges {α : Type} {g : Token → α}
    (hg : ∀ (edge : Edge) (token : Token), g (trimAt edge token) = g token) (tokens : List Token) :
    (trimEdges tokens).map g = tokens.map g := by
  apply List.ext_getElem?
  intro i
  simp only [List.getElem?_map, getElem?_trimEdges, Option.map_map]
  congr 1
  funext token
  simp only [Function.comp_apply]
  split_ifs <;> simp only [hg]

theorem trimFirst_trimFirst (tokens : List Token) :
    trimFirst (trimFirst tokens) = trimFirst tokens := by
  cases tokens with
  | nil => rfl
  | cons token rest => simp only [trimFirst_cons, trimAt_trimAt]

theorem trimLast_trimLast (tokens : List Token) : trimLast (trimLast tokens) = trimLast tokens := by
  apply List.ext_getElem?
  intro i
  rw [getElem?_trimLast, getElem?_trimLast, Option.map_map, length_trimLast]
  by_cases hi : i + 1 = tokens.length
  · simp only [Function.comp_def, if_pos hi, trimAt_trimAt]
  · simp only [Function.comp_def, if_neg hi]

theorem trimFirst_trimLast (tokens : List Token) :
    trimFirst (trimLast tokens) = trimLast (trimFirst tokens) := by
  apply List.ext_getElem?
  intro i
  rw [getElem?_trimFirst, getElem?_trimLast, getElem?_trimLast, getElem?_trimFirst, Option.map_map,
    Option.map_map, length_trimFirst]
  by_cases hfirst : i = 0
  · by_cases hlast : i + 1 = tokens.length
    · simp only [Function.comp_def, if_pos hfirst, if_pos hlast, trimAt_comm]
    · simp only [Function.comp_def, if_neg hlast]
  · simp only [Function.comp_def, if_neg hfirst]

theorem trimEdges_trimFirst (tokens : List Token) :
    trimEdges (trimFirst tokens) = trimEdges tokens := by
  rw [trimEdges, trimFirst_trimFirst, trimEdges]

theorem trimEdges_trimLast (tokens : List Token) :
    trimEdges (trimLast tokens) = trimEdges tokens := by
  rw [trimEdges, trimFirst_trimLast, trimLast_trimLast, trimEdges]

mutual

/-- A cut, wherever it leads to below an edge, only shows at the edge once all is trimmed. -/
theorem trim_cut (edge : Edge) (token : Token) :
    trim (cut edge token) = trimAt edge (trim token) := by
  match token with
  | .content text => simp only [cut, trim, trimAt]
  | .tag ⟨name, attributes, children, body, shape, context⟩ =>
    have h : trimEdges (trimAll (cutEdge edge children)) = trimEdges (trimAll children) := by
      cases edge with
      | first => rw [trimAll_cutFirst children, trimEdges_trimFirst]
      | last => rw [trimAll_cutLast children, trimEdges_trimLast]
    simp only [cut, trim, trimAt, h]

theorem trimAll_cutFirst (tokens : List Token) :
    trimAll (cutEdge .first tokens) = trimFirst (trimAll tokens) := by
  match tokens with
  | [] => rfl
  | [token] =>
    have h := trim_cut .first token
    simp only [cutEdge, trimAll, trimFirst_cons, h]
  | token :: next :: rest =>
    have h := trim_cut .first token
    simp only [cutEdge, trimAll, trimFirst_cons, h]

theorem trimAll_cutLast (tokens : List Token) :
    trimAll (cutEdge .last tokens) = trimLast (trimAll tokens) := by
  match tokens with
  | [] => rfl
  | [token] =>
    have h := trim_cut .last token
    simp only [cutEdge, trimAll, trimLast_singleton, h]
  | token :: next :: rest =>
    have h := trimAll_cutLast (next :: rest)
    simp only [cutEdge, trimAll, trimLast_cons_cons, h]

end

theorem trimAll_cutEdges (tokens : List Token) :
    trimAll (cutEdges tokens) = trimEdges (trimAll tokens) := by
  rw [cutEdges, trimAll_cutLast, trimAll_cutFirst, trimEdges]

mutual

theorem clean_eq_trim (token : Token) : clean token = trim token := by
  match token with
  | .content text => rw [clean, trim]
  | .tag ⟨name, attributes, children, body, shape, context⟩ =>
    have hc := cleanAll_eq_trimAll (cutEdges children)
    have hs := cleanShape_eq_trimShape shape
    rw [clean, trim, hc, hs, trimAll_cutEdges]
termination_by size token
decreasing_by all_goals simp only [size, sizeAll_cutEdges]; omega

theorem cleanAll_eq_trimAll (tokens : List Token) : cleanAll tokens = trimAll tokens := by
  match tokens with
  | [] => rw [cleanAll, trimAll]
  | token :: rest => rw [cleanAll, trimAll, clean_eq_trim token, cleanAll_eq_trimAll rest]
termination_by sizeAll tokens
decreasing_by all_goals simp only [sizeAll]; omega

theorem cleanShape_eq_trimShape (shape : Shape) : cleanShape shape = trimShape shape := by
  match shape with
  | .list nodes => rw [cleanShape, trimShape, cleanNodes_eq_trimNodes nodes]
  | .table ⟨_, rows⟩ => rw [cleanShape, trimShape, cleanRows_eq_trimRows rows]
  | .element | .opaqueBody | .tableOfContents _ _ | .template | .macroCall _ | .link _ | .file _ =>
    simp only [cleanShape, trimShape]
termination_by sizeOfShape shape
decreasing_by all_goals simp only [sizeOfShape]; omega

theorem cleanNodes_eq_trimNodes (nodes : List ListNode) : cleanNodes nodes = trimNodes nodes := by
  match nodes with
  | [] => rw [cleanNodes, trimNodes]
  | .run _ nodes :: rest =>
    rw [cleanNodes, trimNodes, cleanNodes_eq_trimNodes nodes, cleanNodes_eq_trimNodes rest]
  | .line _ tokens :: rest =>
    rw [cleanNodes, trimNodes, cleanAll_eq_trimAll (cutEdges tokens), trimAll_cutEdges,
      cleanNodes_eq_trimNodes rest]
termination_by sizeOfNodes nodes
decreasing_by all_goals simp only [sizeOfNodes, sizeAll_cutEdges]; omega

theorem cleanRows_eq_trimRows (rows : List Row) : cleanRows rows = trimRows rows := by
  match rows with
  | [] => rw [cleanRows, trimRows]
  | ⟨_, cells⟩ :: rest =>
    rw [cleanRows, trimRows, cleanCells_eq_trimCells cells, cleanRows_eq_trimRows rest]
termination_by sizeOfRows rows
decreasing_by all_goals simp only [sizeOfRows]; omega

theorem cleanCells_eq_trimCells (cells : List Cell) : cleanCells cells = trimCells cells := by
  match cells with
  | [] => rw [cleanCells, trimCells]
  | ⟨_, _, tokens⟩ :: rest =>
    rw [cleanCells, trimCells, cleanAll_eq_trimAll (cutEdges tokens), trimAll_cutEdges,
      cleanCells_eq_trimCells rest]
termination_by sizeOfCells cells
decreasing_by all_goals simp only [sizeOfCells, sizeAll_cutEdges]; omega

end

end Token
end WikiStream
