import WikiStream.Proofs.Json.Grammar
import WikiStream.Proofs.Token.Description

namespace WikiStream

open Json

theorem known_optionalText (key : String) (text : Option String) :
    Known [.optional key .string text] (optionalText key text) := by
  cases text with
  | none => exact .absent rfl .nil
  | some s => exact .one rfl

theorem known_presentAttributes (a : Attributes) : Known [a.field] (presentAttributes a) := by
  rw [presentAttributes]
  split
  · rename_i h
    exact .absent (Dict.eq_empty_of_isEmpty h) .nil
  · exact .one rfl

theorem MacroCall.record_toValue (m : MacroCall) : Record m.fields m.toValue := by
  have hinline : Known [.optional "inline" .bool m.inline]
      (m.inline.toList.map fun b ↦ ("inline", .bool b)) := by
    cases m.inline with
    | none => exact .absent rfl .nil
    | some b => exact .one rfl
  refine Known.record ?_
  rw [List.append_assoc]
  exact (known_optionalText _ _).cons (hinline.cons (.exact _ _ _))

theorem LinkTarget.describes_toValue (t : LinkTarget) : t.Describes t.toValue := by
  cases t with
  | internal topic anchor =>
    exact ⟨_, rfl, Known.record ((Known.exact _ _ _).cons (known_optionalText _ _))⟩
  | external url => exact ⟨_, rfl, Known.record (.exact _ _ _)⟩
  | mailto address => exact ⟨_, rfl, Known.record (.exact _ _ _)⟩

theorem Link.record_toValue (l : Link) : Record l.fields l.toValue :=
  Known.record ((Known.one l.target.describes_toValue).cons (.exact _ _ _))

theorem EmbeddedFile.record_toValue (f : EmbeddedFile) : Record f.fields f.toValue := by
  refine Known.record ?_
  simp only [List.append_assoc]
  exact (Known.exact _ _ _).cons <| (Known.exact _ _ _).cons <| (known_optionalText _ _).cons <|
    (known_optionalText _ _).cons <| (known_optionalText _ _).cons <|
    (known_optionalText _ _).cons <| (known_optionalText _ _).cons <| known_optionalText _ _

namespace Token

theorem known_arrayField (key : String) {items : List Value → Prop} {mayOmit : Prop}
    {vs : List Value} (h : items vs) : Known [arrayField key items mayOmit] [(key, .array vs)] :=
  .one ⟨vs, rfl, h⟩

mutual

theorem record_toValue (token : Token) :
    Record (typed token.type.name (fields token)) (toValue token) := by
  match token with
  | .content text => exact Known.record ((Known.exact _ _ _).cons (.exact _ _ _))
  | .tag ⟨name, attributes, children, body, shape, context⟩ =>
    have hchildren : Known [arrayField "children" (Describes children) (children = [])]
        (if children.isEmpty then [] else [("children", .array (listToValues children))]) := by
      split
      · rename_i h
        exact .absent (List.isEmpty_iff.1 h) .nil
      · exact known_arrayField _ (describes_listToValues children)
    refine Known.record ?_
    simp only [List.append_assoc]
    exact (Known.exact _ _ _).cons <| (Known.exact _ _ _).cons <|
      (known_presentAttributes _).cons <| hchildren.cons <| (known_optionalText _ _).cons <|
      (known_shapeMember shape).cons <| known_optionalText _ _

theorem describes_listToValues (tokens : List Token) : Describes tokens (listToValues tokens) := by
  match tokens with
  | [] => rfl
  | token :: rest => exact ⟨_, _, rfl, record_toValue token, describes_listToValues rest⟩

theorem known_shapeMember (shape : Shape) :
    Known [⟨"kind", shapeDescribes shape, shape = .element⟩] (shapeMember shape) := by
  match shape with
  | .element => exact .absent rfl .nil
  | .opaqueBody | .template => exact .one rfl
  | .list nodes =>
    exact .one ⟨_, rfl, Known.record (known_arrayField _ (nodesDescribe_nodesToValues nodes))⟩
  | .table ⟨attributes, rows⟩ =>
    exact .one ⟨_, rfl, Known.record ((known_presentAttributes attributes).cons
      (known_arrayField _ (rowsDescribe_rowsToValues rows)))⟩
  | .tableOfContents shown explicit =>
    exact .one ⟨_, rfl, Known.record ((Known.exact _ _ _).cons (.exact _ _ _))⟩
  | .macroCall call => exact .one ⟨_, rfl, call.record_toValue⟩
  | .link link => exact .one ⟨_, rfl, link.record_toValue⟩
  | .file file => exact .one ⟨_, rfl, file.record_toValue⟩

theorem nodesDescribe_nodesToValues (nodes : List ListNode) :
    nodesDescribe nodes (nodesToValues nodes) := by
  match nodes with
  | [] => rfl
  | .run marker nodes :: rest =>
    refine ⟨_, _, rfl, Known.record ?_, nodesDescribe_nodesToValues rest⟩
    exact (Known.exact _ _ _).cons <| (Known.exact _ _ _).cons <|
      known_arrayField _ (nodesDescribe_nodesToValues nodes)
  | .line sequence tokens :: rest =>
    refine ⟨_, _, rfl, Known.record ?_, nodesDescribe_nodesToValues rest⟩
    exact (Known.exact _ _ _).cons <| (Known.exact _ _ _).cons <|
      known_arrayField _ (describes_listToValues tokens)

theorem rowsDescribe_rowsToValues (rows : List Row) : rowsDescribe rows (rowsToValues rows) := by
  match rows with
  | [] => rfl
  | ⟨attributes, cells⟩ :: rest =>
    refine ⟨_, _, rfl, Known.record ?_, rowsDescribe_rowsToValues rest⟩
    exact (known_presentAttributes attributes).cons
      (known_arrayField _ (cellsDescribe_cellsToValues cells))

theorem cellsDescribe_cellsToValues (cells : List Cell) :
    cellsDescribe cells (cellsToValues cells) := by
  match cells with
  | [] => rfl
  | ⟨kind, attributes, tokens⟩ :: rest =>
    refine ⟨_, _, rfl, Known.record ?_, cellsDescribe_cellsToValues rest⟩
    exact (Known.exact _ _ _).cons <| (known_presentAttributes attributes).cons <|
      known_arrayField _ (describes_listToValues tokens)

end

section NumberFree

theorem numberFreeMembers_optionalText (key : String) (text : Option String) :
    NumberFreeMembers (optionalText key text) := by
  cases text with
  | none => exact trivial
  | some s => exact ⟨trivial, trivial⟩

theorem numberFree_attributes (a : Attributes) : a.toValue.NumberFree := by
  have h (l : List (String × String)) :
      NumberFreeMembers (l.map fun p ↦ (p.1, Value.string p.2)) := by
    induction l with
    | nil => exact trivial
    | cons p l ih => exact ⟨trivial, ih⟩
  exact h a.entries

theorem numberFreeMembers_presentAttributes (a : Attributes) :
    NumberFreeMembers (presentAttributes a) := by
  rw [presentAttributes]
  split
  · exact trivial
  · exact ⟨numberFree_attributes a, trivial⟩

theorem numberFree_macroCall (m : MacroCall) : m.toValue.NumberFree := by
  simp only [MacroCall.toValue, Value.NumberFree, numberFreeMembers_append]
  refine ⟨⟨numberFreeMembers_optionalText _ _, ?_⟩, trivial, trivial⟩
  cases m.inline with
  | none => exact trivial
  | some b => exact ⟨trivial, trivial⟩

theorem numberFree_link (l : Link) : l.toValue.NumberFree := by
  refine ⟨?_, trivial, trivial⟩
  cases l.target with
  | internal topic anchor =>
    exact ⟨⟨trivial, numberFreeMembers_optionalText _ _⟩, trivial⟩
  | external url | mailto url => exact ⟨⟨trivial, trivial⟩, trivial⟩

theorem numberFree_file (f : EmbeddedFile) : f.toValue.NumberFree := by
  simp only [EmbeddedFile.toValue, Value.NumberFree, numberFreeMembers_append,
    numberFreeMembers_optionalText, and_true]
  exact ⟨trivial, trivial, trivial⟩

mutual

theorem numberFree_toValue (token : Token) : (toValue token).NumberFree := by
  match token with
  | .content text => exact ⟨trivial, trivial, trivial⟩
  | .tag ⟨name, attributes, children, body, shape, context⟩ =>
    have hchildren : NumberFreeMembers
        (if children.isEmpty then [] else [("children", .array (listToValues children))]) := by
      split
      · exact trivial
      · exact ⟨numberFreeItems_listToValues children, trivial⟩
    simp only [toValue, Value.NumberFree, numberFreeMembers_append, hchildren,
      numberFreeMembers_optionalText, numberFreeMembers_presentAttributes,
      numberFreeMembers_shapeMember shape, and_true]
    exact ⟨trivial, trivial, trivial⟩

theorem numberFreeItems_listToValues (tokens : List Token) :
    NumberFreeItems (listToValues tokens) := by
  match tokens with
  | [] => exact trivial
  | token :: rest => exact ⟨numberFree_toValue token, numberFreeItems_listToValues rest⟩

theorem numberFreeMembers_shapeMember (shape : Shape) : NumberFreeMembers (shapeMember shape) := by
  match shape with
  | .element => exact trivial
  | .opaqueBody | .template => exact ⟨trivial, trivial⟩
  | .list nodes => exact ⟨⟨⟨numberFreeItems_nodesToValues nodes, trivial⟩, trivial⟩, trivial⟩
  | .table ⟨attributes, rows⟩ =>
    refine ⟨⟨?_, trivial⟩, trivial⟩
    rw [Value.NumberFree, numberFreeMembers_append]
    exact ⟨numberFreeMembers_presentAttributes _, numberFreeItems_rowsToValues rows, trivial⟩
  | .tableOfContents shown explicit => exact ⟨⟨⟨trivial, trivial, trivial⟩, trivial⟩, trivial⟩
  | .macroCall call => exact ⟨⟨numberFree_macroCall call, trivial⟩, trivial⟩
  | .link link => exact ⟨⟨numberFree_link link, trivial⟩, trivial⟩
  | .file file => exact ⟨⟨numberFree_file file, trivial⟩, trivial⟩

theorem numberFreeItems_nodesToValues (nodes : List ListNode) :
    NumberFreeItems (nodesToValues nodes) := by
  match nodes with
  | [] => exact trivial
  | .run marker nodes :: rest =>
    exact ⟨⟨trivial, trivial, numberFreeItems_nodesToValues nodes, trivial⟩,
      numberFreeItems_nodesToValues rest⟩
  | .line sequence tokens :: rest =>
    exact ⟨⟨trivial, trivial, numberFreeItems_listToValues tokens, trivial⟩,
      numberFreeItems_nodesToValues rest⟩

theorem numberFreeItems_rowsToValues (rows : List Row) : NumberFreeItems (rowsToValues rows) := by
  match rows with
  | [] => exact trivial
  | ⟨attributes, cells⟩ :: rest =>
    refine ⟨?_, numberFreeItems_rowsToValues rest⟩
    rw [Value.NumberFree, numberFreeMembers_append]
    exact ⟨numberFreeMembers_presentAttributes _, numberFreeItems_cellsToValues cells, trivial⟩

theorem numberFreeItems_cellsToValues (cells : List Cell) :
    NumberFreeItems (cellsToValues cells) := by
  match cells with
  | [] => exact trivial
  | ⟨kind, attributes, tokens⟩ :: rest =>
    refine ⟨⟨trivial, ?_⟩, numberFreeItems_cellsToValues rest⟩
    rw [numberFreeMembers_append]
    exact ⟨numberFreeMembers_presentAttributes _, numberFreeItems_listToValues tokens, trivial⟩

end

end NumberFree

theorem spells_writeAll (tokens : List Token) :
    Spells (writeAll tokens).toList (.array (listToValues tokens)) := by
  rw [writeAll, Value.write, String.toList_ofList]
  exact spells_writeChars _ (numberFreeItems_listToValues tokens)

end Token

end WikiStream
