import WikiStream.Proofs.Levels
import WikiStream.Proofs.Trimming

namespace WikiStream

namespace Token

mutual

def tagsOf : Token → List Tag
  | .content _ => []
  | .tag ⟨name, attributes, children, body, shape, context⟩ =>
    ⟨name, attributes, children, body, shape, context⟩ :: (tags children ++ tagsOfShape shape)

def tags : List Token → List Tag
  | [] => []
  | token :: rest => tagsOf token ++ tags rest

def tagsOfShape : Shape → List Tag
  | .list nodes => tagsOfNodes nodes
  | .table ⟨_, rows⟩ => tagsOfRows rows
  | _ => []

def tagsOfNodes : List ListNode → List Tag
  | [] => []
  | .run _ nodes :: rest => tagsOfNodes nodes ++ tagsOfNodes rest
  | .line _ tokens :: rest => tags tokens ++ tagsOfNodes rest

def tagsOfRows : List Row → List Tag
  | [] => []
  | ⟨_, cells⟩ :: rest => tagsOfCells cells ++ tagsOfRows rest

def tagsOfCells : List Cell → List Tag
  | [] => []
  | ⟨_, _, tokens⟩ :: rest => tags tokens ++ tagsOfCells rest

end

end Token

/-- A tag after its edges and those of all tags inside it have been trimmed. -/
def Tag.trimmed (t : Tag) : Tag :=
  { t with
    children := Token.trimEdges (Token.trimAll t.children)
    shape := Token.trimShape t.shape }

namespace Token

theorem trim_tag (t : Tag) : trim (.tag t) = .tag t.trimmed := by
  obtain ⟨name, attributes, children, body, shape, context⟩ := t
  simp only [trim, Tag.trimmed]

theorem trimAll_eq_map (tokens : List Token) : trimAll tokens = tokens.map trim := by
  induction tokens with
  | nil => rfl
  | cons token rest ih => simp only [trimAll, List.map_cons, ih]

theorem tags_eq_flatten (tokens : List Token) : tags tokens = (tokens.map tagsOf).flatten := by
  induction tokens with
  | nil => rfl
  | cons token rest ih => simp only [tags, List.map_cons, List.flatten_cons, ih]

theorem self_mem_tagsOf (t : Tag) : t ∈ tagsOf (.tag t) := by
  obtain ⟨name, attributes, children, body, shape, context⟩ := t
  exact List.mem_cons_self

theorem mem_tags_of_mem {t : Tag} {token : Token} {tokens : List Token} (ht : t ∈ tagsOf token)
    (htoken : token ∈ tokens) : t ∈ tags tokens := by
  rw [tags_eq_flatten]
  exact List.mem_flatten.2 ⟨_, List.mem_map_of_mem htoken, ht⟩

theorem tagsOf_trimAt (edge : Edge) (token : Token) :
    tagsOf (trimAt edge token) = tagsOf token := by
  cases token with
  | content text => simp only [trimAt, tagsOf]
  | tag t => rfl

theorem tags_trimEdges (tokens : List Token) : tags (trimEdges tokens) = tags tokens := by
  rw [tags_eq_flatten, tags_eq_flatten, map_trimEdges tagsOf_trimAt]

mutual

theorem tagsOf_trim (t : Token) : tagsOf (trim t) = (tagsOf t).map Tag.trimmed := by
  match t with
  | .content _ => rfl
  | .tag ⟨name, attributes, children, body, shape, context⟩ =>
    have hc := tags_trimAll children
    have hs := tagsOfShape_trimShape shape
    simp only [trim, tagsOf, tags_trimEdges, hc, hs, List.map_cons, List.map_append]
    rfl

theorem tags_trimAll (tokens : List Token) :
    tags (trimAll tokens) = (tags tokens).map Tag.trimmed := by
  match tokens with
  | [] => rfl
  | token :: rest =>
    have ht := tagsOf_trim token
    have hr := tags_trimAll rest
    simp only [trimAll, tags, ht, hr, List.map_append]

theorem tagsOfShape_trimShape (shape : Shape) :
    tagsOfShape (trimShape shape) = (tagsOfShape shape).map Tag.trimmed := by
  match shape with
  | .list nodes => simpa only [trimShape, tagsOfShape] using tagsOfNodes_trimNodes nodes
  | .table ⟨_, rows⟩ => simpa only [trimShape, tagsOfShape] using tagsOfRows_trimRows rows
  | .element | .opaqueBody | .tableOfContents _ _ | .template | .macroCall _ | .link _ | .file _ =>
    rfl

theorem tagsOfNodes_trimNodes (nodes : List ListNode) :
    tagsOfNodes (trimNodes nodes) = (tagsOfNodes nodes).map Tag.trimmed := by
  match nodes with
  | [] => rfl
  | .run _ nodes :: rest =>
    have hn := tagsOfNodes_trimNodes nodes
    have hr := tagsOfNodes_trimNodes rest
    simp only [trimNodes, tagsOfNodes, hn, hr, List.map_append]
  | .line _ tokens :: rest =>
    have ht := tags_trimAll tokens
    have hr := tagsOfNodes_trimNodes rest
    simp only [trimNodes, tagsOfNodes, tags_trimEdges, ht, hr, List.map_append]

theorem tagsOfRows_trimRows (rows : List Row) :
    tagsOfRows (trimRows rows) = (tagsOfRows rows).map Tag.trimmed := by
  match rows with
  | [] => rfl
  | ⟨_, cells⟩ :: rest =>
    have hc := tagsOfCells_trimCells cells
    have hr := tagsOfRows_trimRows rest
    simp only [trimRows, tagsOfRows, hc, hr, List.map_append]

theorem tagsOfCells_trimCells (cells : List Cell) :
    tagsOfCells (trimCells cells) = (tagsOfCells cells).map Tag.trimmed := by
  match cells with
  | [] => rfl
  | ⟨_, _, tokens⟩ :: rest =>
    have ht := tags_trimAll tokens
    have hr := tagsOfCells_trimCells rest
    simp only [trimCells, tagsOfCells, tags_trimEdges, ht, hr, List.map_append]

end

end Token

inductive Shape.SameKind : Shape → Shape → Prop
  | refl (shape : Shape) : SameKind shape shape
  | list (nodes nodes' : List ListNode) : SameKind (.list nodes) (.list nodes')
  | table (table table' : Table) : SameKind (.table table) (.table table')

theorem Token.sameKind_trimShape (shape : Shape) : (trimShape shape).SameKind shape := by
  cases shape with
  | list nodes => exact .list ..
  | table table =>
    obtain ⟨_, _⟩ := table
    exact .table ..
  | _ => exact .refl _

namespace Tag

variable {t t' : Tag}

theorem isOpaque_eq_of_sameKind (h : t.shape.SameKind t'.shape) : t.isOpaque = t'.isOpaque := by
  obtain ⟨_, _, _, _, shape, _⟩ := t
  obtain ⟨_, _, _, _, shape', _⟩ := t'
  cases h <;> rfl

theorem ruleFor_eq_of_sameKind (c : Converter) (hname : t.name = t'.name)
    (h : t.shape.SameKind t'.shape) : c.ruleFor t = c.ruleFor t' := by
  have hrule : (c.registry.get? t.name).getD (Rule.fallback t) =
      (c.registry.get? t'.name).getD (Rule.fallback t') := by
    simp only [Rule.fallback, isOpaque_eq_of_sameKind h, hname]
  obtain ⟨_, _, _, _, shape, _⟩ := t
  obtain ⟨_, _, _, _, shape', _⟩ := t'
  cases h with
  | refl =>
    cases shape with
    | tableOfContents | template => rfl
    | _ => exact hrule
  | list | table => exact hrule

theorem ruleFor_trimmed (t : Tag) (c : Converter) : c.ruleFor t.trimmed = c.ruleFor t :=
  ruleFor_eq_of_sameKind c rfl (Token.sameKind_trimShape t.shape)

end Tag

namespace Token

open Rendering

variable {s : Tag} {tokens : List Token}

theorem mem_tagsOfNodes {nodes : List ListNode} (hl : tokens ∈ contents nodes)
    (hs : s ∈ tags tokens) :
    s ∈ tagsOfNodes nodes := by
  fun_induction contents nodes with
  | case1 => cases hl
  | case2 marker nodes rest ihn ihr =>
    simp only [tagsOfNodes, List.mem_append] at hl ⊢
    exact hl.imp ihn ihr
  | case3 sequence inside rest ih =>
    simp only [tagsOfNodes, List.mem_append, List.mem_cons] at hl ⊢
    obtain rfl | hl := hl
    · exact .inl hs
    · exact .inr (ih hl)

theorem mem_tagsOfCells {cells : List Cell} (hl : tokens ∈ cells.map Cell.content)
    (hs : s ∈ tags tokens) : s ∈ tagsOfCells cells := by
  induction cells with
  | nil => cases hl
  | cons cell rest ih =>
    obtain ⟨kind, attributes, inside⟩ := cell
    simp only [tagsOfCells, List.map_cons, List.mem_append, List.mem_cons] at hl ⊢
    obtain rfl | hl := hl
    · exact .inl hs
    · exact .inr (ih hl)

theorem mem_tagsOfRows {rows : List Row} (hl : tokens ∈ rows.flatMap rowContents)
    (hs : s ∈ tags tokens) : s ∈ tagsOfRows rows := by
  induction rows with
  | nil => cases hl
  | cons row rest ih =>
    obtain ⟨attributes, cells⟩ := row
    simp only [tagsOfRows, List.flatMap_cons, List.mem_append] at hl ⊢
    obtain hl | hl := hl
    · exact .inl (mem_tagsOfCells hl hs)
    · exact .inr (ih hl)

theorem mem_tagsOf_of_mem_contentsOf {c : Converter} {t : Token} (hl : tokens ∈ c.contentsOf t)
    (hs : s ∈ tags tokens) : s ∈ tagsOf t := by
  cases t with
  | content _ => cases hl
  | tag t =>
    obtain ⟨name, attributes, children, body, shape, context⟩ := t
    simp only [Converter.contentsOf] at hl
    simp only [tagsOf, List.mem_cons, List.mem_append]
    refine .inr ?_
    generalize c.planFor _ = plan at hl
    cases plan with
    | leaf events => cases hl
    | around first last =>
      obtain rfl := List.mem_singleton.1 hl
      exact .inl hs
    | hoist first last =>
      cases children with
      | nil => cases hl
      | cons child rest =>
        cases child with
        | content _ => cases hl
        | tag anchor =>
          obtain ⟨_, _, _, _, _, _⟩ := anchor
          obtain rfl := List.mem_singleton.1 hl
          simp only [tags, tagsOf, List.mem_append, List.mem_cons]
          exact .inl (.inl (.inr (.inl hs)))
    | lines parameters =>
      cases shape with
      | list nodes => exact .inr (mem_tagsOfNodes hl hs)
      | _ => cases hl
    | rows =>
      cases shape with
      | table table =>
        obtain ⟨_, _⟩ := table
        exact .inr (mem_tagsOfRows hl hs)
      | _ => cases hl

end Token

end WikiStream
