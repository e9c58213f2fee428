import WikiStream.Proofs.Congruence
import WikiStream.Proofs.Tags

namespace WikiStream

namespace Token

variable (f : String → String)

mutual

def mapTexts : Token → Token
  | .content text => .content (f text)
  | .tag ⟨name, attributes, children, body, shape, context⟩ =>
    .tag ⟨name, attributes, mapTextsAll children, body, mapTextsShape shape, context⟩

def mapTextsAll : List Token → List Token
  | [] => []
  | token :: rest => mapTexts token :: mapTextsAll rest

def mapTextsShape : Shape → Shape
  | .list nodes => .list (mapTextsNodes nodes)
  | .table ⟨attributes, rows⟩ => .table ⟨attributes, mapTextsRows rows⟩
  | shape => shape

def mapTextsNodes : List ListNode → List ListNode
  | [] => []
  | .run marker nodes :: rest => .run marker (mapTextsNodes nodes) :: mapTextsNodes rest
  | .line sequence tokens :: rest => .line sequence (mapTextsAll tokens) :: mapTextsNodes rest

def mapTextsRows : List Row → List Row
  | [] => []
  | ⟨attributes, cells⟩ :: rest => ⟨attributes, mapTextsCells cells⟩ :: mapTextsRows rest

def mapTextsCells : List Cell → List Cell
  | [] => []
  | ⟨kind, attributes, tokens⟩ :: rest =>
    ⟨kind, attributes, mapTextsAll tokens⟩ :: mapTextsCells rest

end

theorem mapTextsAll_eq_map (tokens : List Token) :
    mapTextsAll f tokens = tokens.map (mapTexts f) := by
  induction tokens with
  | nil => rfl
  | cons token rest ih => simp only [mapTextsAll, List.map_cons, ih]

@[simp] theorem isEmpty_mapTextsAll (tokens : List Token) :
    (mapTextsAll f tokens).isEmpty = tokens.isEmpty := by
  cases tokens <;> rfl

theorem sameKind_mapTextsShape (shape : Shape) : (mapTextsShape f shape).SameKind shape := by
  cases shape with
  | list nodes => exact .list ..
  | table table =>
    obtain ⟨_, _⟩ := table
    exact .table ..
  | _ => exact .refl _

end Token

def Tag.mapTexts (f : String → String) (t : Tag) : Tag :=
  { t with
    children := Token.mapTextsAll f t.children
    shape := Token.mapTextsShape f t.shape }

theorem Token.mapTexts_tag (f : String → String) (t : Tag) :
    Token.mapTexts f (.tag t) = .tag (t.mapTexts f) := by
  obtain ⟨name, attributes, children, body, shape, context⟩ := t
  simp only [Token.mapTexts, Tag.mapTexts]

namespace Plan

variable (f : String → String)

theorem leadingAnchor?_mapTextsAll (tokens : List Token) :
    leadingAnchor? (Token.mapTextsAll f tokens) = leadingAnchor? tokens := by
  match tokens with
  | [] => rfl
  | .content _ :: _ => simp only [Token.mapTextsAll, Token.mapTexts, leadingAnchor?]
  | .tag t :: _ =>
    simp only [Token.mapTextsAll, Token.mapTexts_tag, leadingAnchor?]
    rfl

end Plan

namespace Tag

variable (f : String → String) (t : Tag)

theorem ruleFor_mapTexts (c : Converter) : c.ruleFor (t.mapTexts f) = c.ruleFor t :=
  ruleFor_eq_of_sameKind c rfl (Token.sameKind_mapTextsShape f t.shape)

theorem planFor_mapTexts (c : Converter) : c.planFor (t.mapTexts f) = c.planFor t := by
  have hempty : (t.mapTexts f).children.isEmpty = t.children.isEmpty :=
    Token.isEmpty_mapTextsAll f t.children
  have hanchor : Plan.leadingAnchor? (t.mapTexts f).children = Plan.leadingAnchor? t.children :=
    Plan.leadingAnchor?_mapTextsAll f t.children
  simp only [Converter.planFor, ruleFor_mapTexts]
  cases c.ruleFor t with
  | paragraph =>
    simp only [Rule.plan, Plan.paragraph, hempty]
    rfl
  | header level =>
    simp only [Rule.plan, Plan.header, hempty, hanchor]
    rfl
  | unknown =>
    simp only [Rule.plan, Plan.unknown, hempty]
    rfl
  | _ =>
    obtain ⟨_, _, _, _, _ | _ | _ | ⟨⟨_, _⟩⟩ | _ | _ | _ | _ | _, _⟩ := t <;> rfl

end Tag

namespace Portion

variable (f : String → String)

def mapTexts : Portion → Portion
  | own events => own events
  | inside tokens => inside (Token.mapTextsAll f tokens)

theorem map_between (first last : List Event) (portions : List Portion) :
    (between first last portions).map (mapTexts f) =
      between first last (portions.map (mapTexts f)) := by
  simp only [between, List.map_cons, List.map_append, List.map_nil, mapTexts]

theorem ofItems_mapTexts (parameters : Attributes) (current : Char) (used : Bool)
    (nodes : List ListNode) :
    ofItems parameters current used (Token.mapTextsNodes f nodes) =
      (ofItems parameters current used nodes).map (mapTexts f) := by
  fun_induction ofItems parameters current used nodes with
  | case1 current used =>
    simp only [Token.mapTextsNodes, ofItems]
    rfl
  | case2 current used marker nodes rest ihn ihr =>
    simp only [Token.mapTextsNodes, ofItems, List.map_append, map_between, ihn, ihr]
  | case3 current sequence tokens rest ih =>
    simp only [Token.mapTextsNodes, ofItems, if_true, List.map_cons, mapTexts, ih]
  | case4 current used sequence tokens rest hu ih =>
    simp only [Token.mapTextsNodes, ofItems, hu, Bool.false_eq_true, if_false, List.map_cons,
      mapTexts, ih]

theorem lines_mapTexts (parameters : Attributes) (nodes : List ListNode) :
    (Token.mapTextsNodes f nodes).flatMap (ofLine parameters) =
      (nodes.flatMap (ofLine parameters)).map (mapTexts f) := by
  induction nodes with
  | nil => rfl
  | cons node rest ih =>
    cases node with
    | run marker nodes =>
      simp only [Token.mapTextsNodes, List.flatMap_cons, ofLine, ih, List.map_append, map_between,
        ofItems_mapTexts]
    | line sequence tokens =>
      simp only [Token.mapTextsNodes, List.flatMap_cons, ofLine, ih, List.map_append, List.map_cons,
        List.map_nil, mapTexts]

theorem cells_mapTexts (cells : List Cell) :
    (Token.mapTextsCells f cells).flatMap ofCell = (cells.flatMap ofCell).map (mapTexts f) := by
  induction cells with
  | nil => rfl
  | cons cell rest ih =>
    obtain ⟨_ | _ | _, attributes, tokens⟩ := cell <;>
      simp only [Token.mapTextsCells, List.flatMap_cons, ofCell, ih, List.map_append, map_between,
        List.map_cons, List.map_nil, mapTexts]

theorem ofGrid_mapTexts (parameters : Attributes) (rows : List Row) :
    ofGrid parameters (Token.mapTextsRows f rows) = (ofGrid parameters rows).map (mapTexts f) := by
  have hrows : (Token.mapTextsRows f rows).flatMap ofRow =
      (rows.flatMap ofRow).map (mapTexts f) := by
    induction rows with
    | nil => rfl
    | cons row rest ih =>
      obtain ⟨attributes, cells⟩ := row
      simp only [Token.mapTextsRows, List.flatMap_cons, ofRow, cells_mapTexts, ih, List.map_append,
        map_between]
  simp only [ofGrid, hrows, map_between]

theorem ofTable_mapTexts (parameters : Attributes) (rows : List Row) :
    ofTable ⟨parameters, Token.mapTextsRows f rows⟩ =
      (ofTable ⟨parameters, rows⟩).map (mapTexts f) := by
  match rows with
  | ⟨ofRow, ⟨.caption, _, caption⟩ :: cells⟩ :: rows =>
    simp only [Token.mapTextsRows, Token.mapTextsCells, ofTable, grouped, map_between,
      List.map_append, List.map_cons, List.map_nil, mapTexts, ← ofGrid_mapTexts]
  | [] => exact ofGrid_mapTexts f parameters []
  | ⟨_, []⟩ :: _ | ⟨_, ⟨.header, _, _⟩ :: _⟩ :: _ | ⟨_, ⟨.body, _, _⟩ :: _⟩ :: _ =>
    simp only [Token.mapTextsRows, Token.mapTextsCells, ofTable, ← ofGrid_mapTexts]

theorem portions_mapTexts (plan : Plan) (t : Tag) :
    plan.portions (t.mapTexts f) = (plan.portions t).map (mapTexts f) := by
  obtain ⟨name, attributes, children, body, shape, context⟩ := t
  cases plan with
  | leaf events => rfl
  | around first last => rfl
  | hoist first last =>
    cases children with
    | nil => rfl
    | cons child rest =>
      cases child with
      | content text => rfl
      | tag anchor =>
        obtain ⟨_, _, _, _, _, _⟩ := anchor
        simp only [Tag.mapTexts, Token.mapTextsAll, Token.mapTexts, Plan.portions, map_between,
          List.map_cons, List.map_nil, mapTexts]
  | lines parameters =>
    cases shape with
    | list nodes => exact lines_mapTexts f parameters nodes
    | table table =>
      obtain ⟨_, _⟩ := table
      rfl
    | _ => rfl
  | rows =>
    cases shape with
    | table table =>
      obtain ⟨parameters, rows⟩ := table
      exact ofTable_mapTexts f parameters rows
    | _ => rfl

end Portion

theorem Rendering.ofPlan_mapTexts (f : String → String) (inner : List Token → Rendering)
    (plan : Plan) (t : Tag) :
    ofPlan inner plan (t.mapTexts f) =
      ofPlan (fun tokens ↦ inner (Token.mapTextsAll f tokens)) plan t := by
  simp only [← assemble_portions, Portion.portions_mapTexts]
  induction plan.portions t with
  | nil => rfl
  | cons portion portions ih =>
    simp only [List.map_cons, assemble_cons, ih]
    cases portion <;> rfl

namespace Converter

open Rendering

theorem render_mapTextsAll {R : Rendering → Rendering → Prop} (hR : Congruence R) {c c' : Converter}
    {f : String → String} (hplan : ∀ t, c'.planFor t = c.planFor t)
    (htext : ∀ text, R (ofText c.inline text) (ofText c'.inline (f text))) (room : Nat)
    (tokens : List Token) :
    R (c.render room tokens) (c'.render room (Token.mapTextsAll f tokens)) := by
  induction room generalizing tokens with
  | zero => cases tokens <;> exact hR.refl _
  | succ room ih =>
    rw [render_succ, render_succ, Token.mapTextsAll_eq_map, List.map_map]
    refine hR.join fun token _ ↦ ?_
    cases token with
    | content text =>
      simp only [Function.comp_apply, Token.mapTexts, renderToken]
      exact htext text
    | tag t =>
      simp only [Function.comp_apply, Token.mapTexts_tag, renderToken, hplan, Tag.planFor_mapTexts,
        ofPlan_mapTexts]
      exact hR.ofPlan _ t fun l _ ↦ ih l

end Converter

end WikiStream
