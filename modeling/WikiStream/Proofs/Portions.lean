import WikiStream.Proofs.Levels

namespace WikiStream

inductive Portion
  | own (events : List Event)
  | inside (tokens : List Token)

namespace Portion

def fill (inner : List Token → Rendering) : Portion → Rendering
  | own events => .ofEvents events
  | inside tokens => inner tokens

def inside? : Portion → Option (List Token)
  | own _ => none
  | inside tokens => some tokens

def between (first last : List Event) (portions : List Portion) : List Portion :=
  .own first :: (portions ++ [.own last])

def ofItems (parameters : Attributes) (current : Char) (used : Bool) : List ListNode → List Portion
  | [] => [.own [(Block.item current).stop]]
  | .run marker nodes :: rest =>
    between [(Block.container marker).start parameters, (Block.item marker).start ∅]
      [(Block.container marker).stop] (ofItems parameters marker false nodes) ++
      ofItems parameters current used rest
  | .line sequence tokens :: rest =>
    if used then
      .own [(Block.item current).stop, (Block.item (Converter.itemMarker sequence)).start ∅] ::
        .inside tokens :: ofItems parameters (Converter.itemMarker sequence) true rest
    else .inside tokens :: ofItems parameters current true rest

def ofLine (parameters : Attributes) : ListNode → List Portion
  | .run marker nodes =>
    between [(Block.container marker).start parameters, (Block.item marker).start ∅]
      [(Block.container marker).stop] (ofItems parameters marker false nodes)
  | .line _ tokens => [.inside tokens]

def ofCell : Cell → List Portion
  | ⟨.header, parameters, tokens⟩ =>
    between [Block.tableHeadCell.start parameters] [Block.tableHeadCell.stop] [.inside tokens]
  | ⟨_, parameters, tokens⟩ =>
    between [Block.tableCell.start parameters] [Block.tableCell.stop] [.inside tokens]

def ofRow (r : Row) : List Portion :=
  between [Block.tableRow.start r.attributes] [Block.tableRow.stop] (r.cells.flatMap ofCell)

def ofGrid (parameters : Attributes) (rows : List Row) : List Portion :=
  between [Block.table.start parameters] [Block.table.stop] (rows.flatMap ofRow)

def grouped (portions : List Portion) : List Portion :=
  between [Block.group.start ∅] [Block.group.stop] portions

def ofTable : Table → List Portion
  | ⟨parameters, ⟨ofRow, ⟨.caption, _, caption⟩ :: cells⟩ :: rows⟩ =>
    grouped (grouped [.inside caption] ++ ofGrid parameters (⟨ofRow, cells⟩ :: rows))
  | ⟨parameters, rows⟩ => ofGrid parameters rows

end Portion

def Plan.portions : Plan → Tag → List Portion
  | .leaf events, _ => [.own events]
  | .around first last, t => Portion.between first last [.inside t.children]
  | .hoist first last, ⟨_, _, .tag anchor :: _, _, _, _⟩ =>
    Portion.between first last [.inside anchor.children]
  | .lines parameters, ⟨_, _, _, _, .list nodes, _⟩ => nodes.flatMap (Portion.ofLine parameters)
  | .rows, ⟨_, _, _, _, .table t, _⟩ => Portion.ofTable t
  | _, _ => []

/-- Whether all events are in `P` that the plan writes around what it hands on. -/
def Plan.Writes (P : Event → Prop) : Plan → Prop
  | .leaf events => ∀ e ∈ events, P e
  | .around first last | .hoist first last => (∀ e ∈ first, P e) ∧ ∀ e ∈ last, P e
  | .lines _ | .rows => True

namespace Rendering

variable (inner : List Token → Rendering)

def assemble (portions : List Portion) : Rendering := join (portions.map (Portion.fill inner))

@[simp] theorem assemble_nil : assemble inner [] = ∅ := rfl

@[simp] theorem assemble_cons (portion : Portion) (portions : List Portion) :
    assemble inner (portion :: portions) = portion.fill inner ++ assemble inner portions := rfl

@[simp] theorem assemble_append (portions rest : List Portion) :
    assemble inner (portions ++ rest) = assemble inner portions ++ assemble inner rest := by
  simp only [assemble, List.map_append, join_append]

theorem assemble_inside (tokens : List Token) :
    assemble inner [.inside tokens] = inner tokens := append_empty _

theorem assemble_between (first last : List Event) (portions : List Portion) :
    assemble inner (Portion.between first last portions) =
      between first last (assemble inner portions) := by
  simp only [Portion.between, between, assemble_cons, assemble_append, assemble_nil, append_empty,
    Portion.fill, append_assoc]

theorem assemble_flatMap {α : Type} (f : α → List Portion) (l : List α) :
    assemble inner (l.flatMap f) = join (l.map fun a ↦ assemble inner (f a)) := by
  induction l with
  | nil => rfl
  | cons a l ih => simp only [List.flatMap_cons, assemble_append, ih, List.map_cons, join_cons]

theorem assemble_ofItems (parameters : Attributes) (current : Char) (used : Bool)
    (nodes : List ListNode) :
    assemble inner (Portion.ofItems parameters current used nodes) =
      items inner parameters current used nodes := by
  fun_induction items inner parameters current used nodes with
  | case1 current used =>
    simp only [Portion.ofItems]
    exact append_empty _
  | case2 current used marker nodes rest ihn ihr =>
    simp only [Portion.ofItems, assemble_append, assemble_between, ihn, ihr]
  | case3 current sequence tokens rest ih =>
    simp only [Portion.ofItems, if_true, assemble_cons, Portion.fill, ih]
  | case4 current used sequence tokens rest hu ih =>
    simp only [Portion.ofItems, hu, Bool.false_eq_true, if_false, assemble_cons, Portion.fill, ih]

theorem assemble_ofLine (parameters : Attributes) (node : ListNode) :
    assemble inner (Portion.ofLine parameters node) = line inner parameters node := by
  cases node with
  | run marker nodes => simp only [Portion.ofLine, line, run, assemble_between, assemble_ofItems]
  | line sequence tokens => exact assemble_inside inner tokens

theorem assemble_ofCell (k : Cell) : assemble inner (Portion.ofCell k) = cell inner k := by
  obtain ⟨_ | _ | _, parameters, tokens⟩ := k <;>
    simp only [Portion.ofCell, cell, assemble_between, assemble_inside] <;> rfl

theorem assemble_ofRow (r : Row) : assemble inner (Portion.ofRow r) = row inner r := by
  simp only [Portion.ofRow, row, assemble_between, assemble_flatMap, assemble_ofCell]
  rfl

theorem assemble_ofGrid (parameters : Attributes) (rows : List Row) :
    assemble inner (Portion.ofGrid parameters rows) = grid inner parameters rows := by
  simp only [Portion.ofGrid, grid, assemble_between, assemble_flatMap, assemble_ofRow]
  rfl

theorem assemble_grouped (portions : List Portion) :
    assemble inner (Portion.grouped portions) = grouped (assemble inner portions) :=
  assemble_between inner _ _ portions

theorem assemble_ofTable (t : Table) : assemble inner (Portion.ofTable t) = table inner t := by
  match t with
  | ⟨parameters, ⟨ofRow, ⟨.caption, _, caption⟩ :: cells⟩ :: rows⟩ =>
    simp only [Portion.ofTable, table, assemble_grouped, assemble_append, assemble_inside,
      assemble_ofGrid]
  | ⟨parameters, []⟩ | ⟨parameters, ⟨_, []⟩ :: _⟩ | ⟨parameters, ⟨_, ⟨.header, _, _⟩ :: _⟩ :: _⟩
  | ⟨parameters, ⟨_, ⟨.body, _, _⟩ :: _⟩ :: _⟩ => exact assemble_ofGrid ..

theorem assemble_portions (plan : Plan) (t : Tag) :
    assemble inner (plan.portions t) = ofPlan inner plan t := by
  obtain ⟨name, attributes, children, body, shape, context⟩ := t
  cases plan with
  | leaf events => exact append_empty _
  | around first last =>
    simp only [Plan.portions, ofPlan, assemble_between, assemble_inside]
  | hoist first last =>
    cases children with
    | nil => rfl
    | cons child rest =>
      cases child with
      | content text => rfl
      | tag anchor => simp only [Plan.portions, ofPlan, assemble_between, assemble_inside]
  | lines parameters =>
    cases shape with
    | list nodes => simp only [Plan.portions, ofPlan, lines, assemble_flatMap, assemble_ofLine]
    | _ => rfl
  | rows =>
    cases shape with
    | table table => exact assemble_ofTable inner table
    | _ => rfl

end Rendering

namespace Portion

def insides (portions : List Portion) : List (List Token) := portions.filterMap inside?

@[simp] theorem insides_nil : insides [] = [] := rfl

@[simp] theorem insides_own (events : List Event) (rest : List Portion) :
    insides (.own events :: rest) = insides rest := rfl

@[simp] theorem insides_inside (tokens : List Token) (rest : List Portion) :
    insides (.inside tokens :: rest) = tokens :: insides rest := rfl

@[simp] theorem insides_append (portions rest : List Portion) :
    insides (portions ++ rest) = insides portions ++ insides rest := List.filterMap_append

@[simp] theorem insides_between (first last : List Event) (portions : List Portion) :
    insides (between first last portions) = insides portions := by
  simp [between]

open Rendering

theorem insides_ofItems (parameters : Attributes) (current : Char) (used : Bool)
    (nodes : List ListNode) :
    insides (ofItems parameters current used nodes) = contents nodes := by
  fun_induction ofItems parameters current used nodes with
  | case1 current used =>
    simp only [contents]
    rfl
  | case2 current used marker nodes rest ihn ihr => simp [contents, ihn, ihr]
  | case3 current sequence tokens rest ih => simp [contents, ih]
  | case4 current used sequence tokens rest hu ih => simp [contents, ih]

theorem insides_lines (parameters : Attributes) (nodes : List ListNode) :
    insides (nodes.flatMap (ofLine parameters)) = contents nodes := by
  induction nodes with
  | nil =>
    simp only [contents]
    rfl
  | cons node rest ih =>
    cases node with
    | run marker nodes => simp [ofLine, contents, insides_ofItems, ih]
    | line sequence tokens => simp [ofLine, contents, ih]

theorem insides_ofCell (k : Cell) : insides (ofCell k) = [k.content] := by
  obtain ⟨_ | _ | _, parameters, tokens⟩ := k <;> simp [ofCell]

theorem insides_ofRow (r : Row) : insides (ofRow r) = rowContents r := by
  obtain ⟨parameters, cells⟩ := r
  simp only [ofRow, insides_between, rowContents]
  induction cells with
  | nil => rfl
  | cons k rest ih => simp [insides_ofCell, ih]

theorem insides_ofGrid (parameters : Attributes) (rows : List Row) :
    insides (ofGrid parameters rows) = rows.flatMap rowContents := by
  simp only [ofGrid, insides_between]
  induction rows with
  | nil => rfl
  | cons r rest ih => simp [insides_ofRow, ih]

theorem insides_ofTable (t : Table) : insides (ofTable t) = tableContents t := by
  unfold ofTable
  split
  · simp [grouped, insides_ofGrid, tableContents, rowContents]
  · exact insides_ofGrid ..

theorem insides_portions (plan : Plan) (t : Tag) :
    insides (plan.portions t) = planContents plan t := by
  obtain ⟨name, attributes, children, body, shape, context⟩ := t
  cases plan with
  | leaf events => rfl
  | around first last => exact insides_between ..
  | hoist first last =>
    cases children with
    | nil => rfl
    | cons child rest =>
      cases child with
      | content text => rfl
      | tag anchor => exact insides_between ..
  | lines parameters =>
    cases shape with
    | list nodes => exact insides_lines parameters nodes
    | _ => rfl
  | rows =>
    cases shape with
    | table table => exact insides_ofTable table
    | _ => rfl

end Portion

namespace Rendering

def countIn (count : Rendering → Nat) (inner : List Token → Rendering) : List (List Token) → Nat
  | [] => 0
  | tokens :: lists => count (inner tokens) + countIn count inner lists

theorem count_ofPlan (count : Rendering → Nat)
    (hevents : ∀ events, count (ofEvents events) = 0)
    (happend : ∀ a b, count (a ++ b) = count a + count b) (inner : List Token → Rendering)
    (plan : Plan) (t : Tag) :
    count (ofPlan inner plan t) = countIn count inner (planContents plan t) := by
  rw [← assemble_portions, ← Portion.insides_portions]
  induction plan.portions t with
  | nil => exact hevents []
  | cons portion portions ih =>
    rw [assemble_cons, happend, ih]
    cases portion with
    | own events => rw [Portion.fill, hevents, Nat.zero_add, Portion.insides_own]
    | inside tokens => rw [Portion.fill, Portion.insides_inside, countIn]

end Rendering

namespace Portion

def owns (portions : List Portion) : List Event :=
  portions.flatMap fun
    | own events => events
    | inside _ => []

@[simp] theorem owns_nil : owns [] = [] := rfl

@[simp] theorem owns_own (events : List Event) (rest : List Portion) :
    owns (.own events :: rest) = events ++ owns rest := rfl

@[simp] theorem owns_inside (tokens : List Token) (rest : List Portion) :
    owns (.inside tokens :: rest) = owns rest := rfl

@[simp] theorem owns_append (portions rest : List Portion) :
    owns (portions ++ rest) = owns portions ++ owns rest := List.flatMap_append

theorem mem_owns {events : List Event} {portions : List Portion} (h : .own events ∈ portions)
    {e : Event} (he : e ∈ events) : e ∈ owns portions :=
  List.mem_flatMap.2 ⟨_, h, he⟩

section

variable {P : Event → Prop}

theorem owns_between {first last : List Event} {portions : List Portion} (hf : ∀ e ∈ first, P e)
    (hl : ∀ e ∈ last, P e) (hp : ∀ e ∈ owns portions, P e) :
    ∀ e ∈ owns (between first last portions), P e := by
  simp only [between, owns_own, owns_append, owns_nil, List.append_nil, List.forall_mem_append]
  exact ⟨hf, hp, hl⟩

theorem owns_flatMap {α : Type} {f : α → List Portion} (h : ∀ a, ∀ e ∈ owns (f a), P e)
    (l : List α) :
    ∀ e ∈ owns (l.flatMap f), P e := by
  induction l with
  | nil => simp
  | cons a l ih =>
    simp only [List.flatMap_cons, owns_append, List.forall_mem_append]
    exact ⟨h a, ih⟩

-- Lists and tables write nothing of their own but the two ends of blocks.
variable (hstart : ∀ (b : Block) (parameters : Attributes), P (b.start parameters))
  (hstop : ∀ b : Block, P b.stop)

include hstart hstop

theorem owns_block (b : Block) (parameters : Attributes) {portions : List Portion}
    (hp : ∀ e ∈ owns portions, P e) :
    ∀ e ∈ owns (between [b.start parameters] [b.stop] portions), P e :=
  owns_between (by simpa using hstart b parameters) (by simpa using hstop b) hp

theorem owns_run (parameters : Attributes) (marker : Char) {portions : List Portion}
    (hp : ∀ e ∈ owns portions, P e) :
    ∀ e ∈ owns (between [(Block.container marker).start parameters, (Block.item marker).start ∅]
      [(Block.container marker).stop] portions), P e :=
  owns_between (by simp [hstart]) (by simp [hstop]) hp

theorem owns_ofItems (parameters : Attributes) (current : Char) (used : Bool)
    (nodes : List ListNode) : ∀ e ∈ owns (ofItems parameters current used nodes), P e := by
  fun_induction ofItems parameters current used nodes with
  | case1 current used => simpa using hstop _
  | case2 current used marker nodes rest ihn ihr =>
    have hrun := owns_run hstart hstop parameters marker ihn
    simpa only [owns_append, List.forall_mem_append] using ⟨hrun, ihr⟩
  | case3 current sequence tokens rest ih =>
    simp only [owns_own, owns_inside, List.forall_mem_append]
    exact ⟨by simp [hstart, hstop], ih⟩
  | case4 current used sequence tokens rest hu ih => exact ih

theorem owns_ofLine (parameters : Attributes) (node : ListNode) :
    ∀ e ∈ owns (ofLine parameters node), P e := by
  cases node with
  | run marker nodes =>
    have hitems := owns_ofItems hstart hstop parameters marker false nodes
    exact owns_run hstart hstop parameters marker hitems
  | line sequence tokens => simp [ofLine]

theorem owns_ofCell (k : Cell) : ∀ e ∈ owns (ofCell k), P e := by
  obtain ⟨_ | _ | _, parameters, tokens⟩ := k <;>
    exact owns_block hstart hstop _ parameters (by simp)

theorem owns_ofGrid (parameters : Attributes) (rows : List Row) :
    ∀ e ∈ owns (ofGrid parameters rows), P e := by
  have hrow (r : Row) : ∀ e ∈ owns (ofRow r), P e :=
    owns_block hstart hstop _ r.attributes (owns_flatMap (owns_ofCell hstart hstop) r.cells)
  exact owns_block hstart hstop _ parameters (owns_flatMap hrow rows)

theorem owns_ofTable (t : Table) : ∀ e ∈ owns (ofTable t), P e := by
  unfold ofTable
  split
  · rename_i parameters ofRow _ caption cells rows
    have hcaption : ∀ e ∈ owns (grouped [.inside caption]), P e :=
      owns_block hstart hstop .group ∅ (by simp)
    have hgrid := owns_ofGrid hstart hstop parameters (⟨ofRow, cells⟩ :: rows)
    refine owns_block hstart hstop .group ∅ ?_
    simpa only [owns_append, List.forall_mem_append] using ⟨hcaption, hgrid⟩
  · exact owns_ofGrid hstart hstop _ _

theorem owns_portions {plan : Plan} (h : plan.Writes P) (t : Tag) :
    ∀ e ∈ owns (plan.portions t), P e := by
  obtain ⟨name, attributes, children, body, shape, context⟩ := t
  cases plan with
  | leaf events => simpa [Plan.portions, Plan.Writes] using h
  | around first last => exact owns_between h.1 h.2 (by simp)
  | hoist first last =>
    cases children with
    | nil => simp [Plan.portions]
    | cons child rest =>
      cases child with
      | content text => simp [Plan.portions]
      | tag anchor => exact owns_between h.1 h.2 (by simp)
  | lines parameters =>
    cases shape with
    | list nodes => exact owns_flatMap (owns_ofLine hstart hstop parameters) nodes
    | _ => simp [Plan.portions]
  | rows =>
    cases shape with
    | table table => exact owns_ofTable hstart hstop table
    | _ => simp [Plan.portions]

end

end Portion

end WikiStream
