import WikiStream.Proofs.Rendering
import WikiStream.Proofs.Trimming

namespace WikiStream

open Rendering

def Traversal.extend (s : Traversal) (r : Rendering) : Traversal :=
  { s with events := s.events ++ r.events, report := s.report + r.report }

theorem Report.zero_add (r : Report) : {} + r = r :=
  congrArg₂ Report.mk (Nat.zero_add _) (Nat.zero_add _)

namespace Traversal

variable (s : Traversal) (a b : Rendering)

@[simp] theorem depth_extend : (s.extend a).depth = s.depth := rfl

@[simp] theorem events_extend : (s.extend a).events = s.events ++ a.events := rfl

@[simp] theorem report_extend : (s.extend a).report = s.report + a.report := rfl

@[simp] theorem extend_empty : s.extend ∅ = s := by
  obtain ⟨depth, events, report⟩ := s
  simp only [extend, events_empty, Array.appendList_nil]
  rfl

theorem extend_append : s.extend (a ++ b) = (s.extend a).extend b := by
  have he : s.events ++ (a ++ b).events = s.events ++ a.events ++ b.events := by
    apply Array.ext'
    simp only [events_append, Array.toList_appendList, List.append_assoc]
  have hr : s.report + (a ++ b).report = s.report + a.report + b.report :=
    congrArg₂ Report.mk (Nat.add_assoc ..).symm (Nat.add_assoc ..).symm
  simp only [extend, he, hr]

end Traversal

namespace Walk

/-- At every depth `d` the walk tells `f d` and does nothing else. -/
def Tells (m : Walk Unit) (f : Nat → Rendering) : Prop :=
  ∀ s, m.run s = ((), s.extend (f s.depth))

variable {m n : Walk Unit} {f g : Nat → Rendering}

theorem tells_pure : Tells (pure ()) fun _ ↦ ∅ := by
  intro s
  rw [Traversal.extend_empty]
  rfl

theorem tells_emit (events : List Event) : Tells (emit events) fun _ ↦ ofEvents events := by
  intro s
  rfl

theorem tells_truncate : Tells truncate fun _ ↦ truncated := by
  intro s
  simp only [Traversal.extend, truncated, Array.appendList_nil]
  rfl

theorem tells_skip : Tells skip fun _ ↦ skipped := by
  intro s
  simp only [Traversal.extend, skipped, Array.appendList_nil]
  rfl

theorem run_seq (m n : Walk Unit) (s : Traversal) :
    (do m; n : Walk Unit).run s = n.run (m.run s).2 := rfl

theorem Tells.bind (hm : Tells m f) (hn : Tells n g) : Tells (do m; n) fun d ↦ f d ++ g d := by
  intro s
  rw [run_seq, hm s, hn (s.extend (f s.depth)), Traversal.depth_extend, Traversal.extend_append]

theorem Tells.of_eq (hm : Tells m f) (h : ∀ d, f d = g d) : Tells m g :=
  fun s ↦ (hm s).trans (by rw [h])

theorem Tells.between (hm : Tells m f) (first last : List Event) :
    Tells (do emit first; m; emit last) fun d ↦ Rendering.between first last (f d) :=
  ((tells_emit first).bind (hm.bind (tells_emit last))).of_eq fun _ ↦ (append_assoc ..).symm

theorem tells_text (parse : Inline.Parser) (text : String) :
    Tells (Walk.text parse text) fun _ ↦ ofText parse text := by
  unfold Walk.text ofText
  dsimp only
  by_cases ht : Text.normalize text = ""
  · simp only [ht, if_true]
    exact tells_pure
  · simp only [ht, if_false]
    cases parse (Text.normalize text) with
    | ok pieces => exact tells_emit _
    | error reason => exact tells_skip

end Walk

namespace Converter

open Walk

variable (c : Converter)

def renderBelow (d : Nat) : List Token → Rendering := c.render (c.options.maxDepth.toNat - d)

/-- A list of tokens is walked one level deeper, or counted where that is past the ceiling. -/
theorem traverse_tells_of_visitAll {token : Token} {rest : List Token}
    (h : Tells (c.visitAll (token :: rest)) fun d ↦
      join ((token :: rest).map (c.renderToken (c.renderBelow d)))) :
    Tells (c.traverse (token :: rest)) fun d ↦ c.renderBelow d (token :: rest) := by
  intro s
  let deeper : Traversal := { s with depth := s.depth + 1 }
  have hrun : (c.traverse (token :: rest)).run s =
      (if deeper.depth > c.options.maxDepth.toNat then (do truncate; ascend : Walk Unit)
        else (do c.visitAll (token :: rest); ascend : Walk Unit)).run deeper := by
    simp only [traverse, visitAll]
    rfl
  by_cases hd : deeper.depth > c.options.maxDepth.toNat
  · have hroom : c.options.maxDepth.toNat - s.depth = 0 := by
      simp only [deeper] at hd
      omega
    rw [hrun, if_pos hd, run_seq, tells_truncate deeper]
    simp only [renderBelow, hroom, render_zero_cons]
    rfl
  · have hroom : c.options.maxDepth.toNat - s.depth =
        c.options.maxDepth.toNat - deeper.depth + 1 := by
      simp only [deeper] at hd ⊢
      omega
    rw [hrun, if_neg hd, run_seq, h deeper]
    simp only [renderBelow, hroom, render_succ]
    rfl

mutual

theorem visit_tells (t : Token) : Tells (c.visit t) fun d ↦ c.renderToken (c.renderBelow d) t := by
  match t with
  | .content text =>
    simp only [visit, renderToken]
    exact tells_text c.inline text
  | .tag t =>
    simp only [visit, renderToken]
    exact follow_tells (c.planFor t) t

theorem follow_tells (plan : Plan) (t : Tag) :
    Tells (c.follow plan t) fun d ↦ ofPlan (c.renderBelow d) plan t := by
  obtain ⟨name, attributes, children, body, shape, context⟩ := t
  cases plan with
  | leaf events => exact tells_emit events
  | around first last => exact (traverse_tells children).between first last
  | hoist first last =>
    match children with
    | .tag ⟨_, _, inside, _, _, _⟩ :: _ => exact (traverse_tells inside).between first last
    | .content _ :: _ | [] => exact tells_pure
  | lines parameters =>
    cases shape with
    | list nodes => exact visitLines_tells parameters nodes
    | _ => exact tells_pure
  | rows =>
    cases shape with
    | table table => exact visitTable_tells table
    | _ => exact tells_pure

theorem traverse_tells (tokens : List Token) :
    Tells (c.traverse tokens) fun d ↦ c.renderBelow d tokens := by
  match tokens with
  | [] =>
    simp only [traverse, renderBelow, render_nil]
    exact tells_pure
  | token :: rest =>
    have h := (visit_tells token).bind (visitAll_tells rest)
    exact c.traverse_tells_of_visitAll h

theorem visitAll_tells (tokens : List Token) :
    Tells (c.visitAll tokens) fun d ↦ join (tokens.map (c.renderToken (c.renderBelow d))) := by
  match tokens with
  | [] =>
    simp only [visitAll]
    exact tells_pure
  | token :: rest =>
    simp only [visitAll, List.map_cons, join_cons]
    exact (visit_tells token).bind (visitAll_tells rest)

theorem visitLines_tells (parameters : Attributes) (nodes : List ListNode) :
    Tells (c.visitLines parameters nodes) fun d ↦ lines (c.renderBelow d) parameters nodes := by
  match nodes with
  | [] =>
    simp only [visitLines]
    exact tells_pure
  | .run marker nodes :: rest =>
    simp only [visitLines, lines_cons, line, run, between_append]
    exact (tells_emit _).bind ((visitItems_tells parameters marker false nodes).bind
      ((tells_emit _).bind (visitLines_tells parameters rest)))
  | .line _ tokens :: rest =>
    simp only [visitLines, lines_cons, line]
    exact (traverse_tells tokens).bind (visitLines_tells parameters rest)

theorem visitItems_tells (parameters : Attributes) (current : Char) (used : Bool)
    (nodes : List ListNode) :
    Tells (c.visitItems parameters current used nodes) fun d ↦
      items (c.renderBelow d) parameters current used nodes := by
  match nodes with
  | [] =>
    simp only [visitItems, items]
    exact tells_emit _
  | .run marker nodes :: rest =>
    simp only [visitItems, items, between_append]
    exact (tells_emit _).bind ((visitItems_tells parameters marker false nodes).bind
      ((tells_emit _).bind (visitItems_tells parameters current used rest)))
  | .line sequence tokens :: rest =>
    cases used with
    | false =>
      simp only [visitItems, items, Bool.false_eq_true, if_false]
      exact (traverse_tells tokens).bind (visitItems_tells parameters current true rest)
    | true =>
      simp only [visitItems, items, if_true]
      exact (tells_emit _).bind ((traverse_tells tokens).bind
        (visitItems_tells parameters (itemMarker sequence) true rest))

theorem visitTable_tells (table : Table) :
    Tells (c.visitTable table) fun d ↦ Rendering.table (c.renderBelow d) table := by
  match table with
  | ⟨parameters, ⟨ofRow, ⟨.caption, _, caption⟩ :: cells⟩ :: rows⟩ =>
    -- The events at the seams belong to two parts of the table each, so no part is told alone.
    have hrows := (visitRows_tells rows).bind (tells_emit [.closing .table, .closing .group])
    have hcells := (visitCells_tells cells).bind ((tells_emit [.closing .tableRow]).bind hrows)
    have hgrid := (tells_emit
      [.closing .group, .opening (.table parameters), .opening (.tableRow ofRow)]).bind hcells
    have hcaption := (traverse_tells caption).bind hgrid
    have h := (tells_emit [.opening (.group ∅), .opening (.group ∅)]).bind hcaption
    simp only [visitTable]
    refine h.of_eq fun d ↦ ?_
    simp only [Rendering.table, grouped, grid, row, List.map_cons, join_cons, between, append_assoc,
      ofEvents_cons_cons]
  | ⟨parameters, []⟩ | ⟨parameters, ⟨_, []⟩ :: _⟩ | ⟨parameters, ⟨_, ⟨.header, _, _⟩ :: _⟩ :: _⟩
  | ⟨parameters, ⟨_, ⟨.body, _, _⟩ :: _⟩ :: _⟩ =>
    simp only [visitTable, Rendering.table]
    exact (visitRows_tells _).between _ _

theorem visitRows_tells (rows : List Row) :
    Tells (c.visitRows rows) fun d ↦ join (rows.map (row (c.renderBelow d))) := by
  match rows with
  | [] =>
    simp only [visitRows]
    exact tells_pure
  | ⟨parameters, cells⟩ :: rest =>
    simp only [visitRows, List.map_cons, join_cons, row, between_append]
    exact (tells_emit _).bind ((visitCells_tells cells).bind
      ((tells_emit _).bind (visitRows_tells rest)))

theorem visitCells_tells (cells : List Cell) :
    Tells (c.visitCells cells) fun d ↦ join (cells.map (cell (c.renderBelow d))) := by
  match cells with
  | [] =>
    simp only [visitCells]
    exact tells_pure
  | ⟨.header, parameters, tokens⟩ :: rest | ⟨.body, parameters, tokens⟩ :: rest
  | ⟨.caption, parameters, tokens⟩ :: rest =>
    simp only [visitCells, List.map_cons, join_cons, cell, between_append]
    exact (tells_emit _).bind ((traverse_tells tokens).bind
      ((tells_emit _).bind (visitCells_tells rest)))

end

theorem appendFragment_render (recorded : Array Event) (tokens : List Token) :
    c.appendFragment recorded tokens =
      (recorded ++ (c.render c.options.maxDepth.toNat (Token.trimAll tokens)).events,
        (c.render c.options.maxDepth.toNat (Token.trimAll tokens)).report) := by
  have h := c.traverse_tells (Token.trimAll tokens) { events := recorded }
  simp only [appendFragment, Token.cleanAll_eq_trimAll, h, Traversal.extend, Report.zero_add]
  rfl

theorem fragment_eq (tokens : List Token) :
    c.fragment tokens = c.render c.options.maxDepth.toNat (Token.trimAll tokens) := by
  simp only [fragment, appendFragment_render, Array.toList_appendList, List.nil_append]

theorem appendFragment_eq (recorded : Array Event) (tokens : List Token) :
    c.appendFragment recorded tokens =
      (recorded ++ (c.fragment tokens).events, (c.fragment tokens).report) := by
  rw [fragment_eq, appendFragment_render]

theorem appendDocument_eq (recorded : Array Event) (tokens : List Token) :
    c.appendDocument recorded tokens =
      (recorded ++ .opening .document :: ((c.fragment tokens).events ++ [.closing .document]),
        (c.fragment tokens).report) := by
  simp only [appendDocument, appendFragment_eq, Prod.mk.injEq, and_true]
  apply Array.ext'
  simp only [Array.toList_push, Array.toList_appendList, List.append_assoc, List.cons_append,
    List.nil_append]

theorem document_eq (tokens : List Token) :
    c.document tokens =
      Rendering.between [.opening .document] [.closing .document] (c.fragment tokens) := by
  have he : (c.document tokens).events =
      .opening .document :: ((c.fragment tokens).events ++ [.closing .document]) := by
    simp only [document, appendDocument_eq, Array.toList_appendList, List.nil_append]
  have hr : (c.document tokens).report = (c.fragment tokens).report := by
    simp only [document, appendDocument_eq]
  ext1
  · exact he
  · rw [hr, report_between]
  · rw [hr, report_between]

end Converter

end WikiStream
