import WikiStream.Proofs.Nesting
import WikiStream.Proofs.Segments

namespace WikiStream

open Event

namespace ListNode

def runs : List ListNode → List (Char × List ListNode)
  | [] => []
  | .run marker nodes :: rest => (marker, nodes) :: (runs nodes ++ runs rest)
  | .line _ _ :: rest => runs rest

end ListNode

/-- The opening event is that of an item, of the kind that the list has. -/
def Opening.IsItemOf (o : Opening) : Block → Prop
  | .list _ => o.construct = .listItem
  | .definitionList => o.construct = .definitionTerm ∨ o.construct = .definitionDescription
  | _ => False

namespace Block

theorem container_eq_definitionList_iff {marker : Char} :
    container marker = .definitionList ↔ marker ≠ '*' ∧ marker ≠ '#' := by
  unfold container
  split_ifs <;> simp_all

theorem isItemOf_iff {m r : Char} : ((item m).opening ∅).IsItemOf (container r) ↔
    (m = ';' ∨ m = ':' ↔ container r = .definitionList) := by
  have hterm : ':' ≠ ';' := by decide
  unfold container item
  split_ifs <;> simp_all [opening, Opening.IsItemOf, Opening.construct]

theorem isItemOf_iff_standard {m r : Char}
    (h : container m = .definitionList ↔ container r = .definitionList) :
    ((item m).opening ∅).IsItemOf (container r) ↔ m ∈ ['*', '#', ';', ':'] := by
  rw [isItemOf_iff, ← h, container_eq_definitionList_iff]
  by_cases hlist : m = '*' ∨ m = '#'
  · rcases hlist with rfl | rfl <;> decide
  · obtain ⟨hb, hn⟩ := not_or.1 hlist
    simp [hb, hn]

theorem events_between (b : Block) (parameters : Attributes) (r : Rendering) :
    (Rendering.between [b.start parameters] [b.stop] r).events =
      pair (b.opening parameters) r.events := by
  rw [Rendering.events_between, pair, construct_opening]
  rfl

end Block

theorem Segment.marker_of_mem {marker : Char} {nodes : List ListNode} {s : Segment}
    (h : s ∈ ofRun marker nodes) : s.marker = marker ∨
      ∃ sequence content, .line sequence content ∈ nodes ∧
        s.marker = Converter.itemMarker sequence := by
  obtain ⟨first, later, hrun, hfirst, hlater⟩ := exists_first_later marker nodes
  rw [hrun] at h
  rcases List.mem_cons.1 h with rfl | hs
  · exact .inl hfirst
  · obtain ⟨sequence, content, runs, rfl, -⟩ := hlater s hs
    refine .inr ⟨sequence, content, ?_, rfl⟩
    rw [← flatMap_nodes_ofRun marker nodes, hrun]
    exact List.mem_flatMap.2 ⟨_, h, List.mem_cons_self⟩

namespace Rendering

variable {inner : List Token → Rendering} (parameters : Attributes)

theorem exists_nested_all (h : ∀ tokens, ∃ n, Nested n (inner tokens).events)
    (lists : List (List Token)) : ∃ n, ∀ tokens ∈ lists, Nested n (inner tokens).events := by
  induction lists with
  | nil => exact ⟨0, nofun⟩
  | cons tokens lists ih =>
    obtain ⟨n, hn⟩ := h tokens
    obtain ⟨m, hm⟩ := ih
    refine ⟨max n m, List.forall_mem_cons.2 ⟨hn.mono (Nat.le_max_left ..), fun l hl ↦ ?_⟩⟩
    exact (hm l hl).mono (Nat.le_max_right ..)

theorem wellPaired_lines (h : ∀ tokens, ∃ n, Nested n (inner tokens).events)
    (nodes : List ListNode) : WellPaired (lines inner parameters nodes).events := by
  obtain ⟨n, hn⟩ := exists_nested_all h (contents nodes)
  exact (nested_lines parameters nodes hn).balanced.wellPaired

variable {parameters}

theorem exists_run_of_items {marker : Char} {nodes : List ListNode} {r : Char × List ListNode}
    (h : r = (marker, nodes) ∨ ∃ entered left, items inner parameters marker false nodes =
      entered ++ (run inner parameters r.1 r.2 ++ left)) :
    ∃ entered left, run inner parameters marker nodes =
      entered ++ (run inner parameters r.1 r.2 ++ left) := by
  rcases h with rfl | ⟨entered, left, hitems⟩
  · exact ⟨∅, ∅, by rw [append_empty, empty_append]⟩
  · refine ⟨ofEvents [(Block.container marker).start parameters, (Block.item marker).start ∅] ++
      entered, left ++ ofEvents [(Block.container marker).stop], ?_⟩
    simp only [run, between, hitems, append_assoc]

theorem exists_items_run {nodes : List ListNode} {r : Char × List ListNode}
    (h : r ∈ ListNode.runs nodes) (current : Char) (used : Bool) :
    ∃ entered left, items inner parameters current used nodes =
      entered ++ (run inner parameters r.1 r.2 ++ left) := by
  fun_induction ListNode.runs nodes generalizing current used with
  | case1 => cases h
  | case2 marker nodes rest ihn ihr =>
    rw [← List.cons_append, List.mem_append, List.mem_cons] at h
    rcases h with h | h
    · obtain ⟨entered, left, hrun⟩ := exists_run_of_items (h.imp_right (ihn · marker false))
      exact ⟨entered, left ++ _, by rw [items_cons_run, hrun, append_assoc, append_assoc]⟩
    · obtain ⟨entered, left, hrest⟩ := ihr h current used
      exact ⟨_ ++ entered, left, by rw [items_cons_run, hrest, append_assoc]⟩
  | case3 sequence content rest ih =>
    rw [items]
    split
    · obtain ⟨entered, left, hrest⟩ := ih h (Converter.itemMarker sequence) true
      refine ⟨ofEvents [(Block.item current).stop,
        (Block.item (Converter.itemMarker sequence)).start ∅] ++ (inner content ++ entered), left, ?_⟩
      simp only [hrest, append_assoc]
    · obtain ⟨entered, left, hrest⟩ := ih h current true
      exact ⟨inner content ++ entered, left, by rw [hrest, append_assoc]⟩

theorem exists_lines_run {nodes : List ListNode} {r : Char × List ListNode}
    (h : r ∈ ListNode.runs nodes) :
    ∃ entered left, lines inner parameters nodes =
      entered ++ (run inner parameters r.1 r.2 ++ left) := by
  induction nodes with
  | nil => simp [ListNode.runs] at h
  | cons node rest ih =>
    rw [lines_cons]
    cases node with
    | line sequence content =>
      rw [ListNode.runs] at h
      obtain ⟨entered, left, hrest⟩ := ih h
      exact ⟨inner content ++ entered, left, by rw [hrest, append_assoc]; rfl⟩
    | run marker nodes =>
      rw [ListNode.runs, ← List.cons_append, List.mem_append, List.mem_cons] at h
      rcases h with h | h
      · obtain ⟨entered, left, hrun⟩ :=
          exists_run_of_items (h.imp_right (exists_items_run · marker false))
        refine ⟨entered, left ++ lines inner parameters rest, ?_⟩
        rw [line, hrun, append_assoc, append_assoc]
      · obtain ⟨entered, left, hrest⟩ := ih h
        exact ⟨_ ++ entered, left, by rw [hrest, append_assoc]⟩

end Rendering

namespace Converter

open Rendering

variable (c : Converter) (parameters : Attributes)

def toldInside (d : Nat) (r : Char × List ListNode) : List Event :=
  (c.toldNode parameters d (.run r.1 r.2)).events.tail.dropLast

theorem events_toldNode_run (d : Nat) (r : Char × List ListNode) :
    (c.toldNode parameters d (.run r.1 r.2)).events =
      pair ((Block.container r.1).opening parameters) (pairs ((Segment.ofRun r.1 r.2).map fun s ↦
        ((Block.item s.marker).opening ∅, (lines (c.renderBelow d) parameters s.nodes).events))) := by
  rw [toldNode_eq, line, run_eq_between, Block.events_between, events_join, List.flatMap_map, pairs,
    List.flatMap_map]
  congr 2
  funext s
  rw [ofSegment, Block.events_between]
  rfl

theorem toldInside_eq (d : Nat) (r : Char × List ListNode) :
    c.toldInside parameters d r = pairs ((Segment.ofRun r.1 r.2).map fun s ↦
      ((Block.item s.marker).opening ∅, (lines (c.renderBelow d) parameters s.nodes).events)) := by
  rw [toldInside, events_toldNode_run, pair, List.tail_cons, List.dropLast_concat]

theorem opensDirectly_toldInside_iff (d : Nat) (r : Char × List ListNode) (o : Opening) :
    OpensDirectly o (c.toldInside parameters d r) ↔
      ∃ s ∈ Segment.ofRun r.1 r.2, (Block.item s.marker).opening ∅ = o := by
  have hinside (nodes : List ListNode) :
      WellPaired (lines (c.renderBelow d) parameters nodes).events :=
    wellPaired_lines parameters (c.exists_nested_render _) nodes
  rw [toldInside_eq, opensDirectly_pairs_iff, List.map_map, List.mem_map]
  · rfl
  · intro p hp
    obtain ⟨s, -, rfl⟩ := List.mem_map.1 hp
    exact hinside s.nodes

/-- Every run of a list, at any depth, is told as a list around its items. In lists whose lines
stand for the same sort of list as the runs that they are in, each of these lists holds items of its
own kind and nothing else if no item is for a marker beyond the four of wiki lists, and only then. -/
theorem own_items_iff_standard_markers (nodes : List ListNode)
    (hlines : ∀ r ∈ ListNode.runs nodes, ∀ sequence content, .line sequence content ∈ r.2 →
      (Block.container (itemMarker sequence) = .definitionList ↔
        Block.container r.1 = .definitionList)) (s : Traversal) :
    (∀ r ∈ ListNode.runs nodes,
      (∃ entered left : Rendering, (c.visitLines parameters nodes).run s =
        ((), s.extend (entered ++ (c.toldNode parameters s.depth (.run r.1 r.2) ++ left)))) ∧
      (c.toldNode parameters s.depth (.run r.1 r.2)).events =
        pair ((Block.container r.1).opening parameters) (c.toldInside parameters s.depth r)) ∧
    ((∀ r ∈ ListNode.runs nodes, ∀ o, OpensDirectly o (c.toldInside parameters s.depth r) →
        o.IsItemOf (Block.container r.1)) ↔
      ∀ r ∈ ListNode.runs nodes, ∀ item ∈ Segment.ofRun r.1 r.2,
        item.marker ∈ ['*', '#', ';', ':']) := by
  refine ⟨fun r hr ↦ ⟨?_, by rw [toldInside_eq, events_toldNode_run]⟩, ?_⟩
  · obtain ⟨entered, left, hrun⟩ : ∃ entered left, lines (c.renderBelow s.depth) parameters nodes =
        entered ++ (run (c.renderBelow s.depth) parameters r.1 r.2 ++ left) := exists_lines_run hr
    refine ⟨entered, left, ?_⟩
    rw [c.visitLines_tells parameters nodes s, toldNode_eq]
    exact congrArg (fun told ↦ ((), s.extend told)) hrun
  · refine forall₂_congr fun r hr ↦ ?_
    have hitem (item : Segment) (h : item ∈ Segment.ofRun r.1 r.2) :
        ((Block.item item.marker).opening ∅).IsItemOf (Block.container r.1) ↔
          item.marker ∈ ['*', '#', ';', ':'] := by
      apply Block.isItemOf_iff_standard
      rcases Segment.marker_of_mem h with hmarker | ⟨sequence, content, hline, hmarker⟩
      · rw [hmarker]
      · rw [hmarker]
        exact hlines r hr sequence content hline
    constructor
    · intro hown item h
      refine (hitem item h).1 (hown _ ?_)
      exact (c.opensDirectly_toldInside_iff parameters s.depth r _).2 ⟨item, h, rfl⟩
    · intro hstandard o ho
      obtain ⟨item, h, rfl⟩ := (c.opensDirectly_toldInside_iff parameters s.depth r o).1 ho
      exact (hitem item h).2 (hstandard item h)

/-- A run of a marker that wiki lists do not have: a definition list around an item of another
list. -/
theorem own_items_fail_beyond_markers :
    let nodes : List ListNode := [.run 'x' [.line "x" [.content "y"]]]
    (∀ r ∈ ListNode.runs nodes, ∀ sequence content, .line sequence content ∈ r.2 →
      (Block.container (itemMarker sequence) = .definitionList ↔
        Block.container r.1 = .definitionList)) ∧
    ¬∀ r ∈ ListNode.runs nodes, ∀ o,
      OpensDirectly o (({} : Converter).toldInside ∅ 0 r) → o.IsItemOf (Block.container r.1) := by
  intro nodes
  have hlines : ∀ r ∈ ListNode.runs nodes, ∀ sequence content, .line sequence content ∈ r.2 →
      (Block.container (itemMarker sequence) = .definitionList ↔
        Block.container r.1 = .definitionList) := by
    simp [nodes, ListNode.runs, itemMarker]
  refine ⟨hlines, fun hown ↦ ?_⟩
  have hstandard := (own_items_iff_standard_markers {} ∅ nodes hlines {}).2.1 hown
  have hbeyond : 'x' ∉ ['*', '#', ';', ':'] := by decide
  exact hbeyond (hstandard ('x', [.line "x" [.content "y"]]) (by simp [nodes, ListNode.runs])
    ⟨'x', [.line "x" [.content "y"]]⟩ (by simp [Segment.ofRun, Segment.ofLines, ListNode.isLine]))

end Converter

end WikiStream
