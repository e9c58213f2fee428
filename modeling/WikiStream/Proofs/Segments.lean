import WikiStream.Proofs.Traversal

namespace WikiStream

/-- What a walk tells that starts at the depth `d`. -/
def Walk.told (m : Walk Unit) (d : Nat) : Rendering :=
  ⟨(m.run { depth := d }).2.events.toList, (m.run { depth := d }).2.report⟩

theorem Walk.Tells.told_eq {m : Walk Unit} {f : Nat → Rendering} (h : Walk.Tells m f) (d : Nat) :
    m.told d = f d := by
  simp only [Walk.told, h { depth := d }, Traversal.extend, Report.zero_add,
    Array.toList_appendList, List.nil_append]

def ListNode.isLine : ListNode → Bool
  | run _ _ => false
  | line _ _ => true

/-- What goes into one item, and the marker that the item is for. -/
structure Segment where
  marker : Char
  nodes : List ListNode

namespace Segment

def ofLines : List ListNode → List Segment
  | [] => []
  | .run _ _ :: rest => ofLines rest
  | .line sequence content :: rest =>
    ⟨Converter.itemMarker sequence, .line sequence content :: rest.takeWhile (!·.isLine)⟩ ::
      ofLines rest

/-- The nodes of a run, cut in front of every line but the first. Runs that stand before all lines
go with the first one, and the first item is for the marker of the run. -/
def ofRun (marker : Char) (nodes : List ListNode) : List Segment :=
  match ofLines nodes with
  | [] => [⟨marker, nodes⟩]
  | first :: later => ⟨marker, nodes.takeWhile (!·.isLine) ++ first.nodes⟩ :: later

theorem ofRun_cons_run {marker : Char} {rest : List ListNode} {first : Segment}
    {later : List Segment} (h : ofRun marker rest = first :: later) (inside : Char)
    (nodes : List ListNode) : ofRun marker (.run inside nodes :: rest) =
      ⟨marker, .run inside nodes :: first.nodes⟩ :: later := by
  unfold ofRun at h ⊢
  simp only [ofLines]
  split at h <;>
  · obtain ⟨rfl, rfl⟩ := List.cons.inj h
    rfl

theorem ofRun_cons_line (marker : Char) (sequence : String) (content : List Token)
    (rest : List ListNode) : ofRun marker (.line sequence content :: rest) =
      ⟨marker, .line sequence content :: rest.takeWhile (!·.isLine)⟩ :: ofLines rest := rfl

def OfLine (s : Segment) : Prop :=
  ∃ sequence content runs, s = ⟨Converter.itemMarker sequence, .line sequence content :: runs⟩ ∧
    ∀ node ∈ runs, node.isLine = false

theorem flatMap_nodes_ofLines (nodes : List ListNode) :
    nodes.takeWhile (!·.isLine) ++ (ofLines nodes).flatMap Segment.nodes = nodes := by
  induction nodes with
  | nil => rfl
  | cons node rest ih =>
    cases node with
    | run marker nodes => simpa [ofLines, ListNode.isLine] using ih
    | line sequence content => simpa [ofLines, ListNode.isLine] using ih

theorem flatMap_nodes_ofRun (marker : Char) (nodes : List ListNode) :
    (ofRun marker nodes).flatMap Segment.nodes = nodes := by
  have hlines := flatMap_nodes_ofLines nodes
  unfold ofRun
  split
  · simp
  · rename_i first later h
    rw [h, List.flatMap_cons, ← List.append_assoc] at hlines
    rw [List.flatMap_cons, hlines]

theorem length_ofLines (nodes : List ListNode) :
    (ofLines nodes).length = nodes.countP ListNode.isLine := by
  induction nodes with
  | nil => rfl
  | cons node rest ih =>
    cases node with
    | run marker nodes => simpa [ofLines, ListNode.isLine] using ih
    | line sequence content => simpa [ofLines, List.countP_cons, ListNode.isLine] using ih

theorem length_ofRun (marker : Char) (nodes : List ListNode) :
    (ofRun marker nodes).length = max 1 (nodes.countP ListNode.isLine) := by
  rw [← length_ofLines]
  unfold ofRun
  split
  · rename_i h
    simp [h]
  · rename_i first later h
    simp only [h, List.length_cons]
    omega

theorem ofLine_of_mem {nodes : List ListNode} {s : Segment} (h : s ∈ ofLines nodes) :
    s.OfLine := by
  induction nodes with
  | nil => cases h
  | cons node rest ih =>
    cases node with
    | run marker nodes => exact ih h
    | line sequence content =>
      rcases List.mem_cons.1 h with rfl | h
      · refine ⟨sequence, content, _, rfl, fun node hnode ↦ ?_⟩
        simpa using List.mem_takeWhile_imp hnode
      · exact ih h

theorem exists_first_later (marker : Char) (nodes : List ListNode) :
    ∃ first later, ofRun marker nodes = first :: later ∧ first.marker = marker ∧
      ∀ s ∈ later, s.OfLine := by
  unfold ofRun
  split
  · exact ⟨_, [], rfl, rfl, nofun⟩
  · rename_i first later h
    exact ⟨_, later, rfl, rfl, fun s hs ↦ ofLine_of_mem (h ▸ List.mem_cons_of_mem first hs)⟩

end Segment

namespace Rendering

variable (inner : List Token → Rendering) (parameters : Attributes)

def ofSegment (tell : ListNode → Rendering) (s : Segment) : Rendering :=
  between [(Block.item s.marker).start ∅] [(Block.item s.marker).stop] (join (s.nodes.map tell))

variable {inner parameters} in
theorem items_cons_run (current : Char) (used : Bool) (marker : Char) (nodes rest : List ListNode) :
    items inner parameters current used (.run marker nodes :: rest) =
      run inner parameters marker nodes ++ items inner parameters current used rest := by
  rw [items]
  rfl

/-- Where a line has gone into the open item, runs follow in it and every line has an item of its
own. -/
theorem items_used (current : Char) (nodes : List ListNode) :
    items inner parameters current true nodes =
      join ((nodes.takeWhile (!·.isLine)).map (line inner parameters)) ++
        (ofEvents [(Block.item current).stop] ++
          join ((Segment.ofLines nodes).map (ofSegment (line inner parameters)))) := by
  induction nodes generalizing current with
  | nil => simp [items, Segment.ofLines]
  | cons node rest ih =>
    cases node with
    | run marker nodes =>
      simp only [items_cons_run, ih, ListNode.isLine, Bool.not_false, List.takeWhile_cons_of_pos,
        List.map_cons, join_cons, line, append_assoc, Segment.ofLines]
    | line sequence content =>
      simp only [items, if_true, ih, ListNode.isLine, Bool.not_true, List.takeWhile_cons_of_neg,
        Bool.false_eq_true, not_false_eq_true, List.map_nil, join_nil, empty_append,
        Segment.ofLines, List.map_cons, join_cons, ofSegment, line, between, append_assoc,
        ofEvents_cons_cons]

/-- As long as no line has gone into the open item, it is the first one of the run. -/
theorem items_unused (current : Char) (nodes : List ListNode) :
    ∃ first later, Segment.ofRun current nodes = first :: later ∧ first.marker = current ∧
      items inner parameters current false nodes =
        join (first.nodes.map (line inner parameters)) ++
          (ofEvents [(Block.item current).stop] ++
            join (later.map (ofSegment (line inner parameters)))) := by
  induction nodes with
  | nil => exact ⟨⟨current, []⟩, [], rfl, rfl, by simp [items]⟩
  | cons node rest ih =>
    cases node with
    | run marker nodes =>
      obtain ⟨first, later, hrun, -, hitems⟩ := ih
      refine ⟨_, later, Segment.ofRun_cons_run hrun marker nodes, rfl, ?_⟩
      simp only [items_cons_run, hitems, List.map_cons, join_cons, line, append_assoc]
    | line sequence content =>
      refine ⟨_, _, Segment.ofRun_cons_line current sequence content rest, rfl, ?_⟩
      simp only [items, Bool.false_eq_true, if_false, items_used, List.map_cons, join_cons, line,
        append_assoc]

theorem run_eq_between (marker : Char) (nodes : List ListNode) :
    run inner parameters marker nodes =
      between [(Block.container marker).start parameters] [(Block.container marker).stop]
        (join ((Segment.ofRun marker nodes).map (ofSegment (line inner parameters)))) := by
  obtain ⟨first, later, hrun, hmarker, hitems⟩ := items_unused inner parameters marker nodes
  simp only [run, hrun, hitems, List.map_cons, join_cons, ofSegment, hmarker, between, append_assoc,
    ofEvents_cons_cons]

end Rendering

namespace Converter

open Walk Rendering

variable (c : Converter) (parameters : Attributes)

def toldNode (d : Nat) (node : ListNode) : Rendering := (c.visitLines parameters [node]).told d

theorem toldNode_eq (d : Nat) (node : ListNode) :
    c.toldNode parameters d node = line (c.renderBelow d) parameters node := by
  rw [toldNode, (c.visitLines_tells parameters [node]).told_eq d, lines_cons]
  exact append_empty _

/-- A list tells its nodes one after the other, and a line outside of a run is only what is in it. A
run is a container around items and nothing else, one for each of the segments that its nodes make
when they are cut in front of every line but the first: the first item for the marker of the run,
and any other for the last marker of its line. In an item, the content of the line and the runs are
told in their order. -/
theorem lists_by_segments :
    (∀ (nodes : List ListNode) (s : Traversal), (c.visitLines parameters nodes).run s =
      ((), s.extend (join (nodes.map (c.toldNode parameters s.depth))))) ∧
    (∀ (d : Nat) (sequence : String) (content : List Token),
      c.toldNode parameters d (.line sequence content) = (c.traverse content).told d) ∧
    ∀ (marker : Char) (nodes : List ListNode),
      (∀ d, c.toldNode parameters d (.run marker nodes) =
        between [(Block.container marker).start parameters] [(Block.container marker).stop]
          (join ((Segment.ofRun marker nodes).map (ofSegment (c.toldNode parameters d))))) ∧
      (Segment.ofRun marker nodes).flatMap Segment.nodes = nodes ∧
      (∃ first later, Segment.ofRun marker nodes = first :: later ∧ first.marker = marker ∧
        ∀ s ∈ later, s.OfLine) ∧
      (Segment.ofRun marker nodes).length = max 1 (nodes.countP ListNode.isLine) := by
  have htold (d : Nat) : c.toldNode parameters d = line (c.renderBelow d) parameters :=
    funext (c.toldNode_eq parameters d)
  refine ⟨fun nodes s ↦ ?_, fun d sequence content ↦ ?_, fun marker nodes ↦
    ⟨fun d ↦ ?_, Segment.flatMap_nodes_ofRun marker nodes, ?_, Segment.length_ofRun marker nodes⟩⟩
  · rw [htold]
    exact c.visitLines_tells parameters nodes s
  · rw [htold, (c.traverse_tells content).told_eq]
    rfl
  · rw [htold]
    exact run_eq_between (c.renderBelow d) parameters marker nodes
  · exact Segment.exists_first_later marker nodes

/-- A run in front of all lines goes with the first of them, which has no item of its own. -/
example : (Segment.ofRun ';' [.run '*' [], .line ":" [], .line "::" [], .run '#' [],
    .line "" []]).map (fun s ↦ (s.marker, s.nodes.length)) = [(';', 2), (':', 2), ('*', 1)] := by
  decide +kernel

end Converter

end WikiStream
