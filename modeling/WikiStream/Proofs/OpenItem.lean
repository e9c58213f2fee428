import WikiStream.Proofs.Nesting
import WikiStream.Proofs.Segments

namespace WikiStream

namespace Event

/-- The constructs that are open after a stream, innermost first, where `pending` are open before
it. -/
def unclosed (pending : List Opening) : List Event → List Opening
  | [] => pending
  | .opening o :: rest => unclosed (o :: pending) rest
  | .closing _ :: rest => unclosed pending.tail rest
  | .single _ :: rest => unclosed pending rest

theorem unclosed_append (pending : List Opening) (a b : List Event) :
    unclosed pending (a ++ b) = unclosed (unclosed pending a) b := by
  fun_induction unclosed pending a with
  | case1 => rfl
  | case2 pending o rest ih => exact ih
  | case3 pending k rest ih => exact ih
  | case4 pending s rest ih => exact ih

theorem Balanced.unclosed_eq {a : List Event} (h : Balanced a) (pending : List Opening) :
    unclosed pending a = pending := by
  induction h generalizing pending with
  | nil => rfl
  | single s _ ih => exact ih pending
  | pair o _ _ ihi ihr =>
    rw [unclosed, unclosed_append, ihi, unclosed, List.tail_cons, ihr]

end Event

namespace ListNode

/-- Where a node stands: in the list itself, or in a run that stands somewhere in it. -/
inductive Place
  | inList (before after : List ListNode)
  | inRun (outer : Place) (marker : Char) (before after : List ListNode)

def Place.fill : Place → ListNode → List ListNode
  | inList before after, node => before ++ node :: after
  | inRun outer marker before after, node => outer.fill (.run marker (before ++ node :: after))

end ListNode

theorem Block.opening_inj {parameters : Attributes} {b b' : Block} :
    b.opening parameters = b'.opening parameters ↔ b = b' := by
  cases b <;> cases b' <;> simp [Block.opening]

namespace Rendering

open Event

variable {inner : List Token → Rendering} {parameters : Attributes}

theorem lines_append (nodes rest : List ListNode) :
    lines inner parameters (nodes ++ rest) =
      lines inner parameters nodes ++ lines inner parameters rest := by
  simp only [lines, List.map_append, join_append]

def lineMarker (sequence : String) (current : Char) (used : Bool) : Char :=
  if used then Converter.itemMarker sequence else current

/-- What a run tells right before a line. -/
def turnTo (sequence : String) (current : Char) (used : Bool) : List Event :=
  if used then [(Block.item current).stop, (Block.item (Converter.itemMarker sequence)).start ∅]
  else []

theorem items_cons_line (current : Char) (used : Bool) (sequence : String) (content : List Token)
    (rest : List ListNode) :
    items inner parameters current used (.line sequence content :: rest) =
      ofEvents (turnTo sequence current used) ++
        (inner content ++ items inner parameters (lineMarker sequence current used) true rest) := by
  cases used with
  | false =>
    rw [items]
    exact (empty_append _).symm
  | true =>
    rw [items]
    rfl

theorem unclosed_turnTo (sequence : String) (current : Char) (used : Bool)
    (pending : List Opening) :
    unclosed ((Block.item current).opening ∅ :: pending) (turnTo sequence current used) =
      (Block.item (lineMarker sequence current used)).opening ∅ :: pending := by
  cases used <;> rfl

section

-- Whatever is inside of the lines closes what it opens.
variable (parameters) (h : ∀ (tokens : List Token) (pending : List Opening),
  unclosed pending (inner tokens).events = pending)

include h

theorem unclosed_items (current : Char) (used : Bool) (nodes : List ListNode)
    (pending : List Opening) :
    unclosed ((Block.item current).opening ∅ :: pending)
      (items inner parameters current used nodes).events = pending := by
  fun_induction items inner parameters current used nodes generalizing pending with
  | case1 current used => rfl
  | case2 current used marker nodes rest ihn ihr =>
    have hopen (pending : List Opening) :
        unclosed pending [(Block.container marker).start parameters, (Block.item marker).start ∅] =
          (Block.item marker).opening ∅ :: (Block.container marker).opening parameters ::
            pending := rfl
    rw [events_append, events_between, unclosed_append, unclosed_append, unclosed_append, hopen,
      ihn]
    exact ihr pending
  | case3 current sequence tokens rest ih =>
    rw [events_append, events_append, unclosed_append, unclosed_append, h]
    exact ih pending
  | case4 current used sequence tokens rest hu ih =>
    rw [events_append, unclosed_append, h]
    exact ih pending

theorem unclosed_run (marker : Char) (nodes : List ListNode) (pending : List Opening) :
    unclosed pending (run inner parameters marker nodes).events = pending := by
  have hitems := unclosed_items parameters h marker false nodes
  rw [run, events_between, unclosed_append, unclosed_append]
  exact congrArg List.tail (hitems ((Block.container marker).opening parameters :: pending))

/-- Whatever nodes come first, an item is open when the rest is come to, and it is still the same
one as long as no line has gone into it. -/
theorem exists_items_append (current : Char) (used : Bool) (before : List ListNode) :
    ∃ (told : Rendering) (reached : Char),
      (∀ rest, items inner parameters current used (before ++ rest) =
        told ++ items inner parameters reached (used || before.any ListNode.isLine) rest) ∧
      (∀ pending, unclosed ((Block.item current).opening ∅ :: pending) told.events =
        (Block.item reached).opening ∅ :: pending) ∧
      ((used || before.any ListNode.isLine) = false → reached = current) := by
  induction before generalizing current used with
  | nil =>
    refine ⟨∅, current, fun rest ↦ ?_, fun _ ↦ rfl, fun _ ↦ rfl⟩
    rw [List.any_nil, Bool.or_false, empty_append, List.nil_append]
  | cons node before ih =>
    cases node with
    | run marker nodes =>
      obtain ⟨told, reached, hitems, hopen, hreached⟩ := ih current used
      refine ⟨run inner parameters marker nodes ++ told, reached, fun rest ↦ ?_, fun pending ↦ ?_,
        hreached⟩
      · rw [List.cons_append, items_cons_run, hitems, append_assoc]
        rfl
      · rw [events_append, unclosed_append, unclosed_run parameters h, hopen]
    | line sequence content =>
      have hused :
          (used || (ListNode.line sequence content :: before).any ListNode.isLine) = true :=
        Bool.or_true used
      obtain ⟨told, reached, hitems, hopen, -⟩ := ih (lineMarker sequence current used) true
      rw [hused]
      refine ⟨ofEvents (turnTo sequence current used) ++ (inner content ++ told), reached,
        fun rest ↦ ?_, fun pending ↦ ?_, nofun⟩
      · simp only [List.cons_append, items_cons_line, hitems, Bool.true_or, append_assoc]
      · rw [events_append, events_append, unclosed_append, unclosed_append, events_ofEvents,
          unclosed_turnTo, h, hopen]

theorem exists_run_append (marker : Char) (before : List ListNode) :
    ∃ (told : Rendering) (reached : Char),
      (∀ rest, run inner parameters marker (before ++ rest) =
        told ++ (items inner parameters reached (before.any ListNode.isLine) rest ++
          ofEvents [(Block.container marker).stop])) ∧
      (∀ pending, unclosed pending told.events = (Block.item reached).opening ∅ ::
        (Block.container marker).opening parameters :: pending) ∧
      (before.any ListNode.isLine = false → reached = marker) := by
  obtain ⟨told, reached, hitems, hopen, hreached⟩ :=
    exists_items_append parameters h marker false before
  rw [Bool.false_or] at hreached
  refine ⟨ofEvents [(Block.container marker).start parameters, (Block.item marker).start ∅] ++ told,
    reached, fun rest ↦ ?_, fun pending ↦ ?_, hreached⟩
  · simp only [run, between, hitems, Bool.false_or, append_assoc]
  · rw [events_append, unclosed_append]
    exact hopen _

theorem exists_run_line (marker : Char) (before after : List ListNode) (sequence : String) :
    ∃ entered left : Rendering,
      (∀ content, run inner parameters marker (before ++ .line sequence content :: after) =
        entered ++ (inner content ++ left)) ∧
      ∀ pending, unclosed pending entered.events =
        (Block.item (lineMarker sequence marker (before.any ListNode.isLine))).opening ∅ ::
          (Block.container marker).opening parameters :: pending := by
  obtain ⟨told, reached, hrun, hopen, hreached⟩ :=
    exists_run_append parameters h marker before
  have hmarker : lineMarker sequence reached (before.any ListNode.isLine) =
      lineMarker sequence marker (before.any ListNode.isLine) := by
    cases hany : before.any ListNode.isLine with
    | false => exact hreached hany
    | true => rfl
  refine ⟨told ++ ofEvents (turnTo sequence reached (before.any ListNode.isLine)),
    items inner parameters (lineMarker sequence marker (before.any ListNode.isLine)) true after ++
      ofEvents [(Block.container marker).stop], fun content ↦ ?_, fun pending ↦ ?_⟩
  · simp only [hrun, items_cons_line, hmarker, append_assoc]
  · rw [events_append, unclosed_append, hopen, events_ofEvents, unclosed_turnTo, hmarker]

theorem exists_fill_run (place : ListNode.Place) :
    ∃ entered left : Rendering, ∀ marker nodes,
      lines inner parameters (place.fill (.run marker nodes)) =
        entered ++ (run inner parameters marker nodes ++ left) := by
  induction place with
  | inList before after =>
    refine ⟨lines inner parameters before, lines inner parameters after, fun marker nodes ↦ ?_⟩
    rw [ListNode.Place.fill, lines_append, lines_cons]
    rfl
  | inRun outer marker before after ih =>
    obtain ⟨entered, left, hlines⟩ := ih
    obtain ⟨told, reached, hrun, -, -⟩ := exists_run_append parameters h marker before
    refine ⟨entered ++ told, items inner parameters reached (before.any ListNode.isLine) after ++
      (ofEvents [(Block.container marker).stop] ++ left), fun inside nodes ↦ ?_⟩
    simp only [ListNode.Place.fill, hlines, hrun, items_cons_run, append_assoc]

end

end Rendering

namespace Converter

open Event Rendering

variable (c : Converter) (parameters : Attributes)

/-- Wherever in a list a run stands, and whatever nodes are before and after a line in it: what is
told before and after the content of the line is the same for every content, and when the content is
come to, the innermost construct that is open is an item. It is the one for the last marker of the
line, unless the line is the first one of its run. The first line is in the item for the marker of
the run, so that it has its own item only where both markers stand for the same one. -/
theorem innermost_item_iff (outer : ListNode.Place) (marker : Char) (before after : List ListNode)
    (sequence : String) (s : Traversal) :
    ∃ entered left : Rendering,
      (∀ content, (c.visitLines parameters
        ((ListNode.Place.inRun outer marker before after).fill (.line sequence content))).run s =
          ((), s.extend (entered ++ ((c.traverse content).told s.depth ++ left)))) ∧
      (unclosed [] (s.events.toList ++ entered.events)).head? = some ((Block.item
        (if before.any ListNode.isLine then itemMarker sequence else marker)).opening ∅) ∧
      ((unclosed [] (s.events.toList ++ entered.events)).head? =
          some ((Block.item (itemMarker sequence)).opening ∅) ↔
        before.any ListNode.isLine ∨ Block.item marker = Block.item (itemMarker sequence)) := by
  have hinner (tokens : List Token) (pending : List Opening) :
      unclosed pending (c.renderBelow s.depth tokens).events = pending := by
    obtain ⟨n, hn⟩ := c.exists_nested_render (c.options.maxDepth.toNat - s.depth) tokens
    exact hn.balanced.unclosed_eq pending
  obtain ⟨outside, beyond, hlist⟩ := exists_fill_run parameters hinner outer
  obtain ⟨entered, left, hrun, hopen⟩ :=
    exists_run_line parameters hinner marker before after sequence
  have hinnermost : (unclosed [] (s.events.toList ++ (outside ++ entered).events)).head? =
      some ((Block.item (lineMarker sequence marker (before.any ListNode.isLine))).opening ∅) := by
    rw [events_append, unclosed_append, unclosed_append, hopen, List.head?_cons]
  refine ⟨outside ++ entered, left ++ beyond, fun content ↦ ?_, hinnermost, ?_⟩
  · have htold : (c.traverse content).told s.depth = c.renderBelow s.depth content :=
      (c.traverse_tells content).told_eq s.depth
    simp only [c.visitLines_tells parameters _ s, ListNode.Place.fill, hlist, hrun, htold,
      append_assoc]
  · rw [hinnermost, Option.some.injEq, Block.opening_inj, lineMarker]
    split <;> simp_all

/-- A run of terms that begins with a description: the description is told in a term. -/
theorem first_description_in_term :
    ¬∃ entered left : Rendering,
      (∀ content, (({} : Converter).visitLines ∅
        ((ListNode.Place.inRun (.inList [] []) ';' [] []).fill (.line ":" content))).run {} =
          ((), Traversal.extend {}
            (entered ++ ((({} : Converter).traverse content).told 0 ++ left)))) ∧
      (unclosed [] entered.events).head? = some ((Block.item (itemMarker ":")).opening ∅) := by
  rintro ⟨entered, left, htold, hinnermost⟩
  have hrun : ((({} : Converter).visitLines ∅
      [.run ';' [.line ":" [.content "x"]]]).run {}).2.events.toList =
        [.opening (.definitionList ∅), .opening .definitionTerm, .single (.text (.word "x")),
          .closing .definitionTerm, .closing .definitionList] := by decide +kernel
  have hword : ((({} : Converter).traverse [.content "x"]).told 0).events =
      [.single (.text (.word "x"))] := by decide +kernel
  have hevents := congrArg (fun r ↦ r.2.events.toList) (htold [.content "x"])
  simp only [ListNode.Place.fill, List.nil_append, hrun, Traversal.events_extend,
    Array.toList_appendList, events_append, hword] at hevents
  -- The word is told once, so there is one way to cut the events in front of it.
  generalize entered.events = e, left.events = l at hevents hinnermost
  rcases e with _ | ⟨a, _ | ⟨b, _ | ⟨d, e⟩⟩⟩
  · simp at hevents
  · simp at hevents
  · simp only [List.cons_append, List.nil_append, List.cons.injEq] at hevents
    obtain ⟨rfl, rfl, -⟩ := hevents
    cases hinnermost
  · have hmem : Event.single (.text (.word "x")) ∈
        [Event.closing .definitionTerm, .closing .definitionList] := by
      simp only [List.nil_append, List.cons_append, List.cons.injEq] at hevents
      rw [hevents.2.2.2]
      simp
    simp at hmem

end Converter

end WikiStream
