import WikiStream.Proofs.Texts
import WikiStream.Proofs.Traversal

namespace WikiStream

namespace Token

/-- The change of texts makes no difference between a text and what is left of it after a cut. -/
def IgnoresPadding (f : String → String) : Prop :=
  ∀ (edge : Edge) (text : String), f (edge.cut text) = f text

variable {f : String → String}

theorem mapTexts_trimAt (hf : IgnoresPadding f) (edge : Edge) (token : Token) :
    mapTexts f (trimAt edge token) = mapTexts f token := by
  cases token with
  | content text => simp only [trimAt, mapTexts, hf edge text]
  | tag t => rfl

theorem mapTextsAll_trimEdges (hf : IgnoresPadding f) (tokens : List Token) :
    mapTextsAll f (trimEdges tokens) = mapTextsAll f tokens := by
  rw [mapTextsAll_eq_map, mapTextsAll_eq_map, map_trimEdges (mapTexts_trimAt hf)]

mutual

theorem mapTexts_trim (hf : IgnoresPadding f) (token : Token) :
    mapTexts f (trim token) = mapTexts f token := by
  match token with
  | .content _ => rfl
  | .tag ⟨_, _, children, _, shape, _⟩ =>
    have hc := mapTextsAll_trimAll hf children
    have hs := mapTextsShape_trimShape hf shape
    simp only [trim, mapTexts, mapTextsAll_trimEdges hf, hc, hs]

theorem mapTextsAll_trimAll (hf : IgnoresPadding f) (tokens : List Token) :
    mapTextsAll f (trimAll tokens) = mapTextsAll f tokens := by
  match tokens with
  | [] => rfl
  | token :: rest =>
    have ht := mapTexts_trim hf token
    have hr := mapTextsAll_trimAll hf rest
    simp only [trimAll, mapTextsAll, ht, hr]

theorem mapTextsShape_trimShape (hf : IgnoresPadding f) (shape : Shape) :
    mapTextsShape f (trimShape shape) = mapTextsShape f shape := by
  match shape with
  | .list nodes =>
    have hn := mapTextsNodes_trimNodes hf nodes
    simp only [trimShape, mapTextsShape, hn]
  | .table ⟨_, rows⟩ =>
    have hr := mapTextsRows_trimRows hf rows
    simp only [trimShape, mapTextsShape, hr]
  | .element | .opaqueBody | .tableOfContents _ _ | .template | .macroCall _ | .link _ | .file _ =>
    rfl

theorem mapTextsNodes_trimNodes (hf : IgnoresPadding f) (nodes : List ListNode) :
    mapTextsNodes f (trimNodes nodes) = mapTextsNodes f nodes := by
  match nodes with
  | [] => rfl
  | .run _ nodes :: rest =>
    have hn := mapTextsNodes_trimNodes hf nodes
    have hr := mapTextsNodes_trimNodes hf rest
    simp only [trimNodes, mapTextsNodes, hn, hr]
  | .line _ tokens :: rest =>
    have ht := mapTextsAll_trimAll hf tokens
    have hr := mapTextsNodes_trimNodes hf rest
    simp only [trimNodes, mapTextsNodes, mapTextsAll_trimEdges hf, ht, hr]

theorem mapTextsRows_trimRows (hf : IgnoresPadding f) (rows : List Row) :
    mapTextsRows f (trimRows rows) = mapTextsRows f rows := by
  match rows with
  | [] => rfl
  | ⟨_, cells⟩ :: rest =>
    have hc := mapTextsCells_trimCells hf cells
    have hr := mapTextsRows_trimRows hf rest
    simp only [trimRows, mapTextsRows, hc, hr]

theorem mapTextsCells_trimCells (hf : IgnoresPadding f) (cells : List Cell) :
    mapTextsCells f (trimCells cells) = mapTextsCells f cells := by
  match cells with
  | [] => rfl
  | ⟨_, _, tokens⟩ :: rest =>
    have ht := mapTextsAll_trimAll hf tokens
    have hr := mapTextsCells_trimCells hf rest
    simp only [trimCells, mapTextsCells, mapTextsAll_trimEdges hf, ht, hr]

end

abbrev emptied : String → String := fun _ ↦ ""

def skeleton (tokens : List Token) : List Token := mapTextsAll emptied tokens

theorem skeleton_trimAll (tokens : List Token) : skeleton (trimAll tokens) = skeleton tokens :=
  mapTextsAll_trimAll (fun _ _ ↦ rfl) tokens

end Token

namespace Event

def isText : Event → Bool
  | .single (.text _) => true
  | _ => false

def withoutTexts (events : List Event) : List Event := events.filter (!·.isText)

theorem withoutTexts_append (events rest : List Event) :
    withoutTexts (events ++ rest) = withoutTexts events ++ withoutTexts rest :=
  List.filter_append ..

end Event

namespace Rendering

/-- The same but for pieces of text, and for texts that have been left out. -/
structure SameStructure (a b : Rendering) : Prop where
  events : Event.withoutTexts a.events = Event.withoutTexts b.events
  truncated : a.report.truncated = b.report.truncated

theorem congruence_sameStructure : Congruence SameStructure where
  refl _ := ⟨rfl, rfl⟩
  append h h' := by
    refine ⟨?_, ?_⟩
    · simp only [events_append, Event.withoutTexts_append, h.events, h'.events]
    · simp only [truncated_append, h.truncated, h'.truncated]

theorem withoutTexts_ofText (parse : Inline.Parser) (text : String) :
    Event.withoutTexts (ofText parse text).events = [] := by
  apply List.filter_eq_nil_iff.2
  intro e he
  obtain ⟨piece, rfl⟩ := exists_of_mem_ofText he
  exact Bool.false_ne_true

theorem sameStructure_ofText (parse : Inline.Parser) (text text' : String) :
    SameStructure (ofText parse text) (ofText parse text') := by
  refine ⟨?_, ?_⟩
  · rw [withoutTexts_ofText, withoutTexts_ofText]
  · rw [truncated_ofText, truncated_ofText]

end Rendering

namespace Converter

open Rendering Token

variable (c : Converter)

theorem sameStructure_skeleton (tokens : List Token) :
    SameStructure (c.fragment tokens) (c.render c.options.maxDepth.toNat (skeleton tokens)) := by
  rw [fragment_eq, ← skeleton_trimAll tokens]
  apply render_mapTextsAll congruence_sameStructure (fun _ ↦ rfl)
  intro text
  exact sameStructure_ofText c.inline text ""

/-- Trees that are equal but for their texts have streams that are equal but for the pieces of text,
and as many lists of tokens are left out of both. -/
theorem texts_change_no_structure {xs ys : List Token} (h : skeleton xs = skeleton ys) :
    SameStructure (c.fragment xs) (c.fragment ys) ∧
      SameStructure (c.document xs) (c.document ys) := by
  have hx := c.sameStructure_skeleton xs
  have hy := c.sameStructure_skeleton ys
  rw [← h] at hy
  have hfragment : SameStructure (c.fragment xs) (c.fragment ys) :=
    ⟨hx.events.trans hy.events.symm, hx.truncated.trans hy.truncated.symm⟩
  refine ⟨hfragment, ?_⟩
  rw [document_eq, document_eq]
  exact congruence_sameStructure.between hfragment _ _

/-- Markup in a text, and a text that the tokenizer refuses. -/
theorem texts_change_no_structure_paragraph :
    let c : Converter :=
      { inline := Inline.refusing fun text ↦ if text = "never" then some "refused" else none }
    let xs : List Token :=
      [.content "== a ==", .tag ((Tag.named "p").withText "\n*&lt;b&gt;[[c]]&#10; ")]
    let ys : List Token := [.content "", .tag ((Tag.named "p").withText "  never")]
    skeleton xs = skeleton ys ∧ SameStructure (c.fragment xs) (c.fragment ys) ∧
      SameStructure (c.document xs) (c.document ys) ∧
      Event.withoutTexts (c.document xs).events =
        [.opening .document, .opening (.paragraph ∅), .closing .paragraph, .closing .document] ∧
      (c.document xs).events.length = 21 ∧ (c.document ys).events.length = 4 ∧
      (c.document ys).report = { skipped := 1 } := by
  intro c xs ys
  have h : skeleton xs = skeleton ys := rfl
  obtain ⟨hfragment, hdocument⟩ := texts_change_no_structure c h
  refine ⟨h, hfragment, hdocument, ?_, ?_, ?_, ?_⟩
  all_goals decide +kernel

end Converter

end WikiStream
