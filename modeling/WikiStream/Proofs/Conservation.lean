import Mathlib.Data.List.Basic
import WikiStream.Proofs.Ceiling
import WikiStream.Proofs.Tags

namespace WikiStream

open Event Rendering

namespace Event

def pieces (events : List Event) : List Inline :=
  events.filterMap fun
    | .single (.text piece) => some piece
    | _ => none

variable (events rest : List Event)

@[simp] theorem pieces_nil : pieces [] = [] := rfl

@[simp] theorem pieces_append : pieces (events ++ rest) = pieces events ++ pieces rest :=
  List.filterMap_append

@[simp] theorem pieces_opening (o : Opening) : pieces (.opening o :: rest) = pieces rest := rfl

@[simp] theorem pieces_closing (k : Construct) : pieces (.closing k :: rest) = pieces rest := rfl

theorem pieces_eq_nil_iff {events : List Event} :
    pieces events = [] ↔ ∀ e ∈ events, pieces [e] = [] := by
  simp only [pieces, List.filterMap_eq_nil_iff, List.mem_singleton, forall_eq]

theorem pieces_texts (told : List Inline) :
    pieces (told.map fun p ↦ .single (.text p)) = told := by
  induction told with
  | nil => rfl
  | cons p told ih => exact congrArg (p :: ·) ih

end Event

/-- Whether the rule shows every text that is in a tag. A header does unless it starts with an
anchor, in whose place it shows what is in the anchor. -/
def Rule.showsTexts (t : Tag) : Rule → Bool
  | .block _ _ | .paragraph | .boldItalic | .font | .anchorLink | .wikiLink | .unknown
  | .wikiList | .wikiTable => true
  | .header _ => (Plan.leadingAnchor? t.children).isNone
  | _ => false

namespace Tag

theorem leadingAnchor?_trimEdges (tokens : List Token) :
    Plan.leadingAnchor? (Token.trimEdges (Token.trimAll tokens)) = Plan.leadingAnchor? tokens := by
  have hlast (l : List Token) : Plan.leadingAnchor? (Token.trimLast l) = Plan.leadingAnchor? l := by
    fun_cases Token.trimLast l with
    | case1 | case2 => rfl
    | case3 token rest => cases token <;> rfl
  rw [Token.trimEdges, hlast]
  cases tokens with
  | nil => rfl
  | cons token rest =>
    cases token with
    | content text =>
      simp only [Token.trimAll, Token.trim, Token.trimFirst, Plan.leadingAnchor?]
    | tag t =>
      simp only [Token.trimAll, Token.trim_tag, Token.trimFirst, Plan.leadingAnchor?]
      rfl

theorem showsTexts_trimmed (t : Tag) (r : Rule) : r.showsTexts t.trimmed = r.showsTexts t := by
  cases r with
  | header level => simp only [Rule.showsTexts, trimmed, leadingAnchor?_trimEdges]
  | _ => rfl

end Tag

namespace Converter

variable (c : Converter)

mutual

def textsOf : Token → List String
  | .content text => [text]
  | .tag t => textsIn (c.ruleFor t) t

/-- The texts in a tag. Those of a list are in its lines and those of a table in its cells, if its
rule is the one for them; those of other tags are in their children. -/
def textsIn : Rule → Tag → List String
  | .wikiList, ⟨_, _, _, _, .list nodes, _⟩ => textsOfNodes nodes
  | .wikiTable, ⟨_, _, _, _, .table ⟨_, rows⟩, _⟩ => textsOfRows rows
  | _, ⟨_, _, children, _, _, _⟩ => texts children

def texts : List Token → List String
  | [] => []
  | token :: rest => textsOf token ++ texts rest

def textsOfNodes : List ListNode → List String
  | [] => []
  | .run _ nodes :: rest => textsOfNodes nodes ++ textsOfNodes rest
  | .line _ tokens :: rest => texts tokens ++ textsOfNodes rest

def textsOfRows : List Row → List String
  | [] => []
  | ⟨_, cells⟩ :: rest => textsOfCells cells ++ textsOfRows rest

def textsOfCells : List Cell → List String
  | [] => []
  | ⟨_, _, tokens⟩ :: rest => texts tokens ++ textsOfCells rest

end

theorem textsOfNodes_eq (nodes : List ListNode) :
    c.textsOfNodes nodes = (contents nodes).flatMap c.texts := by
  fun_induction contents nodes with
  | case1 => rfl
  | case2 marker nodes rest ihn ihr => simp only [textsOfNodes, ihn, ihr, List.flatMap_append]
  | case3 sequence tokens rest ih => simp only [textsOfNodes, ih, List.flatMap_cons]

theorem textsOfCells_eq (cells : List Cell) :
    c.textsOfCells cells = (cells.map Cell.content).flatMap c.texts := by
  induction cells with
  | nil => rfl
  | cons cell rest ih =>
    obtain ⟨kind, attributes, tokens⟩ := cell
    simp only [textsOfCells, ih, List.map_cons, List.flatMap_cons]

theorem textsOfRows_eq (rows : List Row) :
    c.textsOfRows rows = (rows.flatMap rowContents).flatMap c.texts := by
  induction rows with
  | nil => rfl
  | cons row rest ih =>
    obtain ⟨attributes, cells⟩ := row
    simp only [textsOfRows, textsOfCells_eq, ih, List.flatMap_cons, List.flatMap_append,
      rowContents]

end Converter

/-- No event that the plan writes itself is a piece of text. -/
def Plan.Quiet : Plan → Prop
  | .leaf events => pieces events = []
  | .around first last | .hoist first last => pieces first = [] ∧ pieces last = []
  | .lines _ | .rows => True

theorem Plan.Quiet.writes {plan : Plan} (h : plan.Quiet) : plan.Writes fun e ↦ pieces [e] = [] := by
  cases plan with
  | leaf events => exact pieces_eq_nil_iff.1 h
  | around first last | hoist first last =>
    exact ⟨pieces_eq_nil_iff.1 h.1, pieces_eq_nil_iff.1 h.2⟩
  | lines parameters | rows => trivial

namespace Rendering

variable (inner : List Token → Rendering)

abbrev piecesIn (lists : List (List Token)) : List Inline :=
  lists.flatMap fun tokens ↦ pieces (inner tokens).events

variable {inner} in
theorem eq_zero_of_lostIn {lists : List (List Token)} (h : lostIn inner lists = 0)
    {tokens : List Token} (ht : tokens ∈ lists) : (inner tokens).report.truncated = 0 := by
  induction lists with
  | nil => cases ht
  | cons l lists ih =>
    rw [lostIn_cons, Nat.add_eq_zero_iff] at h
    obtain rfl | ht := List.mem_cons.1 ht
    · exact h.1
    · exact ih h.2 ht

theorem pieces_assemble {portions : List Portion}
    (h : ∀ e ∈ Portion.owns portions, pieces [e] = []) :
    pieces (assemble inner portions).events = piecesIn inner (Portion.insides portions) := by
  induction portions with
  | nil => rfl
  | cons portion portions ih =>
    cases portion with
    | own events =>
      rw [Portion.owns_own, List.forall_mem_append] at h
      rw [assemble_cons, events_append, pieces_append, ih h.2, Portion.insides_own]
      exact congrArg (· ++ _) (pieces_eq_nil_iff.2 h.1)
    | inside tokens =>
      rw [Portion.owns_inside] at h
      rw [assemble_cons, events_append, pieces_append, ih h]
      rfl

theorem pieces_ofPlan {plan : Plan} (hq : plan.Quiet) (t : Tag) :
    pieces (ofPlan inner plan t).events = piecesIn inner (planContents plan t) := by
  rw [← assemble_portions, ← Portion.insides_portions]
  refine pieces_assemble inner (Portion.owns_portions ?_ ?_ hq.writes t)
  · exact fun b parameters ↦ rfl
  · exact fun b ↦ rfl

end Rendering

namespace Plan

theorem quiet_linked (target : Option Reference) (freestanding : Bool) (parameters : Attributes) :
    (linked target freestanding parameters).Quiet := by
  cases target <;> exact ⟨rfl, rfl⟩

theorem quiet_unknown (keeps : Bool) (t : Tag) : (unknown keeps t).Quiet := by
  unfold unknown
  cases keeps <;> cases t.children <;> exact ⟨rfl, rfl⟩

theorem quiet_of_showsTexts {r : Rule} {t : Tag} (h : r.showsTexts t) (c : Converter) :
    (r.plan c t).Quiet := by
  cases r with
  | block b parameters => exact ⟨rfl, rfl⟩
  | paragraph =>
    simp only [Rule.plan, paragraph]
    split
    · rfl
    · exact ⟨rfl, rfl⟩
  | header level =>
    simp only [Rule.plan, header]
    split
    · rfl
    · split <;> exact ⟨rfl, rfl⟩
  | boldItalic | font => exact ⟨rfl, rfl⟩
  | anchorLink =>
    simp only [Rule.plan, anchorLink]
    split <;> exact quiet_linked _ _ _
  | wikiLink =>
    simp only [Rule.plan, wikiLink]
    split <;> exact quiet_linked _ _ _
  | unknown => exact quiet_unknown _ _
  | wikiList | wikiTable =>
    simp only [Rule.plan]
    split
    · trivial
    · exact ⟨rfl, rfl⟩
  | newLine | horizontalLine | image | verbatim inline | source | macroCall id inline | gallery
  | tableOfContents | template => cases h

end Plan

namespace Converter

variable (c : Converter)

theorem textsOf_tag {t : Tag} (h : (c.ruleFor t).showsTexts t) :
    c.textsOf (.tag t) = (c.contentsOf (.tag t)).flatMap c.texts := by
  obtain ⟨name, attributes, children, body, shape, context⟩ := t
  simp only [textsOf, contentsOf, planFor]
  generalize c.ruleFor _ = r at h ⊢
  have hchildren : c.texts children = [children].flatMap c.texts := (List.append_nil _).symm
  have hlinked (target : Option Reference) (freestanding : Bool) (parameters : Attributes) :
      c.texts children = (planContents (Plan.linked target freestanding parameters)
        ⟨name, attributes, children, body, shape, context⟩).flatMap c.texts := by
    cases target <;> exact hchildren
  cases r with
  | block b parameters => exact hchildren
  | paragraph =>
    cases children with
    | nil => rfl
    | cons token rest => exact hchildren
  | header level =>
    cases children with
    | nil => rfl
    | cons token rest =>
      have hnone : Plan.leadingAnchor? (token :: rest) = none := Option.isNone_iff_eq_none.1 h
      simp only [Rule.plan, Plan.header, hnone]
      exact hchildren
  | boldItalic | font | unknown => exact hchildren
  | anchorLink =>
    simp only [Rule.plan, Plan.anchorLink]
    split <;> exact hlinked _ _ _
  | wikiLink =>
    simp only [Rule.plan, Plan.wikiLink]
    split <;> exact hlinked _ _ _
  | wikiList =>
    cases shape with
    | list nodes => exact c.textsOfNodes_eq nodes
    | element | opaqueBody | table | tableOfContents | template | macroCall | link | file =>
      exact hchildren
  | wikiTable =>
    cases shape with
    | table table =>
      obtain ⟨_, rows⟩ := table
      exact c.textsOfRows_eq rows
    | element | opaqueBody | list | tableOfContents | template | macroCall | link | file =>
      exact hchildren
  | newLine | horizontalLine | image | verbatim inline | source | macroCall id inline | gallery
  | tableOfContents | template => cases h

theorem pieces_ofText (text : String) :
    pieces (ofText Inline.parsePlain text).events = Inline.plain (Text.normalize text) := by
  by_cases ht : Text.normalize text = ""
  · simp only [ofText, ht, if_true]
    rfl
  · simp only [ofText, ht, if_false, Inline.parsePlain, events_ofEvents, pieces_texts]

def plainPieces (tokens : List Token) : List Inline :=
  (c.texts tokens).flatMap fun text ↦ Inline.plain (Text.normalize text)

theorem plainPieces_cons (token : Token) (rest : List Token) :
    c.plainPieces (token :: rest) =
      ((c.textsOf token).flatMap fun text ↦ Inline.plain (Text.normalize text)) ++
        c.plainPieces rest := by
  simp only [plainPieces, texts, List.flatMap_append]

variable {c} {tokens : List Token}

theorem pieces_renderToken (hp : c.inline = Inline.parsePlain) {inner : List Token → Rendering}
    {token : Token} (ht : ∀ t ∈ Token.tagsOf token, (c.ruleFor t).showsTexts t)
    (hi : ∀ l ∈ c.contentsOf token, pieces (inner l).events = c.plainPieces l) :
    pieces (c.renderToken inner token).events =
      (c.textsOf token).flatMap fun text ↦ Inline.plain (Text.normalize text) := by
  match token with
  | .content text =>
    simp only [renderToken, hp, pieces_ofText, textsOf, List.flatMap_cons, List.flatMap_nil,
      List.append_nil]
  | .tag t =>
    have hshows : (c.ruleFor t).showsTexts t := by
      obtain ⟨name, attributes, children, body, shape, context⟩ := t
      exact ht _ (by simp only [Token.tagsOf, List.mem_cons, true_or])
    have hquiet : (c.planFor t).Quiet := Plan.quiet_of_showsTexts hshows c
    simp only [renderToken, pieces_ofPlan inner hquiet, c.textsOf_tag hshows, List.flatMap_assoc]
    exact List.flatMap_congr hi

theorem pieces_render (hp : c.inline = Inline.parsePlain) {room : Nat}
    (ht : ∀ t ∈ Token.tags tokens, (c.ruleFor t).showsTexts t)
    (hc : (c.render room tokens).report.truncated = 0) :
    pieces (c.render room tokens).events = c.plainPieces tokens := by
  induction room generalizing tokens with
  | zero =>
    cases tokens with
    | nil => rfl
    | cons token rest => cases hc
  | succ room ih =>
    rw [render_succ] at hc ⊢
    induction tokens with
    | nil => rfl
    | cons token rest ihr =>
      simp only [Token.tags, List.forall_mem_append] at ht
      simp only [List.map_cons, join_cons, truncated_append, truncated_renderToken,
        Nat.add_eq_zero_iff] at hc
      simp only [List.map_cons, join_cons, events_append, pieces_append, plainPieces_cons]
      refine congrArg₂ _ (pieces_renderToken hp ht.1 fun l hl ↦ ?_) (ihr ht.2 hc.2)
      -- What lies deeper has been told in full, as nothing has been left out.
      have hinside : ∀ t ∈ Token.tags l, (c.ruleFor t).showsTexts t :=
        fun t h ↦ ht.1 t (Token.mem_tagsOf_of_mem_contentsOf hl h)
      exact ih hinside (eq_zero_of_lostIn hc.1 hl)

/-- A stream that leaves no list of tokens out has the pieces of all texts of the trimmed tree, in
the order of the tree, where the tags have rules that show what is in them. -/
theorem texts_conserved (hp : c.inline = Inline.parsePlain)
    (ht : ∀ t ∈ Token.tags tokens, (c.ruleFor t).showsTexts t)
    (hc : (c.document tokens).report.truncated = 0) :
    let told := (c.texts (Token.trimAll tokens)).flatMap
      fun text ↦ Inline.plain (Text.normalize text)
    pieces (c.document tokens).events = told ∧ pieces (c.fragment tokens).events = told := by
  have htrimmed : ∀ t ∈ Token.tags (Token.trimAll tokens), (c.ruleFor t).showsTexts t := by
    intro t hmem
    rw [Token.tags_trimAll] at hmem
    obtain ⟨s, hs, rfl⟩ := List.mem_map.1 hmem
    rw [Tag.ruleFor_trimmed, Tag.showsTexts_trimmed]
    exact ht s hs
  rw [document_eq, truncated_between, fragment_eq] at hc
  have hfragment := pieces_render hp htrimmed hc
  rw [document_eq, fragment_eq]
  refine ⟨?_, hfragment⟩
  simp only [events_between, pieces_append, pieces_opening, pieces_closing, pieces_nil,
    List.nil_append, List.append_nil]
  exact hfragment

/-- A caption is told before its table, and the lines of a list from left to right. -/
theorem texts_conserved_caption :
    let c : Converter := {}
    let caption : Row := ⟨∅, [⟨.caption, ∅, [.content " A b"]⟩, ⟨.header, ∅, [.content "c "]⟩]⟩
    let lines := [.run '*' [.line "*#" [.content "d"]], .line "" [.content "e"]]
    let tokens := [.tag ((Tag.named "wikitable").withShape (.table ⟨∅, [caption]⟩)),
      .tag ((Tag.named "nobr").withChild (.tag ((Tag.named "wikilist").withShape (.list lines))))]
    c.inline = Inline.parsePlain ∧ (∀ t ∈ Token.tags tokens, (c.ruleFor t).showsTexts t) ∧
      (c.document tokens).report.truncated = 0 ∧
      pieces (c.document tokens).events =
        [.word "A", .space, .word "b", .word "c", .word "d", .word "e"] := by
  intro c caption lines tokens
  have hshows : ∀ t ∈ Token.tags tokens, (c.ruleFor t).showsTexts t := by decide +kernel
  have hcomplete : (c.document tokens).report.truncated = 0 := by decide +kernel
  have htexts := (texts_conserved rfl hshows hcomplete).1
  refine ⟨rfl, hshows, hcomplete, htexts.trans ?_⟩
  decide +kernel

end Converter

end WikiStream
