import WikiStream.Proofs.Balance
import WikiStream.Proofs.Levels
import WikiStream.Proofs.Traversal

namespace WikiStream

open Event

namespace Block

variable (b : Block) (parameters : Attributes)

theorem construct_opening : (b.opening parameters).construct = b.construct := by
  cases b <;> rfl

theorem opening_ne_document : b.opening parameters ≠ .document := by
  cases b <;> exact nofun

theorem nested_append {n : Nat} {inside rest : List Event} (hi : Nested n inside)
    (hr : Nested (n + 1) rest) :
    Nested (n + 1) (b.start parameters :: (inside ++ b.stop :: rest)) := by
  have h := Nested.pair (b.opening parameters) (b.opening_ne_document parameters) hi hr
  rwa [construct_opening] at h

theorem frame : Frame 1 [b.start parameters] [b.stop] := by
  have h := Frame.pair (b.opening parameters) (b.opening_ne_document parameters) .nil
  rwa [construct_opening] at h

end Block

/-- A plan whose events are in pairs, two around the inside of the tag at most. -/
def Plan.Paired : Plan → Prop
  | .leaf events => Nested 1 events
  | .around first last | .hoist first last => ∃ k ≤ 2, Frame k first last
  | .lines _ | .rows => True

namespace Plan

theorem paired_single (s : Single) : (single s).Paired := .single s .nil

theorem paired_children : (around [] []).Paired := ⟨0, Nat.zero_le 2, .nil⟩

theorem paired_paragraph (t : Tag) : (paragraph t).Paired := by
  unfold paragraph
  split
  · exact .nil
  · exact ⟨1, Nat.le_succ 1, .pair (.paragraph t.attributes) nofun .nil⟩

theorem paired_header (level : Level) (t : Tag) : (header level t).Paired := by
  unfold header
  split
  · exact .nil
  · split
    · exact ⟨1, Nat.le_succ 1, .pair (.header level _ t.attributes) nofun .nil⟩
    · exact ⟨1, Nat.le_succ 1, .pair (.header level none t.attributes) nofun .nil⟩

theorem paired_boldItalic (t : Tag) : (boldItalic t).Paired := by
  have hitalic := Frame.pair (.format .italic ∅) nofun .nil
  exact ⟨2, Nat.le_refl 2, .pair (.format .bold t.attributes) nofun hitalic⟩

theorem paired_linked (target : Option Reference) (freestanding : Bool) (a : Attributes) :
    (linked target freestanding a).Paired := by
  cases target with
  | none => exact paired_children
  | some reference =>
    exact ⟨1, Nat.le_succ 1, .pair (.link reference freestanding a) nofun .nil⟩

theorem nested_embedding (e : Embedding) : Nested 1 (embedding e) := by
  rcases e with ⟨reference, _ | link, parameters⟩ | reference
  · exact .single _ .nil
  · exact .pair (.link link false ∅) nofun (.single (.image reference false parameters) .nil) .nil
  · exact .pair (.link reference false ∅) nofun .nil .nil

theorem paired_unknown (keeps : Bool) (t : Tag) : (unknown keeps t).Paired := by
  unfold unknown
  cases keeps with
  | false => exact paired_children
  | true =>
    cases t.children.isEmpty with
    | false => exact ⟨0, Nat.zero_le 2, .single (.unknown t.name t.attributes) .nil⟩
    | true => exact ⟨1, Nat.le_succ 1, .pair (.unknown t.name t.attributes) nofun .nil⟩

end Plan

theorem Rule.paired_plan (c : Converter) (t : Tag) (r : Rule) : (r.plan c t).Paired := by
  cases r with
  | block b parameters => exact ⟨1, Nat.le_succ 1, b.frame _⟩
  | paragraph => exact Plan.paired_paragraph t
  | header level => exact Plan.paired_header level t
  | boldItalic => exact Plan.paired_boldItalic t
  | font => exact ⟨1, Nat.le_succ 1, .pair (.format .none _) nofun .nil⟩
  | anchorLink =>
    simp only [Rule.plan, Plan.anchorLink]
    split <;> exact Plan.paired_linked ..
  | wikiLink =>
    simp only [Rule.plan, Plan.wikiLink]
    split <;> exact Plan.paired_linked ..
  | image =>
    simp only [Rule.plan]
    split
    · exact Plan.nested_embedding _
    · exact .nil
  | tableOfContents => exact Nested.singles _
  | wikiList | wikiTable =>
    simp only [Rule.plan]
    split
    · trivial
    · exact Plan.paired_children
  | unknown => exact Plan.paired_unknown c.keepsUnknown t
  | newLine | horizontalLine | verbatim inline | source | macroCall id inline | gallery
  | template => exact Plan.paired_single _

theorem Converter.paired_planFor (c : Converter) (t : Tag) : (c.planFor t).Paired :=
  Rule.paired_plan c t (c.ruleFor t)

namespace Rendering

/-- How deep runs of lines lie inside each other. -/
def runDepth : List ListNode → Nat
  | [] => 0
  | .run _ nodes :: rest => max (runDepth nodes + 1) (runDepth rest)
  | .line _ _ :: rest => runDepth rest

def planRunDepth : Plan → Tag → Nat
  | .lines _, ⟨_, _, _, _, .list nodes, _⟩ => runDepth nodes
  | _, _ => 0

variable {inner : List Token → Rendering} {n : Nat}

theorem nested_join {renderings : List Rendering} (h : ∀ r ∈ renderings, Nested n r.events) :
    Nested n (join renderings).events := by
  induction renderings with
  | nil => exact .nil
  | cons r rest ih =>
    have hr := h r List.mem_cons_self
    exact hr.append (ih fun r' hr' ↦ h r' (List.mem_cons_of_mem _ hr'))

/-- What follows in a run completes the item that is open, whatever went into it so far. -/
theorem nested_items (parameters : Attributes) (current : Char) (used : Bool)
    (nodes : List ListNode) {m : Nat} {inside : List Event}
    (h : ∀ tokens ∈ contents nodes, Nested n (inner tokens).events)
    (hm : n + 2 * runDepth nodes ≤ m) (hi : Nested m inside) :
    Nested (m + 1) ((Block.item current).start ∅ ::
      (inside ++ (items inner parameters current used nodes).events)) := by
  -- `inside` is what the open item holds so far: a line adds to it, or closes it and starts anew.
  fun_induction items inner parameters current used nodes generalizing m inside with
  | case1 current used => exact Block.nested_append _ ∅ hi .nil
  | case2 current used marker nodes rest ihn ihr =>
    simp only [contents, List.mem_append] at h
    simp only [runDepth] at hm
    -- The list and the item of the run take two of the pairs that may lie inside each other.
    obtain ⟨m, rfl⟩ : ∃ k, m = k + 2 := ⟨m - 2, by omega⟩
    have hitems := ihn (fun tokens ht ↦ h tokens (.inl ht)) (m := m) (by omega) .nil
    have hrun := Block.nested_append (Block.container marker) parameters hitems .nil
    have hrest := ihr (fun tokens ht ↦ h tokens (.inr ht)) (by omega) (hi.append hrun)
    simpa only [events_append, events_between, List.append_assoc, List.cons_append,
      List.nil_append] using hrest
  | case3 current sequence tokens rest ih =>
    simp only [contents, List.mem_cons, forall_eq_or_imp] at h
    simp only [runDepth] at hm
    have hline := h.1.mono (Nat.le_of_add_right_le hm)
    have hrest := Block.nested_append (Block.item current) ∅ hi (ih h.2 hm hline)
    simpa only [events_append, events_ofEvents, List.cons_append, List.nil_append] using hrest
  | case4 current used sequence tokens rest hu ih =>
    simp only [contents, List.mem_cons, forall_eq_or_imp] at h
    simp only [runDepth] at hm
    have hline := h.1.mono (Nat.le_of_add_right_le hm)
    have hrest := ih h.2 hm (hi.append hline)
    simpa only [events_append, List.append_assoc] using hrest

theorem nested_run (parameters : Attributes) (marker : Char) (nodes : List ListNode)
    (h : ∀ tokens ∈ contents nodes, Nested n (inner tokens).events) :
    Nested (n + 2 * (runDepth nodes + 1)) (run inner parameters marker nodes).events := by
  have hitems := nested_items parameters marker false nodes h (Nat.le_refl _) .nil
  have hrun := Block.nested_append (Block.container marker) parameters hitems .nil
  have he : (run inner parameters marker nodes).events =
      (Block.container marker).start parameters ::
        ((Block.item marker).start ∅ :: ([] ++ (items inner parameters marker false nodes).events) ++
          [(Block.container marker).stop]) := rfl
  rw [he]
  exact hrun

theorem nested_lines (parameters : Attributes) (nodes : List ListNode)
    (h : ∀ tokens ∈ contents nodes, Nested n (inner tokens).events) :
    Nested (n + 2 * runDepth nodes) (lines inner parameters nodes).events := by
  induction nodes with
  | nil => exact .nil
  | cons node rest ih =>
    rw [lines_cons, events_append]
    cases node with
    | run marker nodes =>
      simp only [contents, List.mem_append] at h
      simp only [runDepth]
      have hrun := nested_run parameters marker nodes fun tokens ht ↦ h tokens (.inl ht)
      have hrest := ih fun tokens ht ↦ h tokens (.inr ht)
      exact (hrun.mono (by omega)).append (hrest.mono (by omega))
    | line sequence tokens =>
      simp only [contents, List.mem_cons, forall_eq_or_imp] at h
      simp only [runDepth]
      exact (h.1.mono (Nat.le_add_right ..)).append (ih h.2)

theorem nested_cell (k : Cell) (h : Nested n (inner k.content).events) :
    Nested (n + 1) (cell inner k).events := by
  obtain ⟨_ | _ | _, parameters, tokens⟩ := k
  · exact h.wrap (o := .tableHeadCell parameters) nofun
  · exact h.wrap (o := .tableCell parameters) nofun
  · exact h.wrap (o := .tableCell parameters) nofun

theorem nested_row (r : Row) (h : ∀ tokens ∈ rowContents r, Nested n (inner tokens).events) :
    Nested (n + 2) (row inner r).events := by
  refine Nested.wrap (o := .tableRow r.attributes) (nested_join fun r' hr' ↦ ?_) nofun
  obtain ⟨k, hk, rfl⟩ := List.mem_map.1 hr'
  exact nested_cell k (h _ (List.mem_map_of_mem hk))

theorem nested_grid (parameters : Attributes) (rows : List Row)
    (h : ∀ tokens ∈ rows.flatMap rowContents, Nested n (inner tokens).events) :
    Nested (n + 3) (grid inner parameters rows).events := by
  refine Nested.wrap (o := .table parameters) (nested_join fun r' hr' ↦ ?_) nofun
  obtain ⟨r, hr, rfl⟩ := List.mem_map.1 hr'
  exact nested_row r fun tokens ht ↦ h tokens (List.mem_flatMap.2 ⟨r, hr, ht⟩)

theorem nested_grouped {r : Rendering} (h : Nested n r.events) :
    Nested (n + 1) (grouped r).events :=
  h.wrap (o := .group ∅) nofun

theorem nested_table (t : Table) (h : ∀ tokens ∈ tableContents t, Nested n (inner tokens).events) :
    Nested (n + 4) (table inner t).events := by
  unfold table
  split
  · rename_i parameters ofRow _ caption cells rows
    simp only [tableContents, List.flatMap_cons, rowContents, List.map_cons, List.cons_append,
      List.mem_cons, forall_eq_or_imp] at h
    have hcaption := nested_grouped h.1
    have hgrid := nested_grid parameters (⟨ofRow, cells⟩ :: rows) h.2
    exact nested_grouped ((hcaption.mono (by omega)).append hgrid)
  · exact (nested_grid _ _ h).mono (Nat.le_succ _)

theorem nested_ofText (parse : Inline.Parser) (text : String) :
    Nested n (ofText parse text).events := by
  unfold ofText
  dsimp only
  split
  · exact .nil
  · split
    · rename_i pieces _
      have h := Nested.singles (n := n) (pieces.map .text)
      rwa [List.map_map] at h
    · exact .nil

theorem nested_ofPlan (plan : Plan) (t : Tag) (hp : plan.Paired)
    (h : ∀ tokens ∈ planContents plan t, Nested n (inner tokens).events) :
    Nested (n + max 4 (2 * planRunDepth plan t)) (ofPlan inner plan t).events := by
  obtain ⟨name, attributes, children, body, shape, context⟩ := t
  cases plan with
  | leaf events => exact Nested.mono hp (by omega)
  | around first last =>
    obtain ⟨k, hk, hf⟩ := hp
    exact (hf.nested (h children (List.mem_singleton_self _))).mono (by omega)
  | hoist first last =>
    obtain ⟨k, hk, hf⟩ := hp
    match children with
    | .tag ⟨_, _, inside, _, _, _⟩ :: _ =>
      exact (hf.nested (h inside (List.mem_singleton_self _))).mono (by omega)
    | .content _ :: _ | [] => exact .nil
  | lines parameters =>
    cases shape with
    | list nodes =>
      refine (nested_lines parameters nodes h).mono ?_
      simp only [planRunDepth]
      omega
    | _ => exact .nil
  | rows =>
    cases shape with
    | table table => exact (nested_table table h).mono (by omega)
    | _ => exact .nil

end Rendering

namespace Converter

open Rendering

variable (c : Converter) {n : Nat}

def runDepthOf : Token → Nat
  | .content _ => 0
  | .tag t => planRunDepth (c.planFor t) t

theorem nested_renderToken {inner : List Token → Rendering} (t : Token)
    (h : ∀ tokens ∈ c.contentsOf t, Nested n (inner tokens).events) :
    Nested (n + max 4 (2 * c.runDepthOf t)) (c.renderToken inner t).events := by
  cases t with
  | content text => exact nested_ofText c.inline text
  | tag t => exact nested_ofPlan (c.planFor t) t (c.paired_planFor t) h

/-- Each level of lists opens no more than its share of constructs. -/
theorem nested_render (runs room : Nat) (tokens : List Token)
    (h : ∀ level < room, ∀ l ∈ c.listsAt level tokens, ∀ t ∈ l, c.runDepthOf t ≤ runs) :
    Nested (room * max 4 (2 * runs)) (c.render room tokens).events := by
  induction room generalizing tokens with
  | zero => cases tokens <;> exact .nil
  | succ room ih =>
    rw [render_succ]
    refine nested_join fun r hr ↦ ?_
    obtain ⟨t, ht, rfl⟩ := List.mem_map.1 hr
    have hruns := h 0 (Nat.succ_pos room) tokens (c.self_mem_listsAt_zero ht) t ht
    have hinner : ∀ inner ∈ c.contentsOf t,
        Nested (room * max 4 (2 * runs)) (c.render room inner).events := by
      intro inner hi
      refine ih inner fun level hlevel l hl ↦ ?_
      exact h (level + 1) (Nat.succ_lt_succ hlevel) l (c.mem_listsAt_succ ht hi hl)
    refine (c.nested_renderToken t hinner).mono ?_
    rw [Nat.succ_mul room]
    omega

theorem exists_runs (room : Nat) (tokens : List Token) :
    ∃ runs, ∀ level < room, ∀ l ∈ c.listsAt level tokens, ∀ t ∈ l, c.runDepthOf t ≤ runs := by
  let entered := ((List.range room).flatMap fun level ↦ c.listsAt level tokens).flatten
  refine ⟨(entered.map c.runDepthOf).max?.getD 0, fun level hlevel l hl t ht ↦ ?_⟩
  have hmem : t ∈ entered := List.mem_flatten.2
    ⟨l, List.mem_flatMap.2 ⟨level, List.mem_range.2 hlevel, hl⟩, ht⟩
  exact List.le_max?_getD_of_mem (List.mem_map_of_mem hmem)

theorem exists_nested_render (room : Nat) (tokens : List Token) :
    ∃ n, Nested n (c.render room tokens).events := by
  obtain ⟨runs, hruns⟩ := c.exists_runs room tokens
  exact ⟨_, c.nested_render runs room tokens hruns⟩

theorem exists_nested_fragment (tokens : List Token) :
    ∃ n, Nested n (c.fragment tokens).events := by
  rw [fragment_eq]
  exact c.exists_nested_render _ _

/-- Under any registry, options, tokenizer, link parser and media types, and whether or not unknown
tags leave events, a document is a pair around what its fragment is: a stream in the pair grammar
without documents, in which the check of the nesting finds no fault. -/
theorem document_balanced (tokens : List Token) :
    ∃ body : List Event, Balanced body ∧ (∀ e ∈ body, e.construct? ≠ some .document) ∧
      nestingFault? (.opening .document :: (body ++ [.closing .document])) = none ∧
      ∀ recorded : Array Event,
        (c.appendDocument recorded tokens).1 =
          recorded ++ .opening .document :: (body ++ [.closing .document]) ∧
        (c.appendFragment recorded tokens).1 = recorded ++ body := by
  obtain ⟨n, hn⟩ := c.exists_nested_fragment tokens
  have hb := hn.balanced
  refine ⟨(c.fragment tokens).events, hb, fun e he ↦ hn.construct_ne he, ?_, fun recorded ↦ ?_⟩
  · exact (Balanced.pair .document hb .nil).nestingFault?_eq_none
  · rw [appendDocument_eq, appendFragment_eq]
    exact ⟨rfl, rfl⟩

end Converter

end WikiStream
