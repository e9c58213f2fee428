import WikiStream.Proofs.Nesting

namespace WikiStream

open Event Rendering

namespace Converter

variable (c : Converter)

/-- In the lists of tokens that are walked, runs lie at most `runs` deep inside each other. -/
def RunsWithin (runs : Nat) (tokens : List Token) : Prop :=
  ∀ level < c.options.maxDepth.toNat, ∀ l ∈ c.listsAt level (Token.trimAll tokens),
    ∀ t ∈ l, c.runDepthOf t ≤ runs

theorem document_staysWithin {runs : Nat} {tokens : List Token} (h : c.RunsWithin runs tokens) :
    StaysWithin (1 + max 4 (2 * runs) * c.options.maxDepth.toNat) 0 (c.document tokens).events := by
  have hn := c.nested_render runs c.options.maxDepth.toNat (Token.trimAll tokens) h
  rw [document_eq, fragment_eq, events_between, List.append_assoc, Nat.mul_comm]
  have hclose : StaysWithin (1 + c.options.maxDepth.toNat * max 4 (2 * runs)) 1
      [.closing .document] := .cons (Nat.le_add_right ..) (.nil (Nat.zero_le _))
  exact .cons (Nat.zero_le _) (hn.staysWithin_append (Nat.le_refl _) hclose)

/-- Where runs lie at most `runs` deep, no document under the ceiling `d` has more than `bound`
constructs open after any of its events. -/
def OpensWithin (d : UInt64) (runs bound : Nat) : Prop :=
  ∀ (c : Converter) (tokens : List Token), c.options.maxDepth = d → c.RunsWithin runs tokens →
    ∀ pre, pre <+: (c.document tokens).events → openAfter 0 pre ≤ bound

/-- A tag around a list of tokens that opens `k` constructs before it comes to the list. -/
structure Opens (runs k : Nat) (around : List Token → Tag) : Prop where
  trim_eq : ∀ {tokens}, Token.trimAll tokens = tokens → Token.trimEdges tokens = tokens →
    Token.trim (.tag (around tokens)) = .tag (around tokens)
  contents : ∀ {tokens l}, l ∈ c.contentsOf (.tag (around tokens)) → l = [] ∨ l = tokens
  runDepth_le : ∀ tokens, c.runDepthOf (.tag (around tokens)) ≤ runs
  staysWithin : ∀ {inner : List Token → Rendering} {tokens bound depth}, inner [] = ∅ →
    StaysWithin bound depth (c.renderToken inner (.tag (around tokens))).events →
    StaysWithin bound (depth + k) (inner tokens).events

def tower (around : List Token → Tag) : Nat → List Token
  | 0 => []
  | n + 1 => [.tag (around (tower around n))]

namespace Opens

variable {c} {runs k n : Nat} {around : List Token → Tag} (h : c.Opens runs k around)

include h

theorem trimAll_tower : Token.trimAll (tower around n) = tower around n := by
  induction n with
  | zero => rfl
  | succ n ih =>
    have hedges : Token.trimEdges (tower around n) = tower around n := by cases n <;> rfl
    simp only [tower, Token.trimAll, h.trim_eq ih hedges]

theorem runDepthOf_le {level : Nat} {l : List Token} (hl : l ∈ c.listsAt level (tower around n))
    {t : Token} (ht : t ∈ l) : c.runDepthOf t ≤ runs := by
  -- The lists below a tower are empty or lower towers.
  induction level generalizing n with
  | zero =>
    cases n with
    | zero => cases hl
    | succ n =>
      obtain rfl := List.mem_singleton.1 hl
      obtain rfl := List.mem_singleton.1 ht
      exact h.runDepth_le _
  | succ level ih =>
    cases n with
    | zero => cases hl
    | succ n =>
      simp only [listsAt_succ, tower, List.flatMap_singleton, List.mem_flatMap] at hl
      obtain ⟨inner, hi, hl⟩ := hl
      rcases h.contents hi with rfl | rfl
      · rw [listsAt_nil] at hl
        cases hl
      · exact ih hl

theorem le_of_staysWithin {bound depth : Nat}
    (hs : StaysWithin bound depth (c.render n (tower around n)).events) :
    depth + k * n ≤ bound := by
  induction n generalizing depth with
  | zero => exact hs.le
  | succ n ih =>
    rw [render_succ] at hs
    have htag := h.staysWithin (c.render_nil n) hs.of_append
    have hn := ih htag
    rw [Nat.mul_succ]
    omega

end Opens

def nestedRuns (tokens : List Token) : Nat → List ListNode
  | 0 => [.line "*" tokens]
  | n + 1 => [.run '*' (nestedRuns tokens n)]

def listAround (runs : Nat) (tokens : List Token) : Tag :=
  (Tag.named "wikilist").withShape (.list (nestedRuns tokens runs))

def tableAround (tokens : List Token) : Tag :=
  (Tag.named "wikitable").withShape
    (.table ⟨∅, [⟨∅, [⟨.caption, ∅, []⟩, ⟨.body, ∅, tokens⟩]⟩]⟩)

theorem trimNodes_nestedRuns {tokens : List Token} (ha : Token.trimAll tokens = tokens)
    (he : Token.trimEdges tokens = tokens) (n : Nat) :
    Token.trimNodes (nestedRuns tokens n) = nestedRuns tokens n := by
  induction n with
  | zero => simp only [nestedRuns, Token.trimNodes, ha, he]
  | succ n ih => simp only [nestedRuns, Token.trimNodes, ih]

theorem contents_nestedRuns (tokens : List Token) (n : Nat) :
    contents (nestedRuns tokens n) = [tokens] := by
  induction n with
  | zero => simp only [nestedRuns, contents]
  | succ n ih => simp only [nestedRuns, contents, ih, List.append_nil]

theorem runDepth_nestedRuns (tokens : List Token) (n : Nat) :
    runDepth (nestedRuns tokens n) = n := by
  induction n with
  | zero => simp only [nestedRuns, runDepth]
  | succ n ih => simp only [nestedRuns, runDepth, ih, Nat.max_zero]

theorem staysWithin_nestedRuns {inner : List Token → Rendering} {tokens : List Token}
    {parameters : Attributes} {n bound depth : Nat}
    (h : StaysWithin bound depth (items inner parameters '*' false (nestedRuns tokens n)).events) :
    StaysWithin bound (depth + 2 * n) (inner tokens).events := by
  induction n generalizing depth with
  | zero =>
    simp only [nestedRuns, items] at h
    exact h.of_append
  | succ n ih =>
    simp only [nestedRuns, items, events_append, events_between] at h
    have hitems := ih h.of_append.of_append.tail.tail
    rwa [Nat.mul_succ, Nat.add_comm _ 2, ← Nat.add_assoc]

section Bounded

def bounded (d : UInt64) : Converter := { options := { maxDepth := d } }

variable (d : UInt64)

theorem planFor_listAround (runs : Nat) (tokens : List Token) :
    (bounded d).planFor (listAround runs tokens) = .lines ∅ := rfl

theorem planFor_tableAround (tokens : List Token) :
    (bounded d).planFor (tableAround tokens) = .rows := rfl

theorem opens_listAround (runs : Nat) :
    (bounded d).Opens runs (2 * runs) (listAround runs) where
  trim_eq ha he := by
    simp only [listAround, Tag.named, Tag.withShape, Token.trim, Token.trimShape,
      trimNodes_nestedRuns ha he]
    rfl
  contents hl := by
    rw [contentsOf, planFor_listAround] at hl
    simp only [listAround, Tag.withShape, planContents, contents_nestedRuns] at hl
    exact .inr (List.mem_singleton.1 hl)
  runDepth_le tokens := by
    rw [runDepthOf, planFor_listAround]
    exact Nat.le_of_eq (runDepth_nestedRuns tokens runs)
  staysWithin _ hs := by
    rw [renderToken, planFor_listAround] at hs
    simp only [listAround, Tag.withShape, ofPlan] at hs
    cases runs with
    | zero => exact hs.of_append
    | succ n =>
      simp only [nestedRuns, lines_cons, line, run, events_append, events_between] at hs
      have hitems := staysWithin_nestedRuns hs.of_append.of_append.tail.tail
      rwa [Nat.mul_succ, Nat.add_comm _ 2, ← Nat.add_assoc]

theorem opens_tableAround :
    (bounded d).Opens 0 4 tableAround where
  trim_eq ha he := by
    simp only [tableAround, Tag.named, Tag.withShape, Token.trim, Token.trimShape, Token.trimRows,
      Token.trimCells, Token.trimAll, ha, he]
    rfl
  contents hl := by
    rw [contentsOf, planFor_tableAround] at hl
    exact (List.mem_cons.1 hl).imp_right List.mem_singleton.1
  runDepth_le _ := Nat.le_refl 0
  staysWithin {inner tokens _ _} hnil hs := by
    have htable : ofPlan inner .rows (tableAround tokens) =
        grouped (grouped (inner []) ++ grid inner ∅ [⟨∅, [⟨.body, ∅, tokens⟩]⟩]) := rfl
    rw [renderToken, planFor_tableAround, htable, hnil] at hs
    simp only [grouped, grid, row, cell, List.map_cons, List.map_nil, join_cons, join_nil,
      append_empty, events_append, events_between, events_empty, List.cons_append, List.nil_append,
      List.append_assoc] at hs
    exact hs.tail.tail.tail.tail.tail.tail.of_append

end Bounded

theorem opensWithin_iff (d : UInt64) (runs bound : Nat) :
    OpensWithin d runs bound ↔ 1 + max 4 (2 * runs) * d.toNat ≤ bound := by
  refine ⟨fun h ↦ ?_, fun h c tokens hd hr pre hp ↦ ?_⟩
  · -- A tower as high as the ceiling opens its share on every level.
    have hmet : ∀ {n k around}, n ≤ runs → (bounded d).Opens n k around →
        1 + k * d.toNat ≤ bound := by
      intro n k around hn ho
      have hr : (bounded d).RunsWithin runs (tower around d.toNat) := by
        intro level _ l hl t ht
        rw [ho.trimAll_tower] at hl
        exact Nat.le_trans (ho.runDepthOf_le hl ht) hn
      have hs : StaysWithin bound 0 ((bounded d).document
          (tower around d.toNat)).events := h _ _ rfl hr
      rw [document_eq, fragment_eq, ho.trimAll_tower, events_between] at hs
      exact ho.le_of_staysWithin hs.of_append.tail
    rcases Nat.le_total (2 * runs) 4 with hle | hle
    · rw [Nat.max_eq_left hle]
      exact hmet (Nat.zero_le _) (opens_tableAround d)
    · rw [Nat.max_eq_right hle]
      exact hmet (Nat.le_refl _) (opens_listAround d runs)
  · have hs := c.document_staysWithin hr pre hp
    rw [hd] at hs
    exact Nat.le_trans hs h

/-- Four constructs for each level of the ceiling are enough exactly where nothing is walked or runs
lie at most two deep inside each other. A deeper run opens two more constructs and is no list of
tokens, so the ceiling does not count it, and in general it takes two for each run. -/
theorem opensWithin_four_iff (d : UInt64) (runs : Nat) :
    (OpensWithin d runs (1 + 4 * d.toNat) ↔ d = 0 ∨ runs ≤ 2) ∧
      ∀ bound, OpensWithin d runs bound ↔ 1 + max 4 (2 * runs) * d.toNat ≤ bound := by
  have hleast := opensWithin_iff d runs
  refine ⟨?_, hleast⟩
  have hzero : d = 0 ↔ d.toNat = 0 := UInt64.toNat_inj.symm
  rw [hleast, Nat.add_le_add_iff_left, hzero]
  rcases Nat.eq_zero_or_pos d.toNat with hd | hd
  · simp only [hd, Nat.mul_zero, Nat.le_refl, true_or]
  · rw [Nat.mul_le_mul_right_iff hd]
    omega

end Converter

end WikiStream
