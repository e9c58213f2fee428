import WikiStream.Proofs.Congruence
import WikiStream.Proofs.Tags
import WikiStream.Proofs.Traversal

namespace WikiStream

/-- Whether the shape of a tag says what its rule is: the tag marks a table of contents or calls a
template. -/
def Tag.hasOwnRule (t : Tag) : Bool := t.shape matches .tableOfContents _ _ | .template

namespace Converter

open Rendering

def withRegistry (c : Converter) (registry : Registry) : Converter :=
  { c with registry := registry }

def register (c : Converter) (name : String) (rule : Rule) : Converter :=
  c.withRegistry (c.registry.insert name rule)

variable (c : Converter) (registry : Registry) {t : Tag}

theorem ruleFor_withRegistry_of_hasOwnRule (h : t.hasOwnRule) :
    (c.withRegistry registry).ruleFor t = c.ruleFor t := by
  obtain ⟨name, attributes, children, body, shape, context⟩ := t
  cases shape with
  | tableOfContents | template => rfl
  | _ => cases h

theorem ruleFor_register {name : String} (rule : Rule) (h : t.name = name → t.hasOwnRule) :
    (c.register name rule).ruleFor t = c.ruleFor t := by
  by_cases hname : t.name = name
  · exact c.ruleFor_withRegistry_of_hasOwnRule _ (h hname)
  · have hlookup : (c.registry.insert name rule).get? t.name = c.registry.get? t.name := by
      rw [Dict.get?_insert, if_neg hname]
    simp only [ruleFor, register, withRegistry, hlookup]

theorem planFor_withRegistry (h : (c.withRegistry registry).ruleFor t = c.ruleFor t) :
    (c.withRegistry registry).planFor t = c.planFor t := by
  rw [planFor, planFor, h]
  cases c.ruleFor t <;> rfl

theorem exists_planFor_eq_leaf (h : t.hasOwnRule) : ∃ events, c.planFor t = .leaf events := by
  obtain ⟨name, attributes, children, body, shape, context⟩ := t
  cases shape with
  | tableOfContents | template => exact ⟨_, rfl⟩
  | _ => cases h

theorem visit_withRegistry_of_hasOwnRule (h : t.hasOwnRule) :
    (c.withRegistry registry).visit (.tag t) = c.visit (.tag t) := by
  have hplan := c.planFor_withRegistry registry (c.ruleFor_withRegistry_of_hasOwnRule registry h)
  obtain ⟨events, hleaf⟩ := c.exists_planFor_eq_leaf h
  simp only [visit, hplan, hleaf, follow]

theorem congruence_eq : Congruence (· = ·) where
  refl _ := rfl
  append := congrArg₂ (· ++ ·)

/-- The rules of the tags in a tree are all that a registry is for. -/
theorem render_withRegistry (room : Nat) {tokens : List Token}
    (h : ∀ t ∈ Token.tags tokens, (c.withRegistry registry).ruleFor t = c.ruleFor t) :
    (c.withRegistry registry).render room tokens = c.render room tokens := by
  induction room generalizing tokens with
  | zero => cases tokens <;> rfl
  | succ room ih =>
    rw [render_succ, render_succ]
    refine congruence_eq.join fun token htoken ↦ ?_
    have htags : ∀ t ∈ Token.tagsOf token, (c.withRegistry registry).ruleFor t = c.ruleFor t :=
      fun t ht ↦ h t (Token.mem_tags_of_mem ht htoken)
    have hinner := congruence_eq.renderToken c token fun l hl ↦
      ih fun t ht ↦ htags t (Token.mem_tagsOf_of_mem_contentsOf hl ht)
    rw [← hinner]
    cases token with
    | content text => rfl
    | tag t =>
      have ht := htags t (Token.self_mem_tagsOf t)
      simp only [renderToken, c.planFor_withRegistry registry ht]

theorem fragment_withRegistry {tokens : List Token}
    (h : ∀ t ∈ Token.tags tokens, (c.withRegistry registry).ruleFor t = c.ruleFor t) :
    (c.withRegistry registry).fragment tokens = c.fragment tokens := by
  rw [fragment_eq, fragment_eq]
  refine c.render_withRegistry registry _ fun t ht ↦ ?_
  rw [Token.tags_trimAll] at ht
  obtain ⟨t, htag, rfl⟩ := List.mem_map.1 ht
  rw [Tag.ruleFor_trimmed, Tag.ruleFor_trimmed]
  exact h t htag

/-- A rule under a name changes nothing where no tag has this name but those that have their rules
from their shapes. What these tell is the same under all registries. -/
theorem registration_local {name : String} (rule : Rule) {tokens : List Token}
    (h : ∀ t ∈ Token.tags tokens, t.name = name → t.hasOwnRule) :
    (c.register name rule).document tokens = c.document tokens ∧
      (c.register name rule).fragment tokens = c.fragment tokens ∧
      ∀ registry, ∀ t : Tag, t.hasOwnRule →
        (c.withRegistry registry).visit (.tag t) = c.visit (.tag t) := by
  have hfragment : (c.register name rule).fragment tokens = c.fragment tokens :=
    c.fragment_withRegistry _ fun t ht ↦ c.ruleFor_register rule (h t ht)
  refine ⟨?_, hfragment, fun registry t ht ↦ c.visit_withRegistry_of_hasOwnRule registry ht⟩
  rw [document_eq, document_eq, hfragment]

/-- A marker of a table of contents that is named like the new rule, in a line of a list. -/
theorem registration_local_marker :
    let c : Converter := {}
    let marker : Tag := (Tag.named "x").withShape (.tableOfContents true true)
    let list : Tag := (Tag.named "wikilist").withShape (.list [.run '*' [.line "*" [.tag marker]]])
    let tokens : List Token := [.tag ((Tag.named "p").withChildren [.tag list])]
    (∀ t ∈ Token.tags tokens, t.name = "x" → t.hasOwnRule) ∧
      (c.register "x" .horizontalLine).document tokens = c.document tokens ∧
      .single (.macroCall "toc" ∅ none false) ∈ (c.document tokens).events ∧
      (c.register "x" .horizontalLine).document [.tag (Tag.named "x")] ≠
        c.document [.tag (Tag.named "x")] := by
  intro c marker list tokens
  have hnames : ∀ t ∈ Token.tags tokens, t.name = "x" → t.hasOwnRule := by
    intro t ht
    have htags : Token.tags tokens = [(Tag.named "p").withChildren [.tag list], list, marker] := rfl
    rw [htags] at ht
    simp only [List.mem_cons, List.not_mem_nil, or_false] at ht
    rcases ht with rfl | rfl | rfl
    · intro h
      exact absurd h (by decide)
    · intro h
      exact absurd h (by decide)
    · exact fun _ ↦ rfl
  obtain ⟨hdocument, -, -⟩ := c.registration_local .horizontalLine hnames
  exact ⟨hnames, hdocument, by decide +kernel, by decide +kernel⟩

end Converter

end WikiStream
