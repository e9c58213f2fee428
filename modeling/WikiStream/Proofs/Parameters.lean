import WikiStream.Proofs.Nesting

namespace WikiStream

namespace Dict

variable {κ ν : Type} [DecidableEq κ]

/-- The keys of `base`, then those that only `top` has, with the values in `top` where there are
any. -/
structure Overlaid (base top both : Dict κ ν) : Prop where
  keys : both.keys = base.keys ++ top.keys.filter (· ∉ base.keys)
  value : ∀ key, both.get? key = (top.get? key).or (base.get? key)

theorem keys_insertAll (d : Dict κ ν) {l : List (κ × ν)} (hl : (l.map Prod.fst).Nodup) :
    (d.insertAll l).keys = d.keys ++ (l.map Prod.fst).filter (· ∉ d.keys) := by
  induction l generalizing d with
  | nil => exact (List.append_nil _).symm
  | cons p l ih =>
    obtain ⟨hp, hl⟩ := List.nodup_cons.1 hl
    have hrest : (d.insertAll (p :: l)).keys = ((d.insert p.1 p.2).insertAll l).keys := rfl
    rw [hrest, ih _ hl, keys_insert, List.map_cons, List.filter_cons]
    by_cases hold : p.1 ∈ d.keys
    · simp [hold]
    · have hnew : (l.map Prod.fst).filter (· ∉ d.keys ++ [p.1]) =
          (l.map Prod.fst).filter (· ∉ d.keys) := by
        refine List.filter_congr fun k hk ↦ ?_
        have hne : k ≠ p.1 := fun h ↦ hp (h ▸ hk)
        simp [hne]
      simp only [hold, if_false, hnew]
      simp

theorem get?_insertAll (d : Dict κ ν) {l : List (κ × ν)} (hl : (l.map Prod.fst).Nodup) (key : κ) :
    (d.insertAll l).get? key = (l.lookup key).or (d.get? key) := by
  induction l generalizing d with
  | nil => rfl
  | cons p l ih =>
    obtain ⟨hp, hl⟩ := List.nodup_cons.1 hl
    have hrest : (d.insertAll (p :: l)).get? key = ((d.insert p.1 p.2).insertAll l).get? key := rfl
    rw [hrest, ih _ hl, get?_insert, List.lookup_cons]
    by_cases hkey : key = p.1
    · have hnone : l.lookup key = none := by
        rw [List.lookup_eq_none_iff]
        intro q hq
        rw [bne_iff_ne, hkey]
        exact fun heq ↦ hp (heq ▸ List.mem_map_of_mem hq)
      rw [hnone, if_pos hkey, beq_iff_eq.2 hkey, Option.none_or, Option.some_or]
    · rw [if_neg hkey, beq_false_of_ne hkey]

theorem overlaid_insertAll (base top : Dict κ ν) :
    base.Overlaid top (base.insertAll top.entries) where
  keys := base.keys_insertAll top.nodup_keys
  value := base.get?_insertAll top.nodup_keys

example : ((Dict.ofList [("style", "a"), ("id", "b")]).insertAll
    [("class", "c"), ("style", "d")]).entries =
      [("style", "d"), ("id", "b"), ("class", "c")] := by decide

/-- Taking out a key with a property takes out all such keys exactly if there is no other one. -/
theorem entries_erase_eq_iff {d : Dict κ ν} {p : κ → Prop} [DecidablePred p] {key : κ} {value : ν}
    {others : List (κ × ν)} (h : d.entries.filter (fun e ↦ p e.1) = (key, value) :: others) :
    (d.erase key).entries = d.entries.filter (fun e ↦ ¬p e.1) ↔ others = [] := by
  have hmem (e : κ × ν) : e ∈ (key, value) :: others ↔ e ∈ d.entries ∧ p e.1 := by
    rw [← h, List.mem_filter, decide_eq_true_iff]
  have hdistinct : (((key, value) :: others).map Prod.fst).Nodup := by
    rw [← h]
    exact d.nodup_keys.sublist (List.filter_sublist.map _)
  constructor
  · intro heq
    rw [List.eq_nil_iff_forall_not_mem]
    intro e he
    obtain ⟨hentry, hp⟩ := (hmem e).1 (List.mem_cons_of_mem _ he)
    have hne : e.1 ≠ key := by
      intro hkey
      exact (List.nodup_cons.1 hdistinct).1 (List.mem_map.2 ⟨e, he, hkey⟩)
    have hkept : e ∈ d.entries.filter (fun e ↦ ¬p e.1) := by
      rw [← heq]
      exact List.mem_filter.2 ⟨hentry, decide_eq_true hne⟩
    exact of_decide_eq_true (List.mem_filter.1 hkept).2 hp
  · rintro rfl
    refine List.filter_congr fun e he ↦ decide_eq_decide.2 (not_congr ?_)
    constructor
    · intro hkey
      rw [hkey]
      exact ((hmem (key, value)).1 List.mem_cons_self).2
    · intro hp
      rw [List.mem_singleton.1 ((hmem e).2 ⟨he, hp⟩)]

end Dict

def Opening.parameters? : Opening → Option Attributes
  | .document | .definitionTerm | .definitionDescription | .figureCaption => none
  | .header _ _ parameters | .paragraph parameters | .list _ parameters | .listItem parameters
  | .definitionList parameters | .table parameters | .tableRow parameters | .tableCell parameters
  | .tableHeadCell parameters | .link _ _ parameters | .group parameters | .format _ parameters
  | .figure parameters | .unknown _ parameters => some parameters

theorem Block.parameters?_opening (b : Block) (parameters : Attributes) :
    (b.opening parameters).parameters? = if b = .figureCaption ∨ b = .definitionTerm ∨
      b = .definitionDescription then none else some parameters := by
  cases b <;> rfl

namespace Walk

def within (o : Opening) (m : Walk Unit) : Walk Unit := do
  emit [.opening o]
  m
  emit [.closing o.construct]

theorem emit_nil : emit [] = pure () := by
  funext s
  exact congrArg (Prod.mk ()) (Traversal.extend_empty s)

end Walk

namespace Converter

open Walk

variable (c : Converter) {t : Tag} {b : Block} {defaults : Attributes}

theorem visit_of_around {first last : List Event} (h : c.planFor t = .around first last) :
    c.visit (.tag t) = (do emit first; c.traverse t.children; emit last) := by
  simp only [visit, h]
  obtain ⟨_, _, _, _, _, _⟩ := t
  rfl

/-- A block is around what its tag holds. Its first event carries the parameters of the rule with
the attributes of the tag laid over them, unless the block is one of the three that tell none. -/
theorem block_parameters_overlaid (hrule : c.ruleFor t = .block b defaults) (s : Traversal) :
    ∃ (o : Opening) (both : Attributes), o.construct = b.construct ∧
      (c.visit (.tag t)).run s = (within o (c.traverse t.children)).run s ∧
      defaults.Overlaid t.attributes both ∧
      o.parameters? = if b = .figureCaption ∨ b = .definitionTerm ∨ b = .definitionDescription
        then none else some both := by
  let both := defaults.insertAll t.attributes.entries
  have hplan : c.planFor t = .around [b.start both] [b.stop] := by rw [planFor, hrule, Rule.plan]
  refine ⟨b.opening both, both, b.construct_opening both, ?_,
    defaults.overlaid_insertAll t.attributes, b.parameters?_opening both⟩
  rw [c.visit_of_around hplan, within, b.construct_opening]
  rfl

/-- The caption of a figure is told without its class. -/
theorem caption_loses_class :
    let c : Converter := {}
    let caption := (Tag.named "figurecaption").withAttribute "class" "wide"
    c.ruleFor caption = .block .figureCaption ∅ ∧ ∃ o : Opening, o.construct = .figureCaption ∧
      ((c.visit (.tag caption)).run {}).2.events = #[.opening o, .closing .figureCaption] ∧
      o.parameters? = none := by
  intro c caption
  have hrule : c.ruleFor caption = .block .figureCaption ∅ := rfl
  obtain ⟨o, _, hconstruct, hrun, -, hparameters⟩ := c.block_parameters_overlaid hrule {}
  refine ⟨hrule, o, hconstruct, ?_, ?_⟩
  · rw [hrun, ← Block.construct, ← hconstruct]
    rfl
  · rw [hparameters, if_pos (.inl rfl)]

/-- The address of a link is the value of the first key that is `href` in letters of any case. That
key is taken out and every other one is forwarded, so no such key is left over exactly if there is
no second one. A tag without such a key shows what is inside it. -/
theorem address_consumed_iff (hrule : c.ruleFor t = .anchorLink) (s : Traversal) :
    let inside := c.traverse t.children
    let spellings := t.attributes.entries.filter fun p ↦ p.1.toLower = "href"
    (spellings = [] → (c.visit (.tag t)).run s = inside.run s) ∧
      ∀ key address others, spellings = (key, address) :: others → ∃ parameters : Attributes,
        let target := if Reference.hasScheme address then .url address else .path address
        (c.visit (.tag t)).run s = (within (.link target false parameters) inside).run s ∧
          parameters.entries = t.attributes.entries.filter (fun p ↦ p.1 ≠ key) ∧
          (parameters.entries = t.attributes.entries.filter (fun p ↦ p.1.toLower ≠ "href") ↔
            others = []) := by
  intro inside spellings
  have hlower : "href".toLower = "href" := by decide +kernel
  have hfirst : (t.attributes.entries.find? fun p ↦ p.1.toLower = "href") = spellings.head? :=
    List.head?_filter.symm
  have hplan : c.planFor t = Plan.anchorLink t.attributes := by rw [planFor, hrule, Rule.plan]
  constructor
  · intro hnone
    have hpop : t.attributes.popIgnoringCase "href" = none := by
      rw [Attributes.popIgnoringCase, hlower, hfirst, hnone]
      rfl
    have haround : c.planFor t = .around [] [] := by
      rw [hplan, Plan.anchorLink, hpop]
      rfl
    rw [c.visit_of_around haround, emit_nil]
    rfl
  · intro key address others hspellings
    have hpop : t.attributes.popIgnoringCase "href" = some (address, t.attributes.erase key) := by
      rw [Attributes.popIgnoringCase, hlower, hfirst, hspellings]
      rfl
    refine ⟨t.attributes.erase key, ?_, rfl, ?_⟩
    · have haround := hplan
      rw [Plan.anchorLink, hpop] at haround
      rw [c.visit_of_around haround]
      rfl
    · exact Dict.entries_erase_eq_iff (p := fun k : String ↦ k.toLower = "href") hspellings

/-- An address in capitals is followed, and the one in small letters is forwarded beside it. -/
theorem second_address_forwarded :
    let c : Converter := {}
    let link := ((Tag.named "a").withAttribute "HREF" "http://x").withAttribute "href" "y"
    c.ruleFor link = .anchorLink ∧ ∃ parameters : Attributes,
      ((c.visit (.tag link)).run {}).2.events =
          #[.opening (.link (.url "http://x") false parameters), .closing .link] ∧
        parameters.entries = [("href", "y")] := by
  intro c link
  have hrule : c.ruleFor link = .anchorLink := rfl
  have hspellings : link.attributes.entries.filter (fun p ↦ p.1.toLower = "href") =
      [("HREF", "http://x"), ("href", "y")] := by decide +kernel
  have hscheme : Reference.hasScheme "http://x" = true := by decide +kernel
  obtain ⟨parameters, hrun, hforwarded, -⟩ :=
    (c.address_consumed_iff hrule {}).2 "HREF" "http://x" _ hspellings
  refine ⟨hrule, parameters, ?_, ?_⟩
  · rw [hrun, hscheme]
    rfl
  · rw [hforwarded]
    decide +kernel

end Converter

end WikiStream
