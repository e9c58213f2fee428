import WikiStream.Proofs.Trail

namespace WikiStream

open Rendering

def Tag.isAutomatic (t : Tag) : Bool :=
  match t.shape with
  | .tableOfContents _ explicit => !explicit
  | _ => false

def isAutomaticToc (x : Option Tag × Event) : Bool :=
  x.1.any Tag.isAutomatic && x.2 = .single (.macroCall "toc" ∅ none false)

/-- What is left of a stream once automatic tables of contents are turned off in it, if they are. -/
def keepAsked (turnedOff : Bool) (events : List (Option Tag × Event)) : List (Option Tag × Event) :=
  events.filter fun x ↦ !(turnedOff && isAutomaticToc x)

/-- What may become of an event that is told for a tag when the options `o` give way to `o'`. -/
inductive Shift (c : Converter) (o o' : Options) : Option Tag × Event → Option Tag × Event → Prop
  | same (x : Option Tag × Event) : Shift c o o' x x
  | link (h : o.policy ≠ o'.policy ∨ o.aliases ≠ o'.aliases) {t : Tag}
    (ht : c.ruleFor t = .wikiLink ∨ c.ruleFor t = .image) (reference reference' : Reference)
    (freestanding : Bool) (parameters : Attributes) :
    Shift c o o' (some t, .opening (.link reference freestanding parameters))
      (some t, .opening (.link reference' freestanding parameters))
  | image (h : o.policy ≠ o'.policy ∨ o.aliases ≠ o'.aliases) {t : Tag}
    (ht : c.ruleFor t = .image) (reference reference' : Reference) (freestanding : Bool)
    (parameters : Attributes) :
    Shift c o o' (some t, .single (.image reference freestanding parameters))
      (some t, .single (.image reference' freestanding parameters))
  | gallery (h : o.aliases ≠ o'.aliases) {t : Tag} (ht : c.ruleFor t = .gallery) (id : String)
    (parameters : Attributes) (content content' : String) (inline : Bool) :
    Shift c o o' (some t, .single (.macroCall id parameters (some content) inline))
      (some t, .single (.macroCall id parameters (some content') inline))
  | template (h : o.templatePrefix ≠ o'.templatePrefix) {t : Tag} (ht : c.ruleFor t = .template)
    (name : String) (parameters : Attributes) (content : Option String) (inline : Bool) :
    Shift c o o'
      (some t, .single (.macroCall (o.templatePrefix ++ name) parameters content inline))
      (some t, .single (.macroCall (o'.templatePrefix ++ name) parameters content inline))

/-- Steps that tell the same but for what options decide. -/
structure Step.Shifted (c : Converter) (o o' : Options) (s s' : Step) : Prop where
  events : List.Forall₂ (Shift c o o') (s.attributed c.inline) (s'.attributed c.inline)
  report : (s.rendering c.inline).report = (s'.rendering c.inline).report

/-- Steps that tell the same but for automatic tables of contents, which the second one leaves out. -/
structure Step.Asked (parse : Inline.Parser) (s s' : Step) : Prop where
  events : s'.attributed parse = (s.attributed parse).filter (!isAutomaticToc ·)
  report : (s.rendering parse).report = (s'.rendering parse).report

theorem Resolver.isSome_imageLink (r r' : Resolver) (f : EmbeddedFile) :
    (r.imageLink f).isSome = (r'.imageLink f).isSome := by
  unfold imageLink
  split
  · rfl
  · split
    · rfl
    · split <;> rfl

namespace Converter

variable (c : Converter)

def withOptions (o : Options) : Converter := { c with options := o }

variable {c} {o o' : Options} {t : Tag}

theorem shifted_refl (s : Step) : s.Shifted c o o' s :=
  ⟨List.forall₂_same.2 fun x _ ↦ .same x, rfl⟩

theorem shifted_portions_self (portions : List Portion) :
    List.Forall₂ (Portion.Twin (Step.Shifted c o o') t) portions portions :=
  Portion.twin_self fun _ _ ↦ shifted_refl _

theorem shifted_single {e e' : Event} (h : Shift c o o' (some t, e) (some t, e')) :
    Portion.Twin (Step.Shifted c o o') t (.own [e]) (.own [e']) :=
  .own ⟨.cons h .nil, rfl⟩

theorem resolver_eq (hp : o.policy = o'.policy) (ha : o.aliases = o'.aliases) :
    (c.withOptions o).resolver = (c.withOptions o').resolver := by
  simp only [resolver, withOptions, hp, ha]

theorem shifted_wikiLink (h : o.policy ≠ o'.policy ∨ o.aliases ≠ o'.aliases)
    (ht : c.ruleFor t = .wikiLink) :
    List.Forall₂ (Portion.Twin (Step.Shifted c o o') t)
      ((Plan.wikiLink (c.withOptions o).resolver t).portions t)
      ((Plan.wikiLink (c.withOptions o').resolver t).portions t) := by
  unfold Plan.wikiLink
  split
  · rename_i l _
    have hlink := Shift.link h (.inl ht) ((c.withOptions o).resolver.link l.target)
      ((c.withOptions o').resolver.link l.target) l.freestanding t.attributes
    exact .cons (shifted_single hlink) (shifted_portions_self _)
  · exact shifted_portions_self _

theorem shift_embedding (h : o.policy ≠ o'.policy ∨ o.aliases ≠ o'.aliases)
    (ht : c.ruleFor t = .image) (f : EmbeddedFile) :
    List.Forall₂ (Shift c o o')
      ((Plan.embedding ((c.withOptions o).resolver.embed f)).map (some t, ·))
      ((Plan.embedding ((c.withOptions o').resolver.embed f)).map (some t, ·)) := by
  have hmedia : (c.withOptions o').resolver.mediaType = (c.withOptions o).resolver.mediaType := rfl
  have hlink := (c.withOptions o).resolver.isSome_imageLink (c.withOptions o').resolver f
  simp only [Resolver.embed, hmedia]
  split
  · -- Whether an image is in a link is up to the file alone.
    cases hl : (c.withOptions o).resolver.imageLink f with
    | none =>
      have hl' : (c.withOptions o').resolver.imageLink f = none := by
        rw [hl] at hlink
        exact Option.isNone_iff_eq_none.1 (by simpa using hlink.symm)
      rw [hl']
      exact .cons (.image h ht _ _ _ _) .nil
    | some link =>
      obtain ⟨link', hl'⟩ : ∃ link', (c.withOptions o').resolver.imageLink f = some link' := by
        rw [hl] at hlink
        exact Option.isSome_iff_exists.1 hlink.symm
      rw [hl']
      exact .cons (.link h (.inr ht) _ _ _ _)
        (.cons (.image h ht _ _ _ _) (.cons (.same _) .nil))
  · exact .cons (.link h (.inr ht) _ _ _ _) (.cons (.same _) .nil)

theorem shift_gallery (h : o.aliases ≠ o'.aliases) (ht : c.ruleFor t = .gallery) :
    Shift c o o' (some t, .single (Macro.gallery (c.withOptions o).resolver.namespaces t))
      (some t, .single (Macro.gallery (c.withOptions o').resolver.namespaces t)) := by
  obtain ⟨id, parameters, content, inline, hcall⟩ : ∃ id parameters content inline,
      Macro.ofTag (some "gallery") none t = .macroCall id parameters content inline :=
    ⟨_, _, _, _, rfl⟩
  simp only [Macro.gallery, hcall]
  cases content with
  | none => exact .same _
  | some body => exact .gallery h ht id parameters _ _ inline

theorem shift_template (h : o.templatePrefix ≠ o'.templatePrefix) (ht : c.ruleFor t = .template) :
    Shift c o o' (some t, .single (Macro.template o.templatePrefix t))
      (some t, .single (Macro.template o'.templatePrefix t)) :=
  .template h ht t.name _ _ false

theorem shifted_portions (hn : o.noToc = o'.noToc) (t : Tag) :
    List.Forall₂ (Portion.Twin (Step.Shifted c o o') t)
      (((c.withOptions o).planFor t).portions t) (((c.withOptions o').planFor t).portions t) := by
  have hrule (o : Options) : (c.withOptions o).ruleFor t = c.ruleFor t := rfl
  simp only [planFor, hrule]
  cases hr : c.ruleFor t with
  | wikiLink =>
    by_cases h : o.policy = o'.policy ∧ o.aliases = o'.aliases
    · simp only [Rule.plan, resolver_eq h.1 h.2]
      exact shifted_portions_self _
    · exact shifted_wikiLink (not_and_or.1 h) hr
  | image =>
    simp only [Rule.plan]
    split
    · by_cases h : o.policy = o'.policy ∧ o.aliases = o'.aliases
      · rw [resolver_eq h.1 h.2]
        exact shifted_portions_self _
      · exact .cons (.own ⟨shift_embedding (not_and_or.1 h) hr _, rfl⟩) .nil
    · exact shifted_portions_self _
  | gallery =>
    by_cases h : o.aliases = o'.aliases
    · simp only [Rule.plan, resolver, withOptions, h]
      exact shifted_portions_self _
    · exact .cons (shifted_single (shift_gallery h hr)) .nil
  | template =>
    by_cases h : o.templatePrefix = o'.templatePrefix
    · simp only [Rule.plan, withOptions, h]
      exact shifted_portions_self _
    · exact .cons (shifted_single (shift_template h hr)) .nil
  | tableOfContents =>
    simp only [Rule.plan, withOptions, hn]
    exact shifted_portions_self _
  | _ => exact shifted_portions_self _

theorem ruleFor_of_isAutomatic (h : t.isAutomatic) : c.ruleFor t = .tableOfContents := by
  obtain ⟨name, attributes, children, body, shape, context⟩ := t
  cases shape with
  | tableOfContents shown explicit => rfl
  | _ => cases h

theorem asked_self {s : Step} (h : ∀ x ∈ s.attributed c.inline, isAutomaticToc x = false) :
    s.Asked c.inline s := by
  refine ⟨(List.filter_eq_self.2 fun x hx ↦ ?_).symm, rfl⟩
  rw [h x hx]
  rfl

theorem asked_wrote (ht : t.isAutomatic = false) (events : List Event) :
    (Step.wrote t events).Asked c.inline (.wrote t events) := by
  refine asked_self fun x hx ↦ ?_
  obtain ⟨e, -, rfl⟩ := List.mem_map.1 hx
  simp only [isAutomaticToc, Option.any_some, ht, Bool.false_and]

theorem asked_read (text : String) : (Step.read text).Asked c.inline (.read text) := by
  refine asked_self fun x hx ↦ ?_
  obtain ⟨e, -, rfl⟩ := List.mem_map.1 hx
  rfl

theorem tableOfContents_of_not_isAutomatic (ht : t.isAutomatic = false) (noToc : Bool) :
    Macro.tableOfContents noToc t = Macro.tableOfContents true t := by
  obtain ⟨name, attributes, children, body, shape, context⟩ := t
  cases shape with
  | tableOfContents shown explicit =>
    cases explicit with
    | true => rfl
    | false => cases ht
  | _ => rfl

theorem tableOfContents_of_isAutomatic (ht : t.isAutomatic) (noToc : Bool) :
    Macro.tableOfContents true t = [] ∧
      ∀ s ∈ Macro.tableOfContents noToc t, s = .macroCall "toc" ∅ none false := by
  obtain ⟨name, attributes, children, body, shape, context⟩ := t
  cases shape with
  | tableOfContents shown explicit =>
    cases explicit with
    | true => cases ht
    | false => cases shown <;> cases noToc <;> simp [Macro.tableOfContents]
  | _ => cases ht

theorem asked_portions (o : Options) (t : Tag) :
    List.Forall₂ (Portion.Twin (Step.Asked c.inline) t) (((c.withOptions o).planFor t).portions t)
      (((c.withOptions { o with noToc := true }).planFor t).portions t) := by
  have hrule (o : Options) : (c.withOptions o).ruleFor t = c.ruleFor t := rfl
  simp only [planFor, hrule]
  by_cases ht : t.isAutomatic = true
  · obtain ⟨hnone, htoc⟩ := tableOfContents_of_isAutomatic ht o.noToc
    rw [ruleFor_of_isAutomatic ht]
    simp only [Rule.plan, withOptions, hnone]
    refine .cons (.own ⟨?_, rfl⟩) .nil
    refine (List.filter_eq_nil_iff.2 fun x hx ↦ ?_).symm
    obtain ⟨e, he, rfl⟩ := List.mem_map.1 hx
    obtain ⟨s, hs, rfl⟩ := List.mem_map.1 he
    simp [isAutomaticToc, ht, htoc s hs]
  · have hf : t.isAutomatic = false := Bool.eq_false_iff.2 ht
    have hplan : (c.ruleFor t).plan (c.withOptions { o with noToc := true }) t =
        (c.ruleFor t).plan (c.withOptions o) t := by
      cases c.ruleFor t with
      | tableOfContents =>
        have htoc := tableOfContents_of_not_isAutomatic hf o.noToc
        simp only [Rule.plan, withOptions, htoc]
      | _ => rfl
    rw [hplan]
    exact Portion.twin_self fun events _ ↦ asked_wrote hf events

theorem shifted_steps (c : Converter) (o o' : Options) (hn : o.noToc = o'.noToc)
    (hd : o.maxDepth = o'.maxDepth) (tokens : List Token) :
    List.Forall₂ (Step.Shifted c o o') ((c.withOptions o).steps tokens)
      ((c.withOptions o').steps tokens) := by
  have hroom : (c.withOptions o').options.maxDepth = (c.withOptions o).options.maxDepth := hd.symm
  simp only [steps, hroom]
  exact forall₂_trail (shifted_refl _) (fun _ ↦ shifted_refl _) (shifted_portions hn) _ _

theorem asked_steps (c : Converter) (o : Options) (tokens : List Token) :
    List.Forall₂ (Step.Asked c.inline) ((c.withOptions o).steps tokens)
      ((c.withOptions { o with noToc := true }).steps tokens) := by
  have hcut : Step.cut.Asked c.inline .cut := asked_self fun x hx ↦ by cases hx
  exact forall₂_trail hcut asked_read (asked_portions o) _ _

theorem report_fragment_of_forall₂ {a b : Converter} {S : Step → Step → Prop} {tokens : List Token}
    (hS : ∀ {s s'}, S s s' → (s.rendering a.inline).report = (s'.rendering b.inline).report)
    (h : List.Forall₂ S (a.steps tokens) (b.steps tokens)) :
    (a.fragment tokens).report = (b.fragment tokens).report := by
  rw [← told_steps, ← told_steps]
  exact related_told (R := fun x y ↦ x.report = y.report) rfl (congrArg₂ (· + ·)) hS h

theorem forall₂_attributed (c : Converter) (o o' : Options) (hn : o.noToc = o'.noToc)
    (hd : o.maxDepth = o'.maxDepth) (tokens : List Token) :
    List.Forall₂ (Shift c o o') ((c.withOptions o).attributed tokens)
      ((c.withOptions o').attributed tokens) :=
  List.rel_flatMap (shifted_steps c o o' hn hd tokens) fun _ _ h ↦ h.events

theorem attributed_noToc (o : Options) (tokens : List Token) :
    (c.withOptions { o with noToc := true }).attributed tokens =
      ((c.withOptions o).attributed tokens).filter (!isAutomaticToc ·) := by
  have hsteps := c.asked_steps o tokens
  unfold attributed
  generalize (c.withOptions o).steps tokens = steps at hsteps ⊢
  generalize (c.withOptions { o with noToc := true }).steps tokens = steps' at hsteps ⊢
  induction hsteps with
  | nil => rfl
  | cons hs _ ih =>
    simp only [List.flatMap_cons, List.filter_append]
    exact congrArg₂ (· ++ ·) hs.events ih

theorem shift_of_noToc {b b' : Bool} {x y : Option Tag × Event}
    (h : Shift c { o with noToc := b } { o' with noToc := b' } x y) : Shift c o o' x y := by
  cases h with
  | same => exact .same x
  | link h ht =>
    have hresolver : o.policy ≠ o'.policy ∨ o.aliases ≠ o'.aliases := h
    exact .link hresolver ht ..
  | image h ht =>
    have hresolver : o.policy ≠ o'.policy ∨ o.aliases ≠ o'.aliases := h
    exact .image hresolver ht ..
  | gallery h ht =>
    have haliases : o.aliases ≠ o'.aliases := h
    exact .gallery haliases ht ..
  | template h ht =>
    have hname : o.templatePrefix ≠ o'.templatePrefix := h
    exact .template hname ht ..

theorem forall₂_attributed_noToc (c : Converter) (o o' : Options) (hd : o.maxDepth = o'.maxDepth)
    (b : Bool) (tokens : List Token) :
    List.Forall₂ (Shift c o o') ((c.withOptions { o with noToc := b }).attributed tokens)
      ((c.withOptions { o' with noToc := b }).attributed tokens) := by
  have hshift := c.forall₂_attributed { o with noToc := b } { o' with noToc := b } rfl hd tokens
  refine List.Forall₂.imp (fun x y hxy ↦ ?_) hshift
  exact shift_of_noToc hxy

theorem keepAsked_false (events : List (Option Tag × Event)) : keepAsked false events = events :=
  List.filter_true events

theorem forall₂_keepAsked (c : Converter) {o o' : Options} (hd : o.maxDepth = o'.maxDepth)
    (tokens : List Token) :
    List.Forall₂ (Shift c o o')
      (keepAsked (!o.noToc && o'.noToc) ((c.withOptions o).attributed tokens))
      (keepAsked (!o'.noToc && o.noToc) ((c.withOptions o').attributed tokens)) := by
  have hsame := c.forall₂_attributed_noToc o o' hd
  have hless (o : Options) : (c.withOptions { o with noToc := true }).attributed tokens =
      keepAsked true ((c.withOptions o).attributed tokens) := attributed_noToc o tokens
  obtain ⟨policy, aliases, noToc, templatePrefix, maxDepth⟩ := o
  obtain ⟨policy', aliases', noToc', templatePrefix', maxDepth'⟩ := o'
  cases noToc with
  | false =>
    cases noToc' with
    | false => simpa only [Bool.and_false, keepAsked_false] using hsame false tokens
    | true =>
      simp only [Bool.not_false, Bool.and_true, Bool.not_true, Bool.and_false, keepAsked_false, ← hless]
      exact hsame true tokens
  | true =>
    cases noToc' with
    | false =>
      simp only [Bool.not_false, Bool.and_true, Bool.not_true, Bool.and_false, keepAsked_false, ← hless]
      exact hsame true tokens
    | true => simpa only [Bool.not_true, Bool.false_and, keepAsked_false] using hsame true tokens

theorem report_withOptions (hd : o.maxDepth = o'.maxDepth) (tokens : List Token) :
    ((c.withOptions o).fragment tokens).report = ((c.withOptions o').fragment tokens).report := by
  have hasked (o : Options) : ((c.withOptions o).fragment tokens).report =
      ((c.withOptions { o with noToc := true }).fragment tokens).report :=
    report_fragment_of_forall₂ (fun h ↦ h.report) (c.asked_steps o tokens)
  have hshifted :=
    c.shifted_steps { o with noToc := true } { o' with noToc := true } rfl hd tokens
  calc ((c.withOptions o).fragment tokens).report
      = ((c.withOptions { o with noToc := true }).fragment tokens).report := hasked o
    _ = ((c.withOptions { o' with noToc := true }).fragment tokens).report :=
        report_fragment_of_forall₂ (fun h ↦ h.report) hshifted
    _ = ((c.withOptions o').fragment tokens).report := (hasked o').symm

theorem events_document_eq (tokens : List Token) :
    (c.document tokens).events =
      .opening .document :: ((c.attributed tokens).map Prod.snd ++ [.closing .document]) := by
  rw [document_eq, events_between, map_snd_attributed]
  rfl

/-- Converters that differ in their options alone, and have the same ceiling, leave out the same and
tell the same but for what `Shift` allows; where automatic tables of contents are turned off from the
one to the other, these are all that goes away. -/
theorem options_act_locally (c : Converter) {o o' : Options} (h : o.maxDepth = o'.maxDepth)
    (tokens : List Token) :
    let a := c.withOptions o
    let b := c.withOptions o'
    (a.document tokens).report = (b.document tokens).report ∧
      (∀ x : Converter, (x.document tokens).events =
        .opening .document :: ((x.attributed tokens).map Prod.snd ++ [.closing .document])) ∧
      List.Forall₂ (Shift c o o') (keepAsked (!o.noToc && o'.noToc) (a.attributed tokens))
        (keepAsked (!o'.noToc && o.noToc) (b.attributed tokens)) := by
  intro a b
  refine ⟨?_, fun x ↦ events_document_eq tokens, c.forall₂_keepAsked h tokens⟩
  simp only [a, b, document_eq, report_between]
  exact report_withOptions h tokens

theorem options_act_locally_page :
    let c : Converter := {}
    let o : Options := {}
    let o' : Options :=
      { policy := .native, aliases := .insert ∅ 6 ["Bild"], noToc := true, templatePrefix := "x-" }
    let tokens : List Token :=
      [.tag { Tag.named "wikilink" with shape := .link { target := .internal "a b" none } },
        .tag ((Tag.named "gallery").withBody "Bild:x.png"),
        .tag ((Tag.named "t").withShape .template),
        .tag ((Tag.named "toc").withShape (.tableOfContents true false))]
    let a := c.withOptions o
    let b := c.withOptions o'
    o.maxDepth = o'.maxDepth ∧ (a.document tokens).report = (b.document tokens).report ∧
      List.Forall₂ (Shift c o o') (keepAsked true (a.attributed tokens))
        (keepAsked false (b.attributed tokens)) ∧
      (a.document tokens).events.drop 3 =
        [.single (.macroCall "gallery" ∅ (some "[[File:Bild:x.png]]") false),
          .single (.macroCall "t" ∅ none false), .single (.macroCall "toc" ∅ none false),
          .closing .document] ∧
      (b.document tokens).events.drop 3 =
        [.single (.macroCall "gallery" ∅ (some "[[Bild:x.png]]") false),
          .single (.macroCall "x-t" ∅ none false), .closing .document] := by
  intro c o o' tokens a b
  have hdepth : o.maxDepth = o'.maxDepth := rfl
  obtain ⟨hreport, -, hshift⟩ := options_act_locally c hdepth tokens
  exact ⟨hdepth, hreport, hshift, by decide +kernel, by decide +kernel⟩

end Converter

end WikiStream
