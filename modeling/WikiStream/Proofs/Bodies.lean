import Mathlib.Data.List.Infix
import WikiStream.Proofs.Skeleton
import WikiStream.Proofs.Trail

namespace WikiStream

namespace Macro

def breaks : List (List Char) := [[], ['\n'], ['\r', '\n']]

structure LongestBreak (p : List Char → Prop) (e : List Char) : Prop where
  mem : e ∈ breaks
  holds : p e
  longest : ∀ e' ∈ breaks, p e' → e'.length ≤ e.length

/-- The longest break has been taken from the start of the body, and from the end of what was left. -/
def IsBetweenBreaks (body content : String) : Prop :=
  ∃ p q, body.toList = p ++ (content.toList ++ q) ∧ LongestBreak (· <+: body.toList) p ∧
    LongestBreak (· <:+ content.toList ++ q) q

theorem longestBreak_both {p : List Char → Prop} (h : p ['\r', '\n']) :
    LongestBreak p ['\r', '\n'] where
  mem := by simp [breaks]
  holds := h
  longest := by simp [breaks]

theorem longestBreak_feed {p : List Char → Prop} (h : p ['\n']) (hboth : ¬p ['\r', '\n']) :
    LongestBreak p ['\n'] where
  mem := by simp [breaks]
  holds := h
  longest := by simp [breaks, hboth]

theorem longestBreak_nil {p : List Char → Prop} (h : p []) (hfeed : ¬p ['\n'])
    (hboth : ¬p ['\r', '\n']) : LongestBreak p [] where
  mem := by simp [breaks]
  holds := h
  longest := by simp [breaks, hfeed, hboth]

theorem exists_dropFirstBreak (s : List Char) :
    ∃ p, s = p ++ dropFirstBreak s ∧ LongestBreak (· <+: s) p := by
  fun_cases dropFirstBreak s with
  | case1 rest => exact ⟨['\r', '\n'], rfl, longestBreak_both ⟨rest, rfl⟩⟩
  | case2 rest =>
    refine ⟨['\n'], rfl, longestBreak_feed ⟨rest, rfl⟩ ?_⟩
    rintro ⟨_, h⟩
    exact absurd (List.cons.inj h).1 (by decide)
  | case3 _ hboth hfeed =>
    refine ⟨[], rfl, longestBreak_nil List.nil_prefix ?_ ?_⟩
    · rintro ⟨rest, h⟩
      exact hfeed rest h.symm
    · rintro ⟨rest, h⟩
      exact hboth rest h.symm

theorem exists_dropLastBreak (s : List Char) :
    ∃ q, s = dropLastBreak s ++ q ∧ LongestBreak (· <:+ s) q := by
  have hsuffix (q : List Char) : q <:+ s ↔ q.reverse <+: s.reverse := List.reverse_prefix.symm
  fun_cases dropLastBreak s with
  | case1 rest h =>
    refine ⟨['\r', '\n'], ?_, longestBreak_both ((hsuffix _).2 (h ▸ ⟨rest, rfl⟩))⟩
    rw [← List.reverse_reverse s, h]
    simp
  | case2 rest hboth h =>
    refine ⟨['\n'], ?_, longestBreak_feed ((hsuffix _).2 (h ▸ ⟨rest, rfl⟩)) fun hb ↦ ?_⟩
    · rw [← List.reverse_reverse s, h]
      simp
    · obtain ⟨rest', h'⟩ := (hsuffix _).1 hb
      exact hboth rest' (List.cons.inj (h'.trans h)).2.symm
  | case3 hboth hfeed =>
    refine ⟨[], (List.append_nil s).symm, longestBreak_nil List.nil_suffix ?_ ?_⟩ <;> intro hb <;>
      obtain ⟨rest, h⟩ := (hsuffix _).1 hb
    · exact hfeed rest h.symm
    · exact hboth rest h.symm

theorem isBetweenBreaks_blockContent (body : String) :
    IsBetweenBreaks body (blockContent body) := by
  obtain ⟨p, hp, hfirst⟩ := exists_dropFirstBreak body.toList
  obtain ⟨q, hq, hlast⟩ := exists_dropLastBreak (dropFirstBreak body.toList)
  refine ⟨p, q, ?_, hfirst, ?_⟩
  · rw [blockContent, String.toList_ofList, ← hq, ← hp]
  · rw [blockContent, String.toList_ofList, ← hq]
    exact hlast

end Macro

def Tag.call (t : Tag) : MacroCall :=
  match t.shape with
  | .macroCall call => call
  | _ => {}

/-- Whether the event of a tag has the body of the tag for its content. -/
def Rule.showsBody : Rule → Bool
  | verbatim _ | source | macroCall _ _ => true
  | _ => false

inductive Macro.Content (t : Tag) : Bool → Option String → Prop
  | absent {inline : Bool} : t.body = none ∨ t.call.hasContent = false → Content t inline none
  | whole {body : String} : t.body = some body → t.call.hasContent = true →
      Content t true (some body)
  | between {body content : String} : t.body = some body → t.call.hasContent = true →
      IsBetweenBreaks body content → Content t false (some content)

inductive Converter.TellsBody (c : Converter) (t : Tag) : Event → Prop
  | verbatim {inline : Bool} : c.ruleFor t = .verbatim inline →
      TellsBody c t (.single (.verbatim (t.body.getD "") inline t.attributes))
  | source {parameters : Attributes} {inline : Bool} : c.ruleFor t = .source →
      TellsBody c t (.single (.macroCall "code" parameters (some (t.body.getD "")) inline))
  | macroCall {id : Option String} {ofRule : Option Bool} {inline : Bool} {content : Option String} :
      c.ruleFor t = .macroCall id ofRule → (t.call.inline.or ofRule).getD (!t.inBlock) = inline →
      Macro.Content t inline content →
      TellsBody c t (.single (.macroCall ((t.call.id.or id).getD t.name) t.attributes content inline))

theorem Macro.ofTag_eq (id : Option String) (ofRule : Option Bool) (t : Tag) :
    let inline := (t.call.inline.or ofRule).getD (!t.inBlock)
    Macro.ofTag id ofRule t = .macroCall ((t.call.id.or id).getD t.name) t.attributes
      ((if t.call.hasContent then t.body else none).map fun body ↦
        if inline then body else blockContent body) inline := by
  obtain ⟨_, _, _, _, shape, _⟩ := t
  cases shape with
  | macroCall call =>
    obtain ⟨callId, callInline, _⟩ := call
    cases callId <;> cases callInline <;> rfl
  | _ => rfl

theorem Macro.content_of_call (t : Tag) (inline : Bool) :
    Macro.Content t inline ((if t.call.hasContent then t.body else none).map fun body ↦
      if inline then body else blockContent body) := by
  by_cases hcall : t.call.hasContent = true
  · rw [if_pos hcall]
    cases hbody : t.body with
    | none => exact .absent (.inl hbody)
    | some body =>
      cases inline with
      | true => exact .whole hbody hcall
      | false => exact .between hbody hcall (Macro.isBetweenBreaks_blockContent body)
  · rw [if_neg hcall]
    exact .absent (.inr (Bool.eq_false_iff.2 hcall))

namespace Converter

open Rendering

variable (c : Converter)

def showsBody (t : Tag) : Bool := (c.ruleFor t).showsBody

theorem exists_tellsBody {t : Tag} (h : c.showsBody t = true) :
    ∃ e, c.planFor t = .leaf [e] ∧ c.TellsBody t e := by
  rw [showsBody] at h
  rw [planFor]
  cases hrule : c.ruleFor t with
  | verbatim inline => exact ⟨_, rfl, .verbatim hrule⟩
  | source => exact ⟨_, rfl, .source hrule⟩
  | macroCall id ofRule =>
    refine ⟨_, ?_, .macroCall hrule rfl (Macro.content_of_call t _)⟩
    rw [Rule.plan, Macro.ofTag_eq]
    rfl
  | _ =>
    rw [hrule] at h
    cases h

section Texts

variable (f : String → String) (t : Tag)

theorem showsBody_mapTexts : c.showsBody (t.mapTexts f) = c.showsBody t := by
  rw [showsBody, showsBody, Tag.ruleFor_mapTexts]

theorem call_mapTexts : (t.mapTexts f).call = t.call := by
  obtain ⟨_, _, _, _, shape, _⟩ := t
  cases shape with
  | table table =>
    obtain ⟨_, _⟩ := table
    rfl
  | _ => rfl

theorem content_mapTexts_iff {inline : Bool} {content : Option String} :
    Macro.Content (t.mapTexts f) inline content ↔ Macro.Content t inline content := by
  have hcall := call_mapTexts f t
  constructor <;> rintro (h | ⟨hbody, h⟩ | ⟨hbody, h, hbetween⟩)
  · exact .absent (hcall ▸ h)
  · exact .whole hbody (hcall ▸ h)
  · exact .between hbody (hcall ▸ h) hbetween
  · exact .absent (hcall ▸ h)
  · exact .whole hbody (hcall ▸ h)
  · exact .between hbody (hcall ▸ h) hbetween

theorem tellsBody_mapTexts_iff {e : Event} : c.TellsBody (t.mapTexts f) e ↔ c.TellsBody t e := by
  have hcall := call_mapTexts f t
  have hrule := Tag.ruleFor_mapTexts f t c
  constructor
  · rintro (h | h | ⟨h, hinline, hcontent⟩)
    · exact .verbatim (hrule ▸ h)
    · exact .source (hrule ▸ h)
    · rw [hcall] at hinline ⊢
      exact .macroCall (hrule ▸ h) hinline ((content_mapTexts_iff f t).1 hcontent)
  · rintro (h | h | ⟨h, hinline, hcontent⟩)
    · exact .verbatim (hrule.trans h)
    · exact .source (hrule.trans h)
    · rw [← hcall] at hinline ⊢
      exact .macroCall (hrule.trans h) hinline ((content_mapTexts_iff f t).2 hcontent)

end Texts

def tagsFrom (inner : List Token → List Tag) : Token → List Tag
  | .content _ => []
  | .tag t => t :: (c.contentsOf (.tag t)).flatMap inner

/-- The tags that a walk comes to where `room` lists may lie inside each other. -/
def tagsWithin : Nat → List Token → List Tag
  | 0, _ => []
  | room + 1, tokens => tokens.flatMap (c.tagsFrom (tagsWithin room))

theorem mem_tagsWithin_iff {t : Tag} {room : Nat} {tokens : List Token} :
    t ∈ c.tagsWithin room tokens ↔ ∃ level < room, ∃ l ∈ c.listsAt level tokens, .tag t ∈ l := by
  induction room generalizing tokens with
  | zero => simp [tagsWithin]
  | succ room ih =>
    rw [tagsWithin, List.mem_flatMap]
    constructor
    · rintro ⟨token, htoken, ht⟩
      cases token with
      | content text => cases ht
      | tag s =>
        obtain rfl | ht := List.mem_cons.1 ht
        · exact ⟨0, Nat.succ_pos room, tokens, c.self_mem_listsAt_zero htoken, htoken⟩
        · obtain ⟨inner, hinner, ht⟩ := List.mem_flatMap.1 ht
          obtain ⟨level, hlevel, l, hl, ht⟩ := ih.1 ht
          exact ⟨level + 1, Nat.succ_lt_succ hlevel, l, c.mem_listsAt_succ htoken hinner hl, ht⟩
    · rintro ⟨level, hlevel, l, hl, ht⟩
      cases level with
      | zero =>
        cases tokens with
        | nil => cases hl
        | cons token rest =>
          obtain rfl := List.mem_singleton.1 hl
          exact ⟨.tag t, ht, List.mem_cons_self⟩
      | succ level =>
        rw [listsAt_succ] at hl
        obtain ⟨token, htoken, hin⟩ := List.mem_flatMap.1 hl
        obtain ⟨inner, hinner, hl⟩ := List.mem_flatMap.1 hin
        refine ⟨token, htoken, ?_⟩
        cases token with
        | content text => cases hinner
        | tag s =>
          have hin := ih.2 ⟨level, Nat.lt_of_succ_lt_succ hlevel, l, hl, ht⟩
          exact List.mem_cons_of_mem _ (List.mem_flatMap.2 ⟨inner, hinner, hin⟩)

theorem tagsWithin_mapTextsAll (f : String → String) (room : Nat) (tokens : List Token) :
    c.tagsWithin room (Token.mapTextsAll f tokens) =
      (c.tagsWithin room tokens).map (Tag.mapTexts f) := by
  induction room generalizing tokens with
  | zero => rfl
  | succ room ih =>
    rw [tagsWithin, tagsWithin, Token.mapTextsAll_eq_map, List.flatMap_map, List.map_flatMap]
    refine congrArg (List.flatMap · tokens) (funext fun token ↦ ?_)
    cases token with
    | content text => rfl
    | tag t =>
      rw [Token.mapTexts_tag, tagsFrom, tagsFrom, contentsOf, contentsOf, List.map_cons,
        Tag.planFor_mapTexts, ← Portion.insides_portions, ← Portion.insides_portions,
        Portion.portions_mapTexts]
      refine congrArg (t.mapTexts f :: ·) ?_
      induction (c.planFor t).portions t with
      | nil => rfl
      | cons portion portions ihp =>
        cases portion with
        | own events => exact ihp
        | inside l =>
          simp only [List.map_cons, Portion.mapTexts, Portion.insides_inside, List.flatMap_cons,
            List.map_append, ih, ihp]

def bodyEvents (told : List (Option Tag × Event)) : List (Option Tag × Event) :=
  told.filter fun p ↦ p.1.any c.showsBody

theorem bodyEvents_append (told told' : List (Option Tag × Event)) :
    c.bodyEvents (told ++ told') = c.bodyEvents told ++ c.bodyEvents told' := List.filter_append ..

theorem bodyEvents_read (text : String) :
    c.bodyEvents ((Step.read text).attributed c.inline) = [] := by
  refine List.filter_eq_nil_iff.2 fun p hp ↦ ?_
  obtain ⟨e, -, rfl⟩ := List.mem_map.1 hp
  exact Bool.false_ne_true

theorem bodyEvents_wrote {t : Tag} (h : c.showsBody t = false) (events : List Event) :
    c.bodyEvents ((Step.wrote t events).attributed c.inline) = [] := by
  refine List.filter_eq_nil_iff.2 fun p hp ↦ ?_
  obtain ⟨e, -, rfl⟩ := List.mem_map.1 hp
  rw [Option.any_some, h]
  exact Bool.false_ne_true

section Walk

/-- Each tag whose body is shown has its own event in turn, and no other one. -/
def TellsBodies (tags : List Tag) (steps : List Step) : Prop :=
  List.Forall₂ (fun t p ↦ p.1 = some t ∧ c.TellsBody t p.2) (tags.filter c.showsBody)
    (c.bodyEvents (steps.flatMap (Step.attributed c.inline)))

variable {c} {tags tags' : List Tag} {steps steps' : List Step}

theorem TellsBodies.append (h : c.TellsBodies tags steps) (h' : c.TellsBodies tags' steps') :
    c.TellsBodies (tags ++ tags') (steps ++ steps') := by
  rw [TellsBodies, List.filter_append, List.flatMap_append, bodyEvents_append]
  exact List.rel_append h h'

variable {inner : List Token → List Tag} {innerSteps : List Token → List Step}

theorem tellsBodies_stepsOf (h : ∀ tokens, c.TellsBodies (inner tokens) (innerSteps tokens))
    (token : Token) : c.TellsBodies (c.tagsFrom inner token) (c.stepsOf innerSteps token) := by
  cases token with
  | content text =>
    rw [TellsBodies, stepsOf, List.flatMap_singleton, bodyEvents_read]
    exact .nil
  | tag t =>
    rw [tagsFrom, stepsOf, contentsOf, ← Portion.insides_portions]
    by_cases hshown : c.showsBody t = true
    · obtain ⟨e, hplan, htells⟩ := c.exists_tellsBody hshown
      have htags : [t].filter c.showsBody = [t] := by simp [hshown]
      have hevents : c.bodyEvents ((Step.wrote t [e]).attributed c.inline) = [(some t, e)] := by
        simp [bodyEvents, Step.attributed, hshown]
      rw [hplan]
      change List.Forall₂ _ ([t].filter c.showsBody) (c.bodyEvents (_ ++ []))
      rw [htags, List.append_nil, hevents]
      exact .cons ⟨rfl, htells⟩ .nil
    -- What any other tag writes itself is passed over, and the lists inside it are gone through.
    · rw [TellsBodies, List.filter_cons_of_neg hshown]
      change c.TellsBodies _ _
      induction (c.planFor t).portions t with
      | nil => exact .nil
      | cons portion portions ihp =>
        rw [List.flatMap_cons]
        cases portion with
        | own events =>
          have hnone : c.TellsBodies [] [.wrote t events] := by
            rw [TellsBodies, List.flatMap_singleton,
              bodyEvents_wrote c (Bool.eq_false_iff.2 hshown)]
            exact .nil
          exact hnone.append ihp
        | inside l =>
          rw [Portion.insides_inside, List.flatMap_cons]
          exact (h l).append ihp

theorem tellsBodies_trail (room : Nat) (tokens : List Token) :
    c.TellsBodies (c.tagsWithin room tokens) (c.trail room tokens) := by
  induction room generalizing tokens with
  | zero => cases tokens <;> exact .nil
  | succ room ih =>
    rw [trail_succ, tagsWithin]
    induction tokens with
    | nil => exact .nil
    | cons token rest iht =>
      rw [List.flatMap_cons, List.flatMap_cons]
      exact (tellsBodies_stepsOf ih token).append iht

end Walk

theorem map_tagsWithin_trimAll (room : Nat) (tokens : List Token) :
    (c.tagsWithin room (Token.trimAll tokens)).map (Tag.mapTexts Token.emptied) =
      (c.tagsWithin room tokens).map (Tag.mapTexts Token.emptied) := by
  rw [← tagsWithin_mapTextsAll, ← tagsWithin_mapTextsAll]
  exact congrArg (c.tagsWithin room) (Token.skeleton_trimAll tokens)

theorem map_filter_showsBody (f : String → String) (tags : List Tag) :
    (tags.filter c.showsBody).map (Tag.mapTexts f) =
      (tags.map (Tag.mapTexts f)).filter c.showsBody := by
  rw [List.filter_map]
  refine congrArg _ (List.filter_congr fun t _ ↦ ?_)
  exact (c.showsBody_mapTexts f t).symm

/-- Each of the tags in the tree that was given has its event, which is told for the same tag in the
trimmed tree. -/
theorem forall₂_bodyEvents (tokens : List Token) :
    List.Forall₂ (fun t p ↦ c.TellsBody t p.2 ∧
        ∃ t', p.1 = some t' ∧ t'.mapTexts Token.emptied = t.mapTexts Token.emptied)
      ((c.tagsWithin c.options.maxDepth.toNat tokens).filter c.showsBody)
      (c.bodyEvents (c.attributed tokens)) := by
  have htrimmed : c.TellsBodies _ (c.steps tokens) :=
    tellsBodies_trail c.options.maxDepth.toNat (Token.trimAll tokens)
  let same (s : Tag) (p : Option Tag × Event) : Prop :=
    c.TellsBody s p.2 ∧ ∃ t', p.1 = some t' ∧ t'.mapTexts Token.emptied = s
  have hemptied : List.Forall₂ (fun (t : Tag) p ↦ same (t.mapTexts Token.emptied) p) _ _ :=
    htrimmed.imp fun t p h ↦ ⟨(c.tellsBody_mapTexts_iff _ t).2 h.2, t, h.1, rfl⟩
  rw [← List.forall₂_map_left_iff, map_filter_showsBody, map_tagsWithin_trimAll,
    ← map_filter_showsBody, List.forall₂_map_left_iff] at hemptied
  exact hemptied.imp fun t p h ↦ ⟨(c.tellsBody_mapTexts_iff _ t).1 h.1, h.2⟩

theorem visit_showsBody {t : Tag} (h : c.showsBody t = true) :
    ∃ e, c.TellsBody t e ∧
      ∀ s, (c.visit (.tag t)).run s = ((), { s with events := s.events.push e }) := by
  obtain ⟨e, hplan, htells⟩ := c.exists_tellsBody h
  refine ⟨e, htells, fun s ↦ ?_⟩
  rw [visit, hplan, follow]
  rfl

/-- Every tag whose body is shown and that a walk comes to has one event of its own, in turn, with the
body that it has in the tree that was given. Visiting it adds that event and does nothing else, and
cleaning the tree changes no body. -/
theorem bodies_survive (tokens : List Token) :
    List.Forall₂ (fun t p ↦ c.TellsBody t p.2 ∧
        ∃ t', p.1 = some t' ∧ t'.mapTexts Token.emptied = t.mapTexts Token.emptied)
      ((c.tagsWithin c.options.maxDepth.toNat tokens).filter c.showsBody)
      ((c.attributed tokens).filter fun p ↦ p.1.any c.showsBody) ∧
    (∀ t, t ∈ c.tagsWithin c.options.maxDepth.toNat tokens ↔
      ∃ level < c.options.maxDepth.toNat, ∃ l ∈ c.listsAt level tokens, .tag t ∈ l) ∧
    (c.document tokens).events = .opening .document ::
      ((c.attributed tokens).map Prod.snd ++ [.closing .document]) ∧
    (∀ t, c.showsBody t = true → ∃ e, c.TellsBody t e ∧
      ∀ s, (c.visit (.tag t)).run s = ((), { s with events := s.events.push e })) ∧
    (Token.tags (Token.cleanAll tokens)).map Tag.body = (Token.tags tokens).map Tag.body := by
  refine ⟨c.forall₂_bodyEvents tokens, fun t ↦ c.mem_tagsWithin_iff, ?_,
    fun t ↦ c.visit_showsBody, ?_⟩
  · rw [map_snd_attributed, document_eq, events_between]
    rfl
  · rw [Token.cleanAll_eq_trimAll, Token.tags_trimAll, List.map_map]
    rfl

theorem bodies_survive_formula :
    let c : Converter := {}
    let formula := ((Tag.named "math").withBody "\r\n a\u00a0&amp;\n\n").withContext "div"
    let list := (Tag.named "wikilist").withShape (.list [.line "*" [.tag formula]])
    c.showsBody formula = true ∧
      (∃ e, c.TellsBody formula e ∧
        (c.visit (.tag formula)).run {} = ((), { events := #[e] })) ∧
      (c.fragment [.tag list]).events =
        [.single (.macroCall "formula" ∅ (some " a\u00a0&amp;\n") false)] := by
  intro c formula list
  have hshown : c.showsBody formula = true := by decide +kernel
  obtain ⟨-, -, -, hvisit, -⟩ := c.bodies_survive [.tag list]
  obtain ⟨e, htells, hrun⟩ := hvisit formula hshown
  refine ⟨hshown, ⟨e, htells, hrun {}⟩, ?_⟩
  decide +kernel

end Converter

end WikiStream
