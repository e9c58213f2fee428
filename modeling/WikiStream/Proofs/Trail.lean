import Mathlib.Data.List.Forall2
import WikiStream.Proofs.Portions
import WikiStream.Proofs.Traversal

namespace WikiStream

inductive Step
  | wrote (t : Tag) (events : List Event)
  | read (text : String)
  | cut

namespace Step

def rendering (parse : Inline.Parser) : Step → Rendering
  | wrote _ events => .ofEvents events
  | read text => .ofText parse text
  | cut => .truncated

/-- The events that a step tells, each with the tag that it is written for. -/
def attributed (parse : Inline.Parser) : Step → List (Option Tag × Event)
  | wrote t events => events.map (some t, ·)
  | s => (s.rendering parse).events.map (none, ·)

theorem map_snd_attributed (parse : Inline.Parser) (s : Step) :
    (s.attributed parse).map Prod.snd = (s.rendering parse).events := by
  cases s <;> exact (List.map_map ..).trans (List.map_id' _)

end Step

def Portion.steps (inner : List Token → List Step) (t : Tag) : Portion → List Step
  | own events => [.wrote t events]
  | inside tokens => inner tokens

namespace Converter

open Rendering

variable (c : Converter)

def stepsOf (inner : List Token → List Step) : Token → List Step
  | .content text => [.read text]
  | .tag t => ((c.planFor t).portions t).flatMap (Portion.steps inner t)

/-- The steps of the walk of a list of tokens where `room` lists may lie inside each other. -/
def trail : Nat → List Token → List Step
  | _, [] => []
  | 0, _ :: _ => [.cut]
  | room + 1, tokens => tokens.flatMap (c.stepsOf (trail room))

theorem trail_succ (room : Nat) (tokens : List Token) :
    c.trail (room + 1) tokens = tokens.flatMap (c.stepsOf (c.trail room)) := by
  cases tokens <;> rfl

def told (steps : List Step) : Rendering := join (steps.map (Step.rendering c.inline))

@[simp] theorem told_cons (s : Step) (steps : List Step) :
    c.told (s :: steps) = s.rendering c.inline ++ c.told steps := rfl

@[simp] theorem told_append (steps rest : List Step) :
    c.told (steps ++ rest) = c.told steps ++ c.told rest := by
  simp only [told, List.map_append, join_append]

theorem told_stepsOf {inner : List Token → Rendering} {innerSteps : List Token → List Step}
    (h : ∀ tokens, c.told (innerSteps tokens) = inner tokens) (t : Token) :
    c.told (c.stepsOf innerSteps t) = c.renderToken inner t := by
  cases t with
  | content text => exact append_empty _
  | tag t =>
    simp only [stepsOf, renderToken, ← assemble_portions]
    induction (c.planFor t).portions t with
    | nil => rfl
    | cons portion portions ih =>
      have hportion : c.told (portion.steps innerSteps t) = portion.fill inner := by
        cases portion with
        | own events => exact append_empty _
        | inside tokens => exact h tokens
      simp only [List.flatMap_cons, told_append, assemble_cons, hportion, ih]

theorem told_trail (room : Nat) (tokens : List Token) :
    c.told (c.trail room tokens) = c.render room tokens := by
  induction room generalizing tokens with
  | zero =>
    cases tokens with
    | nil => rfl
    | cons token rest => exact append_empty _
  | succ room ih =>
    rw [trail_succ, render_succ]
    induction tokens with
    | nil => rfl
    | cons t rest iht =>
      simp only [List.flatMap_cons, told_append, List.map_cons, join_cons, iht]
      rw [c.told_stepsOf ih]

def steps (tokens : List Token) : List Step :=
  c.trail c.options.maxDepth.toNat (Token.trimAll tokens)

theorem told_steps (tokens : List Token) : c.told (c.steps tokens) = c.fragment tokens := by
  rw [fragment_eq]
  exact c.told_trail ..

def attributed (tokens : List Token) : List (Option Tag × Event) :=
  (c.steps tokens).flatMap (Step.attributed c.inline)

theorem map_snd_attributed (tokens : List Token) :
    (c.attributed tokens).map Prod.snd = (c.fragment tokens).events := by
  rw [← told_steps, attributed]
  induction c.steps tokens with
  | nil => rfl
  | cons s steps ih =>
    simp only [List.flatMap_cons, List.map_append, Step.map_snd_attributed, told_cons, events_append,
      ih]

end Converter

/-- The same portion for `t` but for the events in it, which make related steps. -/
inductive Portion.Twin (S : Step → Step → Prop) (t : Tag) : Portion → Portion → Prop
  | own {events events' : List Event} (h : S (.wrote t events) (.wrote t events')) :
    Twin S t (.own events) (.own events')
  | inside (tokens : List Token) : Twin S t (.inside tokens) (.inside tokens)

theorem Portion.twin_self {S : Step → Step → Prop} {t : Tag} {portions : List Portion}
    (h : ∀ events, .own events ∈ portions → S (.wrote t events) (.wrote t events)) :
    List.Forall₂ (Portion.Twin S t) portions portions := by
  refine List.forall₂_same.2 fun portion hp ↦ ?_
  cases portion with
  | own events => exact .own (h events hp)
  | inside tokens => exact .inside tokens

namespace Converter

variable {c c' : Converter} {S : Step → Step → Prop}

theorem forall₂_trail (hcut : S .cut .cut) (hread : ∀ text, S (.read text) (.read text))
    (htag : ∀ t : Tag, List.Forall₂ (Portion.Twin S t) ((c.planFor t).portions t)
      ((c'.planFor t).portions t))
    (room : Nat) (tokens : List Token) :
    List.Forall₂ S (c.trail room tokens) (c'.trail room tokens) := by
  induction room generalizing tokens with
  | zero =>
    cases tokens with
    | nil => exact .nil
    | cons token rest => exact .cons hcut .nil
  | succ room ih =>
    have hportion (t : Tag) {p p' : Portion} (h : p.Twin S t p') :
        List.Forall₂ S (p.steps (c.trail room) t) (p'.steps (c'.trail room) t) := by
      cases h with
      | own h => exact .cons h .nil
      | inside tokens => exact ih tokens
    rw [trail_succ, trail_succ]
    induction tokens with
    | nil => exact .nil
    | cons token rest iht =>
      rw [List.flatMap_cons, List.flatMap_cons]
      refine List.rel_append ?_ iht
      cases token with
      | content text => exact .cons (hread text) .nil
      | tag t => exact List.rel_flatMap (htag t) fun _ _ h ↦ hportion t h

/-- What related steps tell is related, if the relation is kept where renderings are put together. -/
theorem related_told {R : Rendering → Rendering → Prop} (hempty : R ∅ ∅)
    (happend : ∀ {a b a' b'}, R a b → R a' b' → R (a ++ a') (b ++ b'))
    (hstep : ∀ {s s'}, S s s' → R (s.rendering c.inline) (s'.rendering c'.inline))
    {steps steps' : List Step} (h : List.Forall₂ S steps steps') :
    R (c.told steps) (c'.told steps') := by
  induction h with
  | nil => exact hempty
  | cons hs _ ih => exact happend (hstep hs) ih

end Converter

end WikiStream
