import WikiStream.Proofs.Cleanup

namespace WikiStream

def Inline.skips (parse : Inline.Parser) (text : String) : Bool :=
  Text.normalize text ≠ "" && !(parse (Text.normalize text)).isOk

theorem Inline.skips_refusing (refuses : String → Option String) (text : String) :
    skips (refusing refuses) text =
      (Text.normalize text ≠ "" && (refuses (Text.normalize text)).isSome) := by
  unfold skips refusing
  cases refuses (Text.normalize text) <;> rfl

namespace Rendering

theorem skipped_ofText (parse : Inline.Parser) (text : String) :
    (ofText parse text).report.skipped = if Inline.skips parse text then 1 else 0 := by
  unfold ofText Inline.skips
  by_cases ht : Text.normalize text = ""
  · have hempty : (∅ : Rendering).report.skipped = 0 := rfl
    simp [ht, hempty]
  · cases hp : parse (Text.normalize text) with
    | ok pieces => simp [ht, hp, Except.isOk, Except.toBool]
    | error reason =>
      have hone : skipped.report.skipped = 1 := rfl
      simp [ht, hp, hone, Except.isOk, Except.toBool]

/-- The same events and as many lists left out; texts may have been left out in one of them. -/
structure Alike (a b : Rendering) : Prop where
  events : a.events = b.events
  truncated : a.report.truncated = b.report.truncated

theorem congruence_alike : Congruence Alike where
  refl _ := ⟨rfl, rfl⟩
  append h h' := ⟨congrArg₂ _ h.events h'.events, congrArg₂ _ h.truncated h'.truncated⟩

theorem alike_refusing (refuses : String → Option String) (text : String) :
    Alike (ofText (Inline.refusing refuses) text) (ofText Inline.parsePlain
      (if (refuses (Text.normalize text)).isSome then "" else text)) := by
  cases hr : refuses (Text.normalize text) with
  | none =>
    have hparse : Inline.refusing refuses (Text.normalize text) =
        Inline.parsePlain (Text.normalize text) := by simp only [Inline.refusing, hr]
    simp only [Option.isSome_none, Bool.false_eq_true, if_false, ofText, hparse]
    exact congruence_alike.refl _
  | some reason =>
    have hempty : Text.normalize "" = "" := by decide +kernel
    simp only [Option.isSome_some, if_true, ofText, hempty, Inline.refusing, hr]
    split <;> exact ⟨rfl, rfl⟩

end Rendering

namespace Converter

open Rendering

variable (c : Converter)

/-- The texts that a walk comes to where `room` lists may lie inside each other. -/
def textsWithin : Nat → List Token → List String
  | 0, _ => []
  | room + 1, tokens => tokens.flatMap fun
    | .content text => [text]
    | .tag t => (c.contentsOf (.tag t)).flatMap (textsWithin room)

theorem countIn_skipped {inner : List Token → Rendering} {textsIn : List Token → List String}
    {p : String → Bool} (h : ∀ tokens, (inner tokens).report.skipped = (textsIn tokens).countP p)
    (lists : List (List Token)) :
    countIn (fun r ↦ r.report.skipped) inner lists = (lists.flatMap textsIn).countP p := by
  induction lists with
  | nil => rfl
  | cons tokens lists ih => rw [countIn, List.flatMap_cons, List.countP_append, h, ih]

/-- Every text that is come to and refused is counted, whatever has been left out before it. -/
theorem skipped_render (room : Nat) (tokens : List Token) :
    (c.render room tokens).report.skipped =
      (c.textsWithin room tokens).countP (Inline.skips c.inline) := by
  induction room generalizing tokens with
  | zero => cases tokens <;> rfl
  | succ room ih =>
    rw [render_succ, textsWithin]
    induction tokens with
    | nil => rfl
    | cons token rest ihr =>
      simp only [List.map_cons, join_cons, skipped_append, ihr, List.flatMap_cons,
        List.countP_append]
      congr 1
      cases token with
      | content text =>
        rw [renderToken, skipped_ofText, List.countP_singleton]
      | tag t =>
        rw [renderToken, count_ofPlan (fun r ↦ r.report.skipped) skipped_ofEvents skipped_append]
        exact countIn_skipped ih _

def withInline (parse : Inline.Parser) : Converter := { c with inline := parse }

theorem planFor_withInline (parse : Inline.Parser) (t : Tag) :
    (c.withInline parse).planFor t = c.planFor t :=
  planFor_congr rfl rfl rfl rfl rfl t

/-- Where a tokenizer refuses some texts, a conversion tells what it would tell of the trimmed tree
with these texts emptied, and counts those that it comes to and that are not empty. -/
theorem refusals_drop_runs (refuses : String → Option String) (tokens : List Token) :
    let strict := c.withInline (Inline.refusing refuses)
    let lenient := c.withInline Inline.parsePlain
    let refused (text : String) : Bool := (refuses (Text.normalize text)).isSome
    let trimmed := Token.trimAll tokens
    let silenced := Token.mapTextsAll (fun text ↦ if refused text then "" else text) trimmed
    Token.trimAll silenced = silenced ∧
      Alike (strict.fragment tokens) (lenient.fragment silenced) ∧
      Alike (strict.document tokens) (lenient.document silenced) ∧
      (strict.document tokens).report = (strict.fragment tokens).report ∧
      (strict.fragment tokens).report.skipped =
        (strict.textsWithin c.options.maxDepth.toNat trimmed).countP
          fun text ↦ Text.normalize text ≠ "" && refused text := by
  intro strict lenient refused trimmed silenced
  have hthins : Token.Thins fun text ↦ if refused text then "" else text := by
    intro text
    by_cases hr : refused text = true
    · exact .inr (if_pos hr)
    · exact .inl (if_neg hr)
  have htrim : Token.trimAll silenced = silenced := Token.trimAll_mapTextsAll_trimAll hthins tokens
  have hplan (t : Tag) : lenient.planFor t = strict.planFor t :=
    (c.planFor_withInline _ t).trans (c.planFor_withInline _ t).symm
  have halike : Alike (strict.fragment tokens) (lenient.fragment silenced) := by
    rw [fragment_eq, fragment_eq, htrim]
    exact render_mapTextsAll congruence_alike hplan (alike_refusing refuses) _ trimmed
  refine ⟨htrim, halike, ?_, ?_, ?_⟩
  · rw [document_eq, document_eq]
    exact congruence_alike.between halike _ _
  · rw [document_eq, report_between]
  · rw [fragment_eq, skipped_render]
    have hskips : Inline.skips strict.inline = fun text ↦ Text.normalize text ≠ "" && refused text :=
      funext (Inline.skips_refusing refuses)
    rw [hskips]
    rfl

end Converter

end WikiStream
