import WikiStream.Proofs.Congruence
import WikiStream.Proofs.Traversal

namespace WikiStream

namespace Rendering

/-- `a` leaves out some lists of tokens that are in `b`, and is `b` where it leaves out none. -/
structure Prunes (a b : Rendering) : Prop where
  events : a.events.Sublist b.events
  skipped : a.report.skipped ≤ b.report.skipped
  eq_of_complete : a.report.truncated = 0 → a = b

theorem congruence_prunes : Congruence Prunes where
  refl _ := ⟨.refl _, Nat.le_refl _, fun _ ↦ rfl⟩
  append h h' := by
    refine ⟨h.events.append h'.events, Nat.add_le_add h.skipped h'.skipped, fun ht ↦ ?_⟩
    obtain ⟨ha, ha'⟩ := Nat.add_eq_zero_iff.1 ht
    rw [h.eq_of_complete ha, h'.eq_of_complete ha']

theorem prunes_truncated (a : Rendering) : Prunes truncated a :=
  ⟨List.nil_sublist _, Nat.zero_le _, nofun⟩

def lostIn (inner : List Token → Rendering) : List (List Token) → Nat
  | [] => 0
  | tokens :: lists => (inner tokens).report.truncated + lostIn inner lists

variable (inner : List Token → Rendering)

@[simp] theorem lostIn_cons (tokens : List Token) (lists : List (List Token)) :
    lostIn inner (tokens :: lists) = (inner tokens).report.truncated + lostIn inner lists := rfl

theorem lostIn_eq_countIn (lists : List (List Token)) :
    lostIn inner lists = countIn (fun r ↦ r.report.truncated) inner lists := by
  induction lists with
  | nil => rfl
  | cons tokens lists ih => rw [lostIn_cons, ih, countIn]

theorem truncated_ofPlan (plan : Plan) (t : Tag) :
    (ofPlan inner plan t).report.truncated = lostIn inner (planContents plan t) := by
  rw [lostIn_eq_countIn]
  exact count_ofPlan (fun r ↦ r.report.truncated) truncated_ofEvents truncated_append inner plan t

end Rendering

namespace Converter

open Rendering

variable (c : Converter)

theorem truncated_renderToken (inner : List Token → Rendering) (t : Token) :
    (c.renderToken inner t).report.truncated = lostIn inner (c.contentsOf t) := by
  cases t with
  | content text => exact truncated_ofText c.inline text
  | tag t => exact truncated_ofPlan inner (c.planFor t) t

/-- The lists that are left out are those that lie at the level that there is no room for. -/
theorem truncated_render (room : Nat) (tokens : List Token) :
    (c.render room tokens).report.truncated = (c.listsAt room tokens).length := by
  induction room generalizing tokens with
  | zero => cases tokens <;> rfl
  | succ room ih =>
    have hlost : ∀ lists, lostIn (c.render room) lists =
        (lists.flatMap (c.listsAt room)).length := by
      intro lists
      induction lists with
      | nil => rfl
      | cons l lists ihl => simp [ih, ihl]
    rw [render_succ, listsAt_succ]
    induction tokens with
    | nil => rfl
    | cons t rest iht => simp [truncated_renderToken, hlost, iht]

theorem render_prunes {room room' : Nat} (h : room ≤ room') (tokens : List Token) :
    Prunes (c.render room tokens) (c.render room' tokens) := by
  -- Both ceilings are a level nearer below the tokens, so the induction is on the lower one.
  induction room generalizing room' tokens with
  | zero =>
    cases tokens with
    | nil => rw [render_nil, render_nil]; exact congruence_prunes.refl _
    | cons token rest => exact prunes_truncated _
  | succ room ih =>
    obtain ⟨room', rfl⟩ := Nat.exists_eq_add_of_le' (Nat.le_of_add_left_le h)
    rw [render_succ, render_succ]
    refine congruence_prunes.join fun t _ ↦ ?_
    exact congruence_prunes.renderToken c t fun l _ ↦ ih (Nat.le_of_succ_le_succ h) l

def withMaxDepth (d : UInt64) : Converter := { c with options := { c.options with maxDepth := d } }

theorem planFor_withMaxDepth (d : UInt64) (t : Tag) :
    (c.withMaxDepth d).planFor t = c.planFor t :=
  planFor_congr rfl rfl rfl rfl rfl t

theorem render_withMaxDepth (d : UInt64) (room : Nat) (tokens : List Token) :
    (c.withMaxDepth d).render room tokens = c.render room tokens := by
  have ht (inner : List Token → Rendering) :
      (c.withMaxDepth d).renderToken inner = c.renderToken inner := by
    funext t
    cases t with
    | content text => rfl
    | tag t => simp only [renderToken, planFor_withMaxDepth]
  induction room generalizing tokens with
  | zero => cases tokens <;> rfl
  | succ room ih => simp only [render_succ, ht, funext ih]

theorem fragment_withMaxDepth (d : UInt64) (tokens : List Token) :
    (c.withMaxDepth d).fragment tokens = c.render d.toNat (Token.trimAll tokens) := by
  rw [fragment_eq, render_withMaxDepth]
  rfl

/-- A lower ceiling only leaves lists of tokens out: those that lie one level past it, whose number
is reported. Every tag leaves the depth counter as it was, whatever its plan. -/
theorem ceiling_prunes (tokens : List Token) {d d' : UInt64} (h : d ≤ d') :
    let lower := c.withMaxDepth d
    let higher := c.withMaxDepth d'
    Prunes (lower.fragment tokens) (higher.fragment tokens) ∧
      Prunes (lower.document tokens) (higher.document tokens) ∧
      (lower.document tokens).report = (lower.fragment tokens).report ∧
      (lower.fragment tokens).report.truncated =
        (c.listsAt d.toNat (Token.trimAll tokens)).length ∧
      ∀ plan t s, ((lower.follow plan t).run s).2.depth = s.depth := by
  intro lower higher
  have hprunes : Prunes (lower.fragment tokens) (higher.fragment tokens) := by
    rw [fragment_withMaxDepth, fragment_withMaxDepth]
    exact c.render_prunes (UInt64.le_iff_toNat_le.1 h) _
  refine ⟨hprunes, ?_, ?_, ?_, fun plan t s ↦ ?_⟩
  · rw [document_eq, document_eq]
    exact congruence_prunes.between hprunes _ _
  · rw [document_eq, report_between]
  · rw [fragment_withMaxDepth, truncated_render]
  · rw [lower.follow_tells plan t s, Traversal.depth_extend]

theorem ceiling_prunes_inner_group :
    let c : Converter := {}
    let inner := (Tag.named "div").withText "x"
    let tokens : List Token := [.tag ((Tag.named "div").withChild (.tag inner))]
    (1 : UInt64) ≤ 2 ∧
      Prunes ((c.withMaxDepth 1).document tokens) ((c.withMaxDepth 2).document tokens) ∧
      ((c.withMaxDepth 1).fragment tokens).report.truncated = 1 := by
  intro c inner tokens
  have hle : (1 : UInt64) ≤ 2 := by decide
  obtain ⟨-, hdocument, -, hlost, -⟩ := c.ceiling_prunes tokens hle
  exact ⟨hle, hdocument, hlost⟩

end Converter

end WikiStream
