import WikiStream.Proofs.Portions

namespace WikiStream.Rendering

/-- A relation between renderings that putting them together keeps. -/
structure Congruence (R : Rendering → Rendering → Prop) : Prop where
  refl : ∀ a, R a a
  append : ∀ {a b a' b'}, R a b → R a' b' → R (a ++ a') (b ++ b')

namespace Congruence

variable {R : Rendering → Rendering → Prop} (hR : Congruence R)
variable {inner inner' : List Token → Rendering}

include hR

theorem between {a b : Rendering} (h : R a b) (first last : List Event) :
    R (between first last a) (between first last b) :=
  hR.append (hR.append (hR.refl _) h) (hR.refl _)

theorem join {α : Type} {f g : α → Rendering} {l : List α} (h : ∀ a ∈ l, R (f a) (g a)) :
    R (join (l.map f)) (join (l.map g)) := by
  induction l with
  | nil => exact hR.refl _
  | cons a l ih =>
    have ha := h a List.mem_cons_self
    exact hR.append ha (ih fun b hb ↦ h b (List.mem_cons_of_mem _ hb))

theorem assemble {portions : List Portion}
    (h : ∀ tokens ∈ Portion.insides portions, R (inner tokens) (inner' tokens)) :
    R (assemble inner portions) (assemble inner' portions) := by
  induction portions with
  | nil => exact hR.refl _
  | cons portion portions ih =>
    cases portion with
    | own events =>
      rw [Portion.insides_own] at h
      exact hR.append (hR.refl _) (ih h)
    | inside tokens =>
      rw [Portion.insides_inside, List.forall_mem_cons] at h
      exact hR.append h.1 (ih h.2)

theorem ofPlan (plan : Plan) (t : Tag)
    (h : ∀ tokens ∈ planContents plan t, R (inner tokens) (inner' tokens)) :
    R (ofPlan inner plan t) (ofPlan inner' plan t) := by
  rw [← Portion.insides_portions] at h
  rw [← assemble_portions, ← assemble_portions]
  exact hR.assemble h

theorem renderToken (c : Converter) (t : Token)
    (h : ∀ tokens ∈ c.contentsOf t, R (inner tokens) (inner' tokens)) :
    R (c.renderToken inner t) (c.renderToken inner' t) := by
  cases t with
  | content text => exact hR.refl _
  | tag t => exact hR.ofPlan (c.planFor t) t h

end Congruence

end WikiStream.Rendering
