import Mathlib.Data.List.Forall2
import WikiStream.Proofs.Capitals
import WikiStream.Reference.Resolver

namespace WikiStream.Resolver

/-- The second text is the first one with underscores for some of its spaces. -/
def Underscored (s t : String) : Prop :=
  List.Forall₂ (fun c d ↦ d = c ∨ c = ' ' ∧ d = '_') s.toList t.toList

instance (s t : String) : Decidable (Underscored s t) := by
  unfold Underscored
  infer_instance

def spaceless (s : String) : String :=
  String.ofList (s.toList.map fun c ↦ if c = ' ' then '_' else c)

section Spaces

variable {s t : String}

theorem space_notMem_spaceless (s : String) : ' ' ∉ (spaceless s).toList := by
  rw [spaceless, String.toList_ofList]
  intro h
  obtain ⟨c, -, hc⟩ := List.mem_map.1 h
  split at hc
  · cases hc
  · rename_i hne
    exact hne hc

theorem spaceless_eq_self (h : ' ' ∉ s.toList) : spaceless s = s := by
  have hmap : s.toList.map (fun c ↦ if c = ' ' then '_' else c) = s.toList := by
    refine (List.map_congr_left fun c hc ↦ ?_).trans (List.map_id _)
    exact if_neg (ne_of_mem_of_not_mem hc h)
  rw [spaceless, hmap, String.ofList_toList]

theorem Underscored.spaceless_eq (h : Underscored s t) : spaceless t = spaceless s := by
  unfold Underscored at h
  unfold spaceless
  generalize s.toList = cs, t.toList = ds at h ⊢
  apply congrArg String.ofList
  induction h with
  | nil => rfl
  | cons hcd _ ih =>
    rw [List.map_cons, List.map_cons, ih]
    obtain rfl | ⟨rfl, rfl⟩ := hcd <;> rfl

end Spaces

theorem clean_of_native {r : Resolver} (h : r.policy = .native) (s : String) :
    r.clean s = Text.capitalize (spaceless s) := by
  rw [clean, if_pos h]
  rfl

theorem clean_of_ne_native {r : Resolver} (h : r.policy ≠ .native) (s : String) :
    r.clean s = s := by
  rw [clean, if_neg h]

theorem space_notMem_clean {r : Resolver} (h : r.policy = .native) (s : String) :
    ' ' ∉ (r.clean s).toList := by
  rw [clean_of_native h]
  exact Text.space_notMem_capitalize (space_notMem_spaceless s)

theorem clean_clean (r : Resolver) (s : String) : r.clean (r.clean s) = r.clean s := by
  by_cases h : r.policy = .native
  · have hspaceless : spaceless (r.clean s) = r.clean s :=
      spaceless_eq_self (space_notMem_clean h s)
    rw [clean_of_native h (r.clean s), hspaceless, clean_of_native h, Text.capitalize_capitalize]
  · rw [clean_of_ne_native h]

/-- A clean title stays as it is. A native one is without spaces, and is the same for a title in
which some spaces were underscores from the start. -/
theorem clean_laws :
    (∀ (r : Resolver) s, r.clean (r.clean s) = r.clean s) ∧
    ∀ r : Resolver, r.policy = .native →
      (∀ s, ' ' ∉ (r.clean s).toList) ∧ ∀ s t, Underscored s t → r.clean t = r.clean s := by
  refine ⟨clean_clean, fun r h ↦ ⟨space_notMem_clean h, fun s t hst ↦ ?_⟩⟩
  rw [clean_of_native h, clean_of_native h, hst.spaceless_eq]

theorem clean_laws_sharp_s :
    let r := ofOptions { policy := .native }
    r.clean "ßa b c" = "SSa_b_c" ∧ r.clean "SSa_b_c" = "SSa_b_c" ∧ ' ' ∉ "SSa_b_c".toList ∧
      r.clean "ßa_b c" = "SSa_b_c" := by
  intro r
  have hclean : r.clean "ßa b c" = "SSa_b_c" := by decide +kernel
  obtain ⟨hagain, hnative⟩ := clean_laws
  obtain ⟨hspace, hunderscored⟩ := hnative r rfl
  refine ⟨hclean, ?_, ?_, ?_⟩
  · rw [← hclean]
    exact hagain r _
  · rw [← hclean]
    exact hspace _
  · rw [← hclean]
    exact hunderscored _ _ (by decide +kernel)

end WikiStream.Resolver
