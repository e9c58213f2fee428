import Mathlib.Data.List.Basic
import WikiStream.Text.Case

namespace WikiStream.Text

def CaseRun.codePoints (r : CaseRun) : List Nat :=
  List.range' r.first ((r.last - r.first) / r.step + 1) r.step

def upperSources : List Nat :=
  upperExpansions.map Prod.fst ++ upperRuns.flatMap CaseRun.codePoints

def upperTargets : List Nat :=
  upperExpansions.flatMap Prod.snd ++
    upperRuns.flatMap fun r ↦ r.codePoints.map fun n : Nat ↦ (n + r.shift).toNat

section Table

/-- A set of numbers as one number, with a binary digit for each of them. -/
def bits (ns : List Nat) : Nat := ns.foldr (fun n m ↦ 1 <<< n ||| m) 0

theorem testBit_bits {ns : List Nat} {n : Nat} : (bits ns).testBit n = true ↔ n ∈ ns := by
  induction ns with
  | nil => simp [bits]
  | cons m ns ih =>
    have hbits : bits (m :: ns) = 1 <<< m ||| bits ns := rfl
    rw [hbits, Nat.testBit_or, Nat.one_shiftLeft, Nat.testBit_two_pow, Bool.or_eq_true, decide_eq_true_eq, ih,
      List.mem_cons, eq_comm]

theorem disjoint_of_bits {ns ms : List Nat} (h : bits ns &&& bits ms = 0) : ns.Disjoint ms := by
  intro n hn hm
  have hand : (bits ns &&& bits ms).testBit n = true := by
    rw [Nat.testBit_and, testBit_bits.2 hn, testBit_bits.2 hm]
    rfl
  rw [h, Nat.zero_testBit] at hand
  cases hand

theorem disjoint_upperTargets : upperTargets.Disjoint (' '.toNat :: upperSources) := by
  apply disjoint_of_bits
  decide +kernel

theorem isValidChar_of_mem_upperTargets : ∀ n ∈ upperTargets, n.isValidChar := by
  decide +kernel

theorem ne_nil_of_mem_upperExpansions : ∀ p ∈ upperExpansions, p.2 ≠ [] := by
  decide

end Table

section Characters

variable {c d : Char}

theorem CaseRun.mem_codePoints {r : CaseRun} {n : Nat} (h : r.covers n = true) :
    n ∈ r.codePoints := by
  simp only [CaseRun.covers, Bool.and_eq_true, decide_eq_true_eq] at h
  obtain ⟨⟨hfirst, hlast⟩, hstep⟩ := h
  refine List.mem_range'.2 ⟨(n - r.first) / r.step, ?_, ?_⟩
  · have hle : (n - r.first) / r.step ≤ (r.last - r.first) / r.step :=
      Nat.div_le_div_right (by omega)
    omega
  · have hmul : r.step * ((n - r.first) / r.step) = n - r.first :=
      Nat.mul_div_cancel' (Nat.dvd_of_mod_eq_zero hstep)
    omega

theorem toNat_ofNat_of_mem {n : Nat} (h : n ∈ upperTargets) : (Char.ofNat n).toNat = n := by
  rw [Char.ofNat, dif_pos (isValidChar_of_mem_upperTargets n h)]
  rfl

theorem upperChar_cases (c : Char) :
    upperChar c = [c] ∨ ∃ ns, ns ≠ [] ∧ (∀ n ∈ ns, n ∈ upperTargets) ∧
      upperChar c = ns.map Char.ofNat := by
  unfold upperChar mapCase
  split
  · rename_i ns hlookup
    obtain ⟨before, after, hrow, -⟩ := List.lookup_eq_some_iff.1 hlookup
    have hmem : (c.toNat, ns) ∈ upperExpansions := by
      rw [hrow]
      exact List.mem_append_right _ List.mem_cons_self
    refine .inr ⟨ns, ne_nil_of_mem_upperExpansions _ hmem, fun n hn ↦ ?_, rfl⟩
    exact List.mem_append_left _ (List.mem_flatMap.2 ⟨_, hmem, hn⟩)
  split
  · rename_i r hfind
    refine .inr ⟨[(c.toNat + r.shift).toNat], List.cons_ne_nil _ _, fun n hn ↦ ?_, rfl⟩
    obtain rfl := List.mem_singleton.1 hn
    have hcovers := List.find?_some hfind
    refine List.mem_append_right _ (List.mem_flatMap.2 ⟨r, List.mem_of_find?_eq_some hfind, ?_⟩)
    exact List.mem_map_of_mem (CaseRun.mem_codePoints hcovers)
  · exact .inl rfl

theorem upperChar_eq_self (h : c.toNat ∉ upperSources) : upperChar c = [c] := by
  have hlookup : upperExpansions.lookup c.toNat = none := by
    rw [List.lookup_eq_none_iff]
    intro p hp
    rw [bne_iff_ne]
    intro hc
    exact h (List.mem_append_left _ (hc ▸ List.mem_map_of_mem hp))
  have hfind : upperRuns.find? (·.covers c.toNat) = none := by
    rw [List.find?_eq_none]
    intro r hr hcovers
    exact h (List.mem_append_right _ (List.mem_flatMap.2 ⟨r, hr, CaseRun.mem_codePoints hcovers⟩))
  simp only [upperChar, mapCase, hlookup, hfind]

theorem upperChar_ne_nil (c : Char) : upperChar c ≠ [] := by
  obtain hself | ⟨ns, hne, -, hns⟩ := upperChar_cases c
  · rw [hself]
    exact List.cons_ne_nil _ _
  · rw [hns]
    exact mt List.map_eq_nil_iff.1 hne

/-- What a character becomes is its own upper case. -/
theorem upperChar_of_mem (h : d ∈ upperChar c) : upperChar d = [d] := by
  obtain hself | ⟨ns, -, hall, hns⟩ := upperChar_cases c
  · rw [hself] at h
    obtain rfl := List.mem_singleton.1 h
    exact hself
  · rw [hns] at h
    obtain ⟨n, hn, rfl⟩ := List.mem_map.1 h
    apply upperChar_eq_self
    rw [toNat_ofNat_of_mem (hall n hn)]
    intro hsource
    exact disjoint_upperTargets (hall n hn) (List.mem_cons_of_mem _ hsource)

theorem space_notMem_upperChar (h : c ≠ ' ') : ' ' ∉ upperChar c := by
  intro hmem
  obtain hself | ⟨ns, -, hall, hns⟩ := upperChar_cases c
  · rw [hself] at hmem
    exact h (List.mem_singleton.1 hmem).symm
  · rw [hns] at hmem
    obtain ⟨n, hn, hspace⟩ := List.mem_map.1 hmem
    have hcode : n = ' '.toNat := by
      rw [← hspace, toNat_ofNat_of_mem (hall n hn)]
    exact disjoint_upperTargets (hall n hn) (hcode ▸ List.mem_cons_self)

end Characters

theorem capitalize_ofList_cons (c : Char) (cs : List Char) :
    capitalize (String.ofList (c :: cs)) = String.ofList (upperChar c ++ cs) := by
  rw [capitalize, String.toList_ofList]

theorem capitalize_capitalize (s : String) : capitalize (capitalize s) = capitalize s := by
  obtain ⟨cs, rfl⟩ : ∃ cs, s = String.ofList cs := ⟨s.toList, (String.ofList_toList).symm⟩
  cases cs with
  | nil => rfl
  | cons c cs =>
    obtain ⟨d, ds, hupper⟩ := List.exists_cons_of_ne_nil (upperChar_ne_nil c)
    have hd : upperChar d = [d] := upperChar_of_mem (hupper ▸ List.mem_cons_self)
    rw [capitalize_ofList_cons, hupper, List.cons_append, capitalize_ofList_cons, hd]
    rfl

theorem space_notMem_capitalize {s : String} (h : ' ' ∉ s.toList) :
    ' ' ∉ (capitalize s).toList := by
  unfold capitalize
  split
  · exact List.not_mem_nil
  · rename_i c cs hs
    rw [hs, List.mem_cons, not_or] at h
    rw [String.toList_ofList, List.mem_append, not_or]
    exact ⟨space_notMem_upperChar (Ne.symm h.1), h.2⟩

end WikiStream.Text
