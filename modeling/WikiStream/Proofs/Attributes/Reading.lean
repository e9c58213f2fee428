import WikiStream.Proofs.Attributes.Values
import WikiStream.Proofs.Json.Meaning
import WikiStream.Proofs.Token.Writing

namespace WikiStream.Attributes

open Json Reader

theorem folds_texts (a : Attributes) (pairs : List (String × String)) :
    Folds (fun a key ↦ .ok (Reader.string.map fun value ↦ a.insert key value)) a
      (pairs.map fun p ↦ (p.1, .string p.2)) (a.insertAll pairs) := by
  induction pairs generalizing a with
  | nil => exact .nil
  | cons p pairs ih =>
    exact .cons rfl ((answers_string p.2).map fun value ↦ a.insert p.1 value) (ih (a.insert p.1 p.2))

theorem spelled_string {s r : List Char} {text : String}
    (h : outcome Reader.string s = .ok (text, r)) :
    ∃ b w, Blanks b ∧ Spells w (.string text) ∧ s = b ++ (w ++ r) := by
  rw [Reader.string, outcome_accept, outcome_scalar] at h
  obtain ⟨v, t, hv, ht⟩ := Outcome.eq_ok_of_bind h
  cases hs : skipBlanks s with
  | nil =>
    rw [hs] at hv
    cases hv
  | cons c u =>
    obtain ⟨b, hb, rfl⟩ := exists_blanks_of_cons hs
    simp only [hs] at hv
    split_ifs at hv
    obtain ⟨w, hw, rfl⟩ := spells_of_readWord hv
    cases v with
    | string text' =>
      obtain ⟨rfl, rfl⟩ := Prod.mk.inj (Except.ok.inj ht)
      exact ⟨b, c :: w, hb, hw, rfl⟩
    | _ => cases ht

theorem spelled_reader {s r : List Char} {a : Attributes} (h : outcome reader s = .ok (a, r)) :
    ∃ v b w, ofValue? v = some a ∧ Blanks b ∧ Spells w v ∧ s = b ++ (w ++ r) := by
  rw [reader, Reader.object, outcome_after] at h
  cases hs : skipBlanks s with
  | nil =>
    rw [hs] at h
    cases h
  | cons c t =>
    obtain ⟨b, hb, rfl⟩ := exists_blanks_of_cons hs
    simp only [hs] at h
    split_ifs at h with hc
    obtain ⟨w, pairs, rfl, hw, rfl⟩ :=
      members_of_outcome (fun s text r _ hs ↦ spelled_string hs) (Nat.lt_succ_self _) h
    refine ⟨textsObject pairs, b, '\x7b' :: w, ?_, hb, .object hw, by rw [hc, List.cons_append]⟩
    exact ofValue?_eq_some_iff.2 ⟨pairs, rfl, rfl⟩

theorem read_eq_ok_iff (text : String) (a : Attributes) :
    read text = .ok a ↔ ∃ v, ofValue? v = some a ∧ Denotes text.toList v := by
  refine run_eq_ok_iff (fun a v ↦ ofValue? v = some a) (fun s a r ↦ spelled_reader) ?_ text a
  intro a v hv
  obtain ⟨pairs, rfl, rfl⟩ := ofValue?_eq_some_iff.1 hv
  exact answers_object (folds_texts ∅ pairs)

theorem read_write (a : Attributes) : read a.toValue.write = .ok a := by
  refine (read_eq_ok_iff _ a).2 ⟨a.toValue, ofValue?_toValue a, [], a.toValue.writeChars, [],
    blanks_nil, spells_writeChars _ (Token.numberFree_attributes a), blanks_nil, ?_⟩
  rw [Value.write, String.toList_ofList, List.append_nil, List.nil_append]

end WikiStream.Attributes
