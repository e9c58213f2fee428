import Mathlib.Data.List.Chain
import WikiStream.Inline

namespace WikiStream.Inline

def chars : Inline → List Char
  | word text => text.toList
  | space => [' ']
  | newLine => ['\n']
  | symbol c => [c]

def spelling (pieces : List Inline) : String := String.ofList (pieces.flatMap chars)

def withoutReturns (s : String) : String := String.ofList (s.toList.filter (· ≠ '\r'))

def IsLetter (c : Char) : Prop := c ≠ ' ' ∧ c ≠ '\n' ∧ c ≠ '\r' ∧ isPunctuation c = false

def IsWord : Inline → Prop
  | word _ => True
  | _ => False

def WellFormed : Inline → Prop
  | word text => text ≠ "" ∧ ∀ c ∈ text.toList, IsLetter c
  | symbol c => isPunctuation c
  | _ => True

/-- Words are not empty and hold letters alone, symbols are punctuation marks, and no word follows
another one directly. -/
structure Canonical (pieces : List Inline) : Prop where
  wellFormed : ∀ p ∈ pieces, p.WellFormed
  apart : pieces.IsChain fun p q ↦ ¬(p.IsWord ∧ q.IsWord)

variable {c : Char} {letters s : List Char} {p : Inline} {pieces : List Inline}

theorem canonical_nil : Canonical [] := ⟨by simp, .nil⟩

theorem canonical_cons_iff : Canonical (p :: pieces) ↔
    p.WellFormed ∧ (∀ q ∈ pieces.head?, ¬(p.IsWord ∧ q.IsWord)) ∧ Canonical pieces := by
  constructor
  · intro h
    obtain ⟨hp, hrest⟩ := List.forall_mem_cons.1 h.wellFormed
    obtain ⟨hhead, hchain⟩ := List.isChain_cons.1 h.apart
    exact ⟨hp, hhead, hrest, hchain⟩
  · intro ⟨hp, hhead, hrest⟩
    exact ⟨List.forall_mem_cons.2 ⟨hp, hrest.wellFormed⟩, List.isChain_cons.2 ⟨hhead, hrest.apart⟩⟩

theorem isLetter_iff : IsLetter c ↔ c ≠ '\r' ∧ ofChar? c = none := by
  unfold IsLetter ofChar?
  split_ifs <;> simp_all

theorem of_ofChar?_eq_some (h : ofChar? c = some p) :
    p.WellFormed ∧ ¬p.IsWord ∧ p.chars = [c] := by
  unfold ofChar? at h
  split_ifs at h with hfeed hspace hmark
  · obtain rfl := Option.some.inj h
    exact ⟨trivial, id, by rw [hfeed, chars]⟩
  · obtain rfl := Option.some.inj h
    exact ⟨trivial, id, by rw [hspace, chars]⟩
  · obtain rfl := Option.some.inj h
    exact ⟨hmark, id, rfl⟩

theorem exists_char (hp : p.WellFormed) (hword : ¬p.IsWord) :
    ∃ c, p.chars = [c] ∧ c ≠ '\r' ∧ ofChar? c = some p := by
  cases p with
  | word text => exact absurd trivial hword
  | space => exact ⟨' ', rfl, by decide, rfl⟩
  | newLine => exact ⟨'\n', rfl, by decide, rfl⟩
  | symbol c =>
    have hmark : isPunctuation c = true := hp
    have hne {d : Char} (hd : isPunctuation d = false) : c ≠ d := by
      rintro rfl
      rw [hmark] at hd
      cases hd
    have hfeed : c ≠ '\n' := hne (by decide)
    have hspace : c ≠ ' ' := hne (by decide)
    refine ⟨c, rfl, hne (by decide), ?_⟩
    rw [ofChar?, if_neg hfeed, if_neg hspace, if_pos hmark]

theorem flatMap_chars_flush (letters : List Char) (pieces : List Inline) :
    (flush letters pieces).flatMap chars = letters.reverse ++ pieces.flatMap chars := by
  unfold flush
  split
  · next h => simp [h]
  · simp [chars]

theorem flatMap_chars_split (letters s : List Char) :
    (split letters s).flatMap chars = letters.reverse ++ s.filter (· ≠ '\r') := by
  fun_induction split letters s with
  | case1 letters => simp [flatMap_chars_flush]
  | case2 letters rest ih => simpa using ih
  | case3 letters c rest hreturn p hp ih =>
    obtain ⟨-, -, hchars⟩ := of_ofChar?_eq_some hp
    simp [flatMap_chars_flush, hchars, ih, hreturn]
  | case4 letters c rest hreturn hletter ih => simp [ih, hreturn]

theorem canonical_flush (hletters : ∀ c ∈ letters, IsLetter c) (h : Canonical pieces)
    (hhead : ∀ q ∈ pieces.head?, ¬q.IsWord) : Canonical (flush letters pieces) := by
  unfold flush
  split
  · exact h
  · next hne =>
    have hword : (word (String.ofList letters.reverse)).WellFormed := by
      refine ⟨?_, ?_⟩
      · simpa using hne
      · simpa using hletters
    exact canonical_cons_iff.2 ⟨hword, fun q hq hboth ↦ hhead q hq hboth.2, h⟩

/-- The invariant of the loop is that the pending characters are letters. -/
theorem canonical_split (hletters : ∀ c ∈ letters, IsLetter c) (s : List Char) :
    Canonical (split letters s) := by
  fun_induction split letters s with
  | case1 letters => exact canonical_flush hletters canonical_nil (by simp)
  | case2 letters rest ih => exact ih hletters
  | case3 letters c rest hreturn p hp ih =>
    obtain ⟨hformed, hword, -⟩ := of_ofChar?_eq_some hp
    have hrest : Canonical (split [] rest) := ih (by simp)
    have hcut : Canonical (p :: split [] rest) :=
      canonical_cons_iff.2 ⟨hformed, fun q _ hboth ↦ hword hboth.1, hrest⟩
    exact canonical_flush hletters hcut (by simpa using hword)
  | case4 letters c rest hreturn hnone ih =>
    have hletter : IsLetter c := isLetter_iff.2 ⟨hreturn, hnone⟩
    exact ih (List.forall_mem_cons.2 ⟨hletter, hletters⟩)

theorem split_append {w : List Char} (hw : ∀ c ∈ w, IsLetter c) (letters s : List Char) :
    split letters (w ++ s) = split (w.reverse ++ letters) s := by
  induction w generalizing letters with
  | nil => rfl
  | cons c w ih =>
    obtain ⟨hc, hw⟩ := List.forall_mem_cons.1 hw
    obtain ⟨hreturn, hnone⟩ := isLetter_iff.1 hc
    rw [List.cons_append, split, if_neg hreturn, hnone]
    simp [ih hw]

/-- A word ends where a canonical list goes on with another piece than a word. -/
theorem split_eq_flush (h : Canonical pieces) (hhead : ∀ q ∈ pieces.head?, ¬q.IsWord)
    (letters : List Char) :
    split letters (pieces.flatMap chars) = flush letters (split [] (pieces.flatMap chars)) := by
  cases pieces with
  | nil => rfl
  | cons p pieces =>
    obtain ⟨hp, -, -⟩ := canonical_cons_iff.1 h
    obtain ⟨c, hchars, hreturn, hc⟩ := exists_char hp (hhead p rfl)
    simp only [List.flatMap_cons, hchars, List.singleton_append, split, if_neg hreturn, hc]
    rfl

theorem split_flatMap_chars (h : Canonical pieces) : split [] (pieces.flatMap chars) = pieces := by
  induction pieces with
  | nil => rfl
  | cons p pieces ih =>
    obtain ⟨hp, hhead, hrest⟩ := canonical_cons_iff.1 h
    by_cases hword : p.IsWord
    · cases p with
      | word text =>
        obtain ⟨hne, hletters⟩ := hp
        have hnext : ∀ q ∈ pieces.head?, ¬q.IsWord := fun q hq hq' ↦ hhead q hq ⟨hword, hq'⟩
        rw [List.flatMap_cons, chars, split_append hletters, List.append_nil,
          split_eq_flush hrest hnext, ih hrest, flush]
        simp [hne]
      | _ => exact hword.elim
    · obtain ⟨c, hchars, hreturn, hc⟩ := exists_char hp hword
      rw [List.flatMap_cons, hchars, List.singleton_append, split, if_neg hreturn, hc]
      simp only [ih hrest]
      rfl

theorem plain_spelling (h : Canonical pieces) : plain (spelling pieces) = pieces := by
  rw [plain, spelling, String.toList_ofList, split_flatMap_chars h]

theorem canonical_plain (s : String) : Canonical (plain s) := canonical_split (by simp) s.toList

theorem spelling_plain (s : String) : spelling (plain s) = withoutReturns s :=
  congrArg String.ofList (flatMap_chars_split [] s.toList)

/-- Every text is tokenized, and its pieces are the one canonical list that spells the text without
its carriage returns. The lists that are read back from what they spell are the canonical ones. -/
theorem parsePlain_canonical (s : String) (pieces : List Inline) :
    (∃ told, parsePlain s = .ok told) ∧
      (parsePlain s = .ok pieces ↔ Canonical pieces ∧ spelling pieces = withoutReturns s) ∧
      (parsePlain (spelling pieces) = .ok pieces ↔ Canonical pieces) := by
  have hok (text : String) : parsePlain text = .ok pieces ↔ plain text = pieces := by
    rw [parsePlain, Except.ok.injEq]
  refine ⟨⟨plain s, rfl⟩, ?_, ?_⟩
  · rw [hok]
    constructor
    · rintro rfl
      exact ⟨canonical_plain s, spelling_plain s⟩
    · intro ⟨hcanonical, hspelling⟩
      calc plain s = plain (spelling (plain s)) := (plain_spelling (canonical_plain s)).symm
        _ = plain (spelling pieces) := by rw [spelling_plain, hspelling]
        _ = pieces := plain_spelling hcanonical
  · rw [hok]
    constructor
    · intro h
      rw [← h]
      exact canonical_plain _
    · exact plain_spelling

example : plain "a\r\rb, c" = [.word "ab", .symbol ',', .space, .word "c"] := by decide +kernel

end WikiStream.Inline
