import Mathlib.Data.List.Forall2
import Mathlib.Data.Nat.Digits.Defs
import WikiStream.Dict
import WikiStream.Text.Normal

namespace WikiStream.Text

/-- Digits, the highest first, and the number they write. -/
def Numeral (base : Nat) (digits : List Char) (n : Nat) : Prop :=
  digits ≠ [] ∧ ∃ values, List.Forall₂ (digitOf? base · = some ·) digits values ∧
    n = Nat.ofDigits base values.reverse

theorem readDigits?_eq_some_iff {base value n : Nat} {digits : List Char} :
    readDigits? base value digits = some n ↔
      ∃ values, List.Forall₂ (digitOf? base · = some ·) digits values ∧
        n = Nat.ofDigits base (value :: values).reverse := by
  have hpush (v d : Nat) (values : List Nat) :
      Nat.ofDigits base ((v * base + d) :: values).reverse =
        Nat.ofDigits base (v :: d :: values).reverse := by
    simp only [List.reverse_cons, List.append_assoc, Nat.ofDigits_append, List.singleton_append,
      Nat.ofDigits_cons, Nat.ofDigits_nil]
    ring
  induction digits generalizing value with
  | nil =>
    simp only [readDigits?, Option.some.injEq, List.forall₂_nil_left_iff, exists_eq_left,
      List.reverse_singleton, Nat.ofDigits_singleton]
    exact eq_comm
  | cons c digits ih =>
    simp only [readDigits?, Option.bind_eq_some_iff, ih, List.forall₂_cons_left_iff]
    constructor
    · rintro ⟨d, hd, values, hvalues, rfl⟩
      exact ⟨d :: values, ⟨d, values, hd, hvalues, rfl⟩, hpush value d values⟩
    · rintro ⟨_, ⟨d, values, hd, hvalues, rfl⟩, rfl⟩
      exact ⟨d, hd, values, hvalues, (hpush value d values).symm⟩

theorem readUnsigned?_eq_some_iff {base n : Nat} {digits : List Char} :
    readUnsigned? base digits = some n ↔ Numeral base digits n := by
  have hzero (values : List Nat) :
      Nat.ofDigits base (0 :: values).reverse = Nat.ofDigits base values.reverse := by
    simp [Nat.ofDigits_append]
  unfold readUnsigned? Numeral
  split
  · simp_all
  · simp_all [readDigits?_eq_some_iff]

theorem Numeral.digit {base n : Nat} {c : Char} {digits : List Char}
    (h : Numeral base (c :: digits) n) : ∃ d, digitOf? base c = some d := by
  obtain ⟨-, values, hvalues, -⟩ := h
  obtain ⟨d, _, hd, -, -⟩ := List.forall₂_cons_left_iff.1 hvalues
  exact ⟨d, hd⟩

theorem Numeral.mem {base n : Nat} {c : Char} {digits : List Char} (h : Numeral base digits n)
    (hc : c ∈ digits) : ∃ d, digitOf? base c = some d := by
  obtain ⟨-, values, hvalues, -⟩ := h
  clear n
  induction hvalues with
  | nil => cases hc
  | cons hd _ ih =>
    rcases List.mem_cons.1 hc with rfl | hc
    · exact ⟨_, hd⟩
    · exact ih hc

theorem readNatural?_eq_some_iff {base n : Nat} {s : List Char} :
    readNatural? base s = some n ↔
      Numeral base s n ∨ ∃ digits, s = '+' :: digits ∧ Numeral base digits n := by
  have hplus : digitOf? base '+' = none := rfl
  unfold readNatural?
  split
  · rename_i digits
    rw [readUnsigned?_eq_some_iff]
    constructor
    · exact fun h ↦ .inr ⟨digits, rfl, h⟩
    · rintro (h | ⟨_, hs, h⟩)
      · obtain ⟨d, hd⟩ := h.digit
        rw [hplus] at hd
        cases hd
      · obtain rfl := (List.cons.inj hs).2
        exact h
  · rename_i hs
    rw [readUnsigned?_eq_some_iff]
    constructor
    · exact .inl
    · rintro (h | ⟨digits, rfl, -⟩)
      · exact h
      · exact absurd rfl (hs digits)

namespace Entity

structure CodePoint (base most : Nat) (digits : List Char) (c : Char) : Prop where
  numeral : Numeral base digits c.toNat
  length_le : digits.length ≤ most
  ne_zero : c.toNat ≠ 0

inductive Reference : List Char → Char → Prop
  | name {name : String} {c : Char} (h : (name, c) ∈ named) : Reference name.toList c
  | decimal {digits : List Char} {c : Char} (h : CodePoint 10 7 digits c) :
    Reference ('#' :: digits) c
  | hexadecimal {x : Char} {digits : List Char} {c : Char} (hx : x = 'x' ∨ x = 'X')
    (h : CodePoint 16 6 digits c) : Reference ('#' :: x :: digits) c

inductive SignedReference : List Char → Char → Prop
  | decimal {digits : List Char} {c : Char} (h : CodePoint 10 6 digits c) :
    SignedReference ('#' :: '+' :: digits) c
  | hexadecimal {x : Char} {digits : List Char} {c : Char} (hx : x = 'x' ∨ x = 'X')
    (h : CodePoint 16 5 digits c) : SignedReference ('#' :: x :: '+' :: digits) c

/-- Between an ampersand and a semicolon of the text stands something with the property. -/
def Occurs (R : List Char → Char → Prop) (s : List Char) : Prop :=
  ∃ before body after c, s = before ++ '&' :: (body ++ ';' :: after) ∧ R body c

theorem ofCodePoint?_eq_some_iff {n : Nat} {c : Char} :
    ofCodePoint? n = some c ↔ n ≠ 0 ∧ c.toNat = n := by
  unfold ofCodePoint?
  split
  · rename_i h
    have hn : (Char.ofNat n).toNat = n := by
      rw [Char.ofNat, dif_pos h.2]
      rfl
    rw [Option.some.injEq]
    constructor
    · rintro rfl
      exact ⟨h.1, hn⟩
    · rintro ⟨-, hc⟩
      rw [← hc, Char.ofNat_toNat]
  · rename_i h
    constructor
    · intro hnone
      cases hnone
    · rintro ⟨hn, rfl⟩
      exact absurd ⟨hn, c.valid⟩ h

theorem ofDigits?_eq_some_iff {base most : Nat} {s : List Char} {c : Char} :
    ofDigits? base (most + 1) s = some c ↔
      CodePoint base (most + 1) s c ∨
        ∃ digits, s = '+' :: digits ∧ CodePoint base most digits c := by
  simp only [ofDigits?, Option.ite_none_right_eq_some, Option.bind_eq_some_iff,
    readNatural?_eq_some_iff, ofCodePoint?_eq_some_iff]
  constructor
  · rintro ⟨hlength, n, h | ⟨digits, rfl, h⟩, hn, rfl⟩
    · exact .inl ⟨h, hlength, hn⟩
    · exact .inr ⟨digits, rfl, h, Nat.le_of_succ_le_succ hlength, hn⟩
  · rintro (⟨h, hlength, hn⟩ | ⟨digits, rfl, h, hlength, hn⟩)
    · exact ⟨hlength, _, .inl h, hn, rfl⟩
    · exact ⟨Nat.succ_le_succ hlength, _, .inr ⟨digits, rfl, h⟩, hn, rfl⟩

/-- No name is in the table twice. -/
theorem ofName?_eq_some_iff {name : List Char} {c : Char} :
    ofName? name = some c ↔ (String.ofList name, c) ∈ named := by
  have hnodup : (named.map Prod.fst).Nodup := by decide +kernel
  exact (Dict.mem_entries_iff (d := ⟨named, hnodup⟩)).symm

theorem letters_of_mem_named {name : String} {c : Char} (h : (name, c) ∈ named) :
    name.toList.head? ≠ some '#' ∧ ';' ∉ name.toList := by
  have hall : ∀ p ∈ named, p.1.toList.head? ≠ some '#' ∧ ';' ∉ p.1.toList := by decide +kernel
  exact hall _ h

theorem read?_hash {s : List Char} (hx : s.head? ≠ some 'x') (hX : s.head? ≠ some 'X') :
    read? ('#' :: s) = (splitAt? ';' s).bind fun (digits, rest) ↦
      (ofDigits? 10 7 digits).map (·, rest) := by
  unfold read?
  split <;> simp_all

theorem read?_hexadecimal {x : Char} (hx : x = 'x' ∨ x = 'X') (s : List Char) :
    read? ('#' :: x :: s) = (splitAt? ';' s).bind fun (digits, rest) ↦
      (ofDigits? 16 6 digits).map (·, rest) := by
  obtain rfl | rfl := hx <;> rfl

theorem read?_name {s : List Char} (h : s.head? ≠ some '#') :
    read? s = (splitAt? ';' s).bind fun (name, rest) ↦ (ofName? name).map (·, rest) := by
  unfold read?
  split <;> simp_all

def Readable (body : List Char) (c : Char) : Prop := Reference body c ∨ SignedReference body c

theorem bind_splitAt?_eq_some_iff {read : List Char → Option Char} {s rest : List Char} {c : Char} :
    ((splitAt? ';' s).bind fun (body, rest) ↦ (read body).map (·, rest)) = some (c, rest) ↔
      ∃ body, s = body ++ ';' :: rest ∧ ';' ∉ body ∧ read body = some c := by
  simp only [Option.bind_eq_some_iff, splitAt?_eq_some_iff, Prod.exists, Option.map_eq_some_iff,
    Prod.mk.injEq]
  constructor
  · rintro ⟨body, _, ⟨hs, hnot⟩, _, hread, rfl, rfl⟩
    exact ⟨body, hs, hnot, hread⟩
  · rintro ⟨body, hs, hnot, hread⟩
    exact ⟨body, rest, ⟨hs, hnot⟩, c, hread, rfl, rfl⟩

theorem CodePoint.notMem {base most : Nat} {digits : List Char} {c d : Char}
    (h : CodePoint base most digits c) (hd : digitOf? base d = none) : d ∉ digits := by
  intro hmem
  obtain ⟨n, hn⟩ := h.numeral.mem hmem
  rw [hd] at hn
  cases hn

theorem read?_decimal {digits rest : List Char} {c : Char} (hnot : ';' ∉ digits)
    (hx : 'x' ∉ digits) (hX : 'X' ∉ digits) (h : ofDigits? 10 7 digits = some c) :
    read? ('#' :: (digits ++ ';' :: rest)) = some (c, rest) := by
  have hhead : ∀ x ∉ digits, x ≠ ';' → (digits ++ ';' :: rest).head? ≠ some x := by
    intro x hx hne
    cases digits <;> simp_all [eq_comm]
  rw [read?_hash (hhead 'x' hx (by decide)) (hhead 'X' hX (by decide))]
  exact bind_splitAt?_eq_some_iff.2 ⟨digits, rfl, hnot, h⟩

theorem read?_of_readable {body rest : List Char} {c : Char} (h : Readable body c) :
    read? (body ++ ';' :: rest) = some (c, rest) := by
  obtain h | h := h
  · cases h with
    | @name name c h =>
      obtain ⟨hhash, hnot⟩ := letters_of_mem_named h
      have hhead : (name.toList ++ ';' :: rest).head? ≠ some '#' := by
        cases hn : name.toList <;> simp_all
      rw [read?_name hhead]
      exact bind_splitAt?_eq_some_iff.2 ⟨_, rfl, hnot, ofName?_eq_some_iff.2 (by simpa using h)⟩
    | decimal h =>
      exact read?_decimal (h.notMem rfl) (h.notMem rfl) (h.notMem rfl)
        (ofDigits?_eq_some_iff.2 (.inl h))
    | hexadecimal hx h =>
      rw [List.cons_append, List.cons_append, read?_hexadecimal hx]
      exact bind_splitAt?_eq_some_iff.2
        ⟨_, rfl, h.notMem rfl, ofDigits?_eq_some_iff.2 (.inl h)⟩
  · cases h with
    | @decimal digits c h =>
      have hsigned {x : Char} (hx : digitOf? 10 x = none) (hne : x ≠ '+') : x ∉ '+' :: digits := by
        rw [List.mem_cons, not_or]
        exact ⟨hne, h.notMem hx⟩
      exact read?_decimal (hsigned rfl (by decide)) (hsigned rfl (by decide))
        (hsigned rfl (by decide)) (ofDigits?_eq_some_iff.2 (.inr ⟨digits, rfl, h⟩))
    | @hexadecimal x digits c hx h =>
      have hnot : ';' ∉ '+' :: digits := by
        rw [List.mem_cons, not_or]
        exact ⟨by decide, h.notMem rfl⟩
      rw [List.cons_append, List.cons_append, read?_hexadecimal hx]
      exact bind_splitAt?_eq_some_iff.2
        ⟨_, rfl, hnot, ofDigits?_eq_some_iff.2 (.inr ⟨digits, rfl, h⟩)⟩

theorem exists_readable_of_read? {s rest : List Char} {c : Char} (h : read? s = some (c, rest)) :
    ∃ body, s = body ++ ';' :: rest ∧ Readable body c := by
  by_cases hhash : s.head? = some '#'
  · obtain ⟨s, rfl⟩ : ∃ t, s = '#' :: t := List.head?_eq_some_iff.1 hhash
    by_cases hmark : s.head? = some 'x' ∨ s.head? = some 'X'
    · obtain ⟨x, s, rfl, hx⟩ : ∃ x t, s = x :: t ∧ (x = 'x' ∨ x = 'X') := by
        rcases hmark with hmark | hmark <;>
        · obtain ⟨t, rfl⟩ := List.head?_eq_some_iff.1 hmark
          exact ⟨_, t, rfl, by simp⟩
      rw [read?_hexadecimal hx] at h
      obtain ⟨digits, rfl, -, hread⟩ := bind_splitAt?_eq_some_iff.1 h
      refine ⟨'#' :: x :: digits, rfl, ?_⟩
      rcases ofDigits?_eq_some_iff.1 hread with hpoint | ⟨digits, rfl, hpoint⟩
      · exact .inl (.hexadecimal hx hpoint)
      · exact .inr (.hexadecimal hx hpoint)
    · rw [not_or] at hmark
      rw [read?_hash hmark.1 hmark.2] at h
      obtain ⟨digits, rfl, -, hread⟩ := bind_splitAt?_eq_some_iff.1 h
      refine ⟨'#' :: digits, rfl, ?_⟩
      rcases ofDigits?_eq_some_iff.1 hread with hpoint | ⟨digits, rfl, hpoint⟩
      · exact .inl (.decimal hpoint)
      · exact .inr (.decimal hpoint)
  · rw [read?_name hhash] at h
    obtain ⟨body, rfl, -, hread⟩ := bind_splitAt?_eq_some_iff.1 h
    refine ⟨body, rfl, .inl ?_⟩
    simpa using Reference.name (ofName?_eq_some_iff.1 hread)

/-- The reader takes what is readable and nothing else. -/
theorem read?_eq_some_iff {s rest : List Char} {c : Char} :
    read? s = some (c, rest) ↔ ∃ body, s = body ++ ';' :: rest ∧ Readable body c := by
  constructor
  · exact exists_readable_of_read?
  · rintro ⟨body, rfl, h⟩
    exact read?_of_readable h

theorem not_occurs_nil (R : List Char → Char → Prop) : ¬Occurs R [] := by
  rintro ⟨before, _, _, _, h, -⟩
  cases before <;> cases h

theorem occurs_cons {R : List Char → Char → Prop} {x : Char} {s : List Char} :
    Occurs R (x :: s) ↔
      (x = '&' ∧ ∃ body after c, s = body ++ ';' :: after ∧ R body c) ∨ Occurs R s := by
  constructor
  · rintro ⟨before, body, after, c, h, hR⟩
    cases before with
    | nil =>
      obtain ⟨rfl, rfl⟩ := List.cons.inj h
      exact .inl ⟨rfl, body, after, c, rfl, hR⟩
    | cons y before =>
      obtain ⟨rfl, rfl⟩ := List.cons.inj h
      exact .inr ⟨before, body, after, c, rfl, hR⟩
  · rintro (⟨rfl, body, after, c, rfl, hR⟩ | ⟨before, body, after, c, rfl, hR⟩)
    · exact ⟨[], body, after, c, rfl, hR⟩
    · exact ⟨x :: before, body, after, c, rfl, hR⟩

theorem occurs_or {R S : List Char → Char → Prop} {s : List Char} :
    Occurs (fun body c ↦ R body c ∨ S body c) s ↔ Occurs R s ∨ Occurs S s := by
  simp only [Occurs, and_or_left, exists_or]

theorem occurs_readable_cons {x : Char} {s : List Char} :
    Occurs Readable (x :: s) ↔ (x = '&' ∧ (read? s).isSome) ∨ Occurs Readable s := by
  simp only [occurs_cons, Option.isSome_iff_exists, Prod.exists, read?_eq_some_iff]
  grind

theorem length_decodeChars_le (s : List Char) : (decodeChars s).length ≤ s.length := by
  fun_induction decodeChars s with
  | case1 => exact Nat.le_refl _
  | case2 s d rest h hlt ih =>
    simp only [List.length_cons]
    omega
  | case3 s h ih => exact Nat.succ_le_succ ih
  | case4 c s hc ih => exact Nat.succ_le_succ ih

/-- A reference that is read leaves less than there was, so nothing makes up for it. -/
theorem decodeChars_eq_self_iff (s : List Char) : decodeChars s = s ↔ ¬Occurs Readable s := by
  fun_induction decodeChars s with
  | case1 => simp only [not_occurs_nil, not_false_eq_true]
  | case2 s d rest h hlt ih =>
    have hread : Occurs Readable ('&' :: s) := occurs_readable_cons.2 (.inl ⟨rfl, by simp [h]⟩)
    refine iff_of_false ?_ (not_not.2 hread)
    intro heq
    have hlength := congrArg List.length heq
    have hle := length_decodeChars_le rest
    simp only [List.length_cons] at hlength
    omega
  | case3 s h ih => simp [occurs_readable_cons, h, ih]
  | case4 c s hc ih => simp [occurs_readable_cons, hc, ih]

/-- Decoding leaves alone the texts without references and without numbers that have a sign, and
these texts only. -/
theorem decode_eq_self_iff (text : String) :
    decode text = text ↔
      ¬Occurs Reference text.toList ∧ ¬Occurs SignedReference text.toList := by
  rw [← not_or, ← occurs_or]
  refine Iff.trans ?_ (decodeChars_eq_self_iff text.toList)
  rw [decode, ← String.toList_inj, String.toList_ofList]

theorem decode_plus_sign :
    ¬Occurs Reference "&#+65;".toList ∧ Occurs SignedReference "&#+65;".toList ∧
      decode "&#+65;" = "A" := by
  have hdecode : decode "&#+65;" = "A" := by decide +kernel
  have hnone : ¬Occurs Reference "&#+65;".toList := by
    have htext : "&#+65;".toList = ['&', '#', '+', '6', '5', ';'] := rfl
    rw [htext]
    simp only [occurs_cons, not_occurs_nil, or_false, true_and, Char.reduceEq, false_and]
    rintro ⟨body, after, c, hbody, h⟩
    cases h with
    | @name name c h =>
      obtain ⟨hhash, -⟩ := letters_of_mem_named h
      cases hn : name.toList with
      | nil => simp [hn] at hbody
      | cons x letters =>
        rw [hn, List.cons_append] at hbody
        rw [hn, ← (List.cons.inj hbody).1] at hhash
        exact hhash rfl
    | @decimal digits c h =>
      have hsign : '+' ∉ digits := h.notMem rfl
      cases digits <;> simp_all
    | hexadecimal hx h => rcases hx with rfl | rfl <;> simp at hbody
  refine ⟨hnone, ?_, hdecode⟩
  by_contra hsigned
  have hcopied := (decode_eq_self_iff "&#+65;").2 ⟨hnone, hsigned⟩
  rw [hdecode] at hcopied
  exact absurd hcopied (by decide)

end Entity

end WikiStream.Text
