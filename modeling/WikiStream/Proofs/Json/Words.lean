import Mathlib.Data.List.TakeWhile
import WikiStream.Proofs.Json.Grammar

namespace WikiStream.Json

/-- `p` is `s` cut short. -/
def Cut (p s : List Char) : Prop := ∃ q, q ≠ [] ∧ p ++ q = s

theorem not_cut_nil (p : List Char) : ¬Cut p [] := by
  rintro ⟨q, hq, h⟩
  exact hq (List.append_eq_nil_iff.1 h).2

theorem cut_cons {p s : List Char} {c : Char} (h : Cut p (c :: s)) :
    p = [] ∨ ∃ p', p = c :: p' ∧ Cut p' s := by
  obtain ⟨q, hq, h⟩ := h
  cases p with
  | nil => exact .inl rfl
  | cons d p' =>
    obtain ⟨rfl, hs⟩ := List.cons.inj h
    exact .inr ⟨p', rfl, q, hq, hs⟩

theorem cut_append {p a b : List Char} (h : Cut p (a ++ b)) :
    Cut p a ∨ ∃ p', p = a ++ p' ∧ Cut p' b := by
  induction a generalizing p with
  | nil => exact .inr ⟨p, rfl, h⟩
  | cons c a ih =>
    obtain rfl | ⟨p', rfl, h'⟩ := cut_cons h
    · exact .inl ⟨c :: a, List.cons_ne_nil _ _, rfl⟩
    · obtain ⟨q, hq, ha⟩ | ⟨p'', rfl, hb⟩ := ih h'
      · exact .inl ⟨q, hq, congrArg (c :: ·) ha⟩
      · exact .inr ⟨p'', rfl, hb⟩

section Blanks

variable {b s : List Char}

theorem skipBlanks_append (hb : Blanks b) : skipBlanks (b ++ s) = skipBlanks s :=
  List.dropWhile_append_of_pos hb

theorem skipBlanks_eq_nil (hb : Blanks b) : skipBlanks b = [] :=
  List.dropWhile_eq_nil_iff.2 hb

theorem skipBlanks_cons {c : Char} (hc : isBlank c = false) : skipBlanks (c :: s) = c :: s :=
  List.dropWhile_cons_of_neg (by simp [hc])

theorem blanks_of_cut {p : List Char} (hb : Blanks b) (h : Cut p b) : Blanks p := by
  obtain ⟨q, -, rfl⟩ := h
  exact fun c hc ↦ hb c (List.mem_append_left _ hc)

end Blanks

theorem readLiteral_append (word e : List Char) : readLiteral word (word ++ e) = .ok e := by
  induction word with
  | nil => rfl
  | cons c word ih => simpa only [List.cons_append, readLiteral, if_true] using ih

theorem readLiteral_cut {word p : List Char} (h : Cut p word) :
    readLiteral word p = .error .truncated := by
  induction word generalizing p with
  | nil => exact absurd h (not_cut_nil p)
  | cons c word ih =>
    obtain rfl | ⟨p', rfl, h'⟩ := cut_cons h
    · rfl
    · simpa only [readLiteral, if_true] using ih h'

section Strings

variable (use : Use) {s cs : List Char}

theorem readString_close : readString use ('"' :: s) = .ok ([], s) := by
  rw [readString]

theorem readString_letter {c : Char} (hq : c ≠ '"') (hb : c ≠ '\\') (hc : 0x20 ≤ c.toNat) :
    readString use (c :: s) = push c (readString use s) := by
  have h : ¬c.toNat < 0x20 := Nat.not_lt.2 hc
  simp [readString, hb, h]

theorem readString_escape {c d : Char} (h : simpleEscape? c = some d) :
    readString use ('\\' :: c :: s) = push d (readString use s) := by
  have hu : c ≠ 'u' := by
    rintro rfl
    cases h
  simp [readString, hu, h]

theorem readString_unicode {a b c d : Char} {n : Nat} (h : hexValue? a b c d = some n)
    (hhigh : isHighSurrogate n = false) (hlow : isLowSurrogate n = false) :
    readString .keep ('\\' :: 'u' :: a :: b :: c :: d :: s) =
      push (Char.ofNat n) (readString .keep s) := by
  simp [readString, h, hhigh, hlow]

theorem isLowSurrogate_of_isHighSurrogate {n : Nat} (h : isHighSurrogate n = true) :
    isLowSurrogate n = false := by
  simp only [isHighSurrogate, isLowSurrogate, Bool.and_eq_true, Bool.and_eq_false_imp,
    decide_eq_true_eq, decide_eq_false_iff_not] at h ⊢
  omega

theorem readString_surrogates {a b c d a' b' c' d' : Char} {n m : Nat}
    (h : hexValue? a b c d = some n) (hhigh : isHighSurrogate n = true)
    (h' : hexValue? a' b' c' d' = some m) (hlow : isLowSurrogate m = true) :
    readString .keep
        ('\\' :: 'u' :: a :: b :: c :: d :: '\\' :: 'u' :: a' :: b' :: c' :: d' :: s) =
      push (pairSurrogates n m) (readString .keep s) := by
  have hn := isLowSurrogate_of_isHighSurrogate hhigh
  simp [readString, h, h', hn, hhigh, hlow]

theorem utf8Size_of_digitOf? {c : Char} (h : (Text.digitOf? 16 c).isSome) : c.utf8Size = 1 := by
  have hlower : c.isLower = (decide (c.val ≥ 'a'.val) && decide (c.val ≤ 'z'.val)) := rfl
  have hupper : c.isUpper = decide (c.val ≥ 'A'.val ∧ c.val ≤ 'Z'.val) := rfl
  have hascii : c.val ≤ 127 := by
    obtain ⟨d, hd⟩ := Option.isSome_iff_exists.1 h
    have hv := (Option.filter_eq_some_iff.1 hd).1
    simp only [Text.digitValue?, Char.isDigit, hlower, hupper, Bool.and_eq_true,
      decide_eq_true_eq, ge_iff_le, UInt32.le_iff_toNat_le] at hv
    rw [UInt32.le_iff_toNat_le]
    simp only [Char.reduceVal, UInt32.reduceToNat] at hv ⊢
    split_ifs at hv <;> omega
  simp [Char.utf8Size, hascii]

theorem utf8Size_of_hexValue? {a b c d : Char} {n : Nat} (h : hexValue? a b c d = some n) :
    a.utf8Size = 1 ∧ b.utf8Size = 1 ∧ c.utf8Size = 1 := by
  simp only [hexValue?, Text.readUnsigned?, List.cons_ne_nil, if_false, Text.readDigits?,
    Option.bind_eq_some_iff] at h
  obtain ⟨_, ha, _, hb, _, hc, -⟩ := h
  exact ⟨utf8Size_of_digitOf? (Option.isSome_of_eq_some ha),
    utf8Size_of_digitOf? (Option.isSome_of_eq_some hb),
    utf8Size_of_digitOf? (Option.isSome_of_eq_some hc)⟩

inductive ShortEscape : List Char → Prop
  | nil : ShortEscape []
  | backslash : ShortEscape ['\\']
  | digits {t : List Char} : t.length < 4 → hexFault t = .truncated → ShortEscape ('\\' :: 'u' :: t)

/-- The digits take one byte each, so the fault of an escape that is cut short is the end. -/
theorem cut_unicode {a b c d : Char} {n : Nat} (h : hexValue? a b c d = some n) {p : List Char}
    (hp : Cut p ('\\' :: 'u' :: a :: b :: c :: d :: s)) :
    ShortEscape p ∨ ∃ p', p = '\\' :: 'u' :: a :: b :: c :: d :: p' ∧ Cut p' s := by
  obtain ⟨ha, hb, hc⟩ := utf8Size_of_hexValue? h
  obtain rfl | ⟨p₁, rfl, h₁⟩ := cut_cons hp
  · exact .inl .nil
  obtain rfl | ⟨p₂, rfl, h₂⟩ := cut_cons h₁
  · exact .inl .backslash
  obtain rfl | ⟨p₃, rfl, h₃⟩ := cut_cons h₂
  · exact .inl (.digits (by decide) (by decide))
  obtain rfl | ⟨p₄, rfl, h₄⟩ := cut_cons h₃
  · exact .inl (.digits (by simp) (by simp [hexFault, ha]))
  obtain rfl | ⟨p₅, rfl, h₅⟩ := cut_cons h₄
  · exact .inl (.digits (by simp) (by simp [hexFault, ha, hb]))
  obtain rfl | ⟨p₆, rfl, h₆⟩ := cut_cons h₅
  · exact .inl (.digits (by simp) (by simp [hexFault, ha, hb, hc]))
  · exact .inr ⟨p₆, rfl, h₆⟩

theorem ShortEscape.readString {p : List Char} (h : ShortEscape p) :
    readString .keep p = .error .truncated := by
  cases h with
  | nil | backslash => rfl
  | @digits t ht hf =>
    rcases t with _ | ⟨a, _ | ⟨b, _ | ⟨c, _ | ⟨d, t⟩⟩⟩⟩
    case cons.cons.cons.cons =>
      simp only [List.length_cons] at ht
      omega
    all_goals simp [Json.readString, hf]

theorem ShortEscape.readString_high {p : List Char} (hp : ShortEscape p) {a b c d : Char} {n : Nat}
    (h : hexValue? a b c d = some n) (hhigh : isHighSurrogate n = true) :
    Json.readString .keep ('\\' :: 'u' :: a :: b :: c :: d :: p) = .error .truncated := by
  have hn := isLowSurrogate_of_isHighSurrogate hhigh
  cases hp with
  | nil | backslash => simp [Json.readString, h, hn, hhigh]
  | @digits t ht hf =>
    rcases t with _ | ⟨a, _ | ⟨b, _ | ⟨c, _ | ⟨d, t⟩⟩⟩⟩
    case cons.cons.cons.cons =>
      simp only [List.length_cons] at ht
      omega
    all_goals simp [Json.readString, h, hn, hhigh, hf]

theorem StringText.readString_append (h : StringText s cs) (e : List Char) :
    readString .keep (s ++ e) = .ok (cs, e) := by
  induction h with
  | close => exact readString_close _
  | letter hq hb hc _ ih => rw [List.cons_append, readString_letter _ hq hb hc, ih, push]
  | escape hd _ ih => rw [List.cons_append, List.cons_append, readString_escape _ hd, ih, push]
  | unicode hn hhigh hlow _ ih =>
    simp only [List.cons_append, readString_unicode hn hhigh hlow, ih, push]
  | surrogates hn hhigh hm hlow _ ih =>
    simp only [List.cons_append, readString_surrogates hn hhigh hm hlow, ih, push]

theorem StringText.readString_cut (h : StringText s cs) {p : List Char} (hp : Cut p s) :
    readString .keep p = .error .truncated := by
  induction h generalizing p with
  | close =>
    obtain rfl | ⟨p', rfl, h'⟩ := cut_cons hp
    · rfl
    · exact absurd h' (not_cut_nil p')
  | letter hq hb hc _ ih =>
    obtain rfl | ⟨p', rfl, h'⟩ := cut_cons hp
    · rfl
    · rw [readString_letter _ hq hb hc, ih h', push]
  | escape hd _ ih =>
    obtain rfl | ⟨p₁, rfl, h₁⟩ := cut_cons hp
    · rfl
    obtain rfl | ⟨p₂, rfl, h₂⟩ := cut_cons h₁
    · rfl
    · rw [readString_escape _ hd, ih h₂, push]
  | unicode hn hhigh hlow _ ih =>
    obtain hshort | ⟨p', rfl, h'⟩ := cut_unicode hn hp
    · exact hshort.readString
    · simp only [readString_unicode hn hhigh hlow, ih h', push]
  | surrogates hn hhigh hm hlow _ ih =>
    obtain hshort | ⟨p', rfl, h'⟩ := cut_unicode hn hp
    · exact hshort.readString
    obtain hshort | ⟨p'', rfl, h''⟩ := cut_unicode hm h'
    · exact hshort.readString_high hn hhigh
    · simp only [readString_surrogates hn hhigh hm hlow, ih h'', push]

theorem eq_ok_of_push {c : Char} {o : Except Fault (List Char × List Char)} {r : List Char}
    (h : push c o = .ok (cs, r)) : ∃ cs', o = .ok (cs', r) ∧ cs = c :: cs' := by
  match o with
  | .ok (cs', t) =>
    obtain ⟨rfl, rfl⟩ := Prod.mk.inj (Except.ok.inj h)
    exact ⟨cs', rfl, rfl⟩
  | .error fault => cases h

theorem stringText_of_readString {r : List Char} (h : readString .keep s = .ok (cs, r)) :
    ∃ k, s = k ++ r ∧ StringText k cs := by
  generalize hu : Use.keep = use at h
  have hkeep : use ≠ .skip := by
    rintro rfl
    cases hu
  fun_induction readString use s generalizing cs with
  | case2 s =>
    obtain ⟨rfl, rfl⟩ := Prod.mk.inj (Except.ok.inj h)
    exact ⟨['"'], rfl, .close⟩
  | case4 _ _ _ _ _ _ _ hskip => exact absurd hskip hkeep
  | case7 a b c d n hn _ _ hhigh a' b' c' d' s m hm hlow ih =>
    obtain ⟨cs', hs, rfl⟩ := eq_ok_of_push h
    obtain ⟨k, rfl, hk⟩ := ih hs
    exact ⟨_, rfl, .surrogates hn hhigh hm hlow hk⟩
  | case13 a b c d s n hn _ hlow hhigh ih =>
    obtain ⟨cs', hs, rfl⟩ := eq_ok_of_push h
    obtain ⟨k, rfl, hk⟩ := ih hs
    exact ⟨_, rfl, .unicode hn (Bool.eq_false_iff.2 hhigh) (Bool.eq_false_iff.2 hlow) hk⟩
  | case16 c s _ _ d hd ih =>
    obtain ⟨cs', hs, rfl⟩ := eq_ok_of_push h
    obtain ⟨k, rfl, hk⟩ := ih hs
    exact ⟨_, rfl, .escape hd hk⟩
  | case19 c s hquote _ _ hend hescape hc ih =>
    obtain ⟨cs', hs, rfl⟩ := eq_ok_of_push h
    have hbackslash : c ≠ '\\' := by
      rintro rfl
      cases s with
      | nil => exact hend rfl rfl
      | cons d s => exact hescape d s rfl rfl
    obtain ⟨k, rfl, hk⟩ := ih hs
    exact ⟨_, rfl, .letter hquote hbackslash (Nat.le_of_not_lt hc) hk⟩
  | _ => cases h

end Strings

section Numbers

/-- `e` does not go on with a number that stands before it. -/
def EndsNumber (e : List Char) : Prop :=
  ∀ c ∈ e.head?, c.isDigit = false ∧ c ≠ '.' ∧ c ≠ 'e' ∧ c ≠ 'E'

def EndsDigits (e : List Char) : Prop := ∀ c ∈ e.head?, c.isDigit = false

theorem EndsNumber.endsDigits {e : List Char} (h : EndsNumber e) : EndsDigits e :=
  fun c hc ↦ (h c hc).1

variable {use : Use} {s ds r : List Char}

theorem isBlank_of_isDigit {c : Char} (hc : c.isDigit = true) : isBlank c = false := by
  simp only [isBlank, Bool.or_eq_false_iff, decide_eq_false_iff_not]
  refine ⟨⟨⟨?_, ?_⟩, ?_⟩, ?_⟩ <;> rintro rfl <;> cases hc

theorem readDigits_eq_ok (h : readDigits use s = .ok (ds, r)) :
    s = ds ++ r ∧ ds ≠ [] ∧ ∀ c ∈ ds, c.isDigit = true := by
  simp only [readDigits] at h
  split at h
  · cases h
  · rename_i hne
    obtain ⟨rfl, rfl⟩ := Prod.mk.inj (Except.ok.inj h)
    exact ⟨List.takeWhile_append_dropWhile.symm, hne, fun c hc ↦ List.mem_takeWhile_imp hc⟩

theorem readDigits_append (hne : ds ≠ []) (hd : ∀ c ∈ ds, c.isDigit = true) {e : List Char}
    (he : EndsDigits e) : readDigits use (ds ++ e) = .ok (ds, e) := by
  have htake : e.takeWhile Char.isDigit = [] := by
    cases e with
    | nil => rfl
    | cons c e => exact List.takeWhile_cons_of_neg (by simp [he c rfl])
  have hdrop : e.dropWhile Char.isDigit = e := by
    cases e with
    | nil => rfl
    | cons c e => exact List.dropWhile_cons_of_neg (by simp [he c rfl])
  simp only [readDigits, List.takeWhile_append_of_pos hd, List.dropWhile_append_of_pos hd, htake,
    hdrop, List.append_nil, hne, if_false]

theorem exists_of_bind_eq_ok {α β : Type} {x : Except Fault α} {f : α → Except Fault β} {b : β}
    (h : x >>= f = .ok b) : ∃ a, x = .ok a ∧ f a = .ok b := by
  cases x with
  | error fault => cases h
  | ok a => exact ⟨a, rfl, h⟩

theorem readWhole_local (h : readWhole use s = .ok (ds, r)) :
    s = ds ++ r ∧ ∀ e, EndsDigits e → readWhole use (ds ++ e) = .ok (ds, e) := by
  unfold readWhole at h
  obtain ⟨⟨digits, rest⟩, hd, hzero⟩ := exists_of_bind_eq_ok h
  obtain ⟨hs, hne, hdigits⟩ := readDigits_eq_ok hd
  dsimp only at hzero
  split at hzero
  · cases hzero
  · obtain ⟨rfl, rfl⟩ := Prod.mk.inj (Except.ok.inj hzero)
    refine ⟨hs, fun e he ↦ ?_⟩
    simp only [readWhole, readDigits_append hne hdigits he, bind, Except.bind]

theorem readFraction_local {f : Option (List Char)} (h : readFraction use s = .ok (f, r)) :
    ∃ w, s = w ++ r ∧ (w = [] ∨ ∃ t, w = '.' :: t) ∧
      ∀ e, EndsDigits e → (w = [] → ∀ c ∈ e.head?, c ≠ '.') →
        readFraction use (w ++ e) = .ok (f, e) := by
  unfold readFraction at h
  split at h
  · rename_i t
    obtain ⟨⟨digits, rest⟩, hd, hok⟩ := exists_of_bind_eq_ok h
    obtain ⟨rfl, hne, hdigits⟩ := readDigits_eq_ok hd
    obtain ⟨rfl, rfl⟩ := Prod.mk.inj (Except.ok.inj hok)
    refine ⟨'.' :: digits, rfl, .inr ⟨digits, rfl⟩, fun e he _ ↦ ?_⟩
    simp only [List.cons_append, readFraction, readDigits_append hne hdigits he, bind,
      Except.bind]
  · obtain ⟨rfl, rfl⟩ := Prod.mk.inj (Except.ok.inj h)
    refine ⟨[], rfl, .inl rfl, fun e _ hdot ↦ ?_⟩
    match e with
    | [] => rfl
    | c :: e =>
      have hc : c ≠ '.' := hdot rfl c rfl
      simp [readFraction, hc]

theorem readExponent_append {sign : List Char} (hsign : sign = [] ∨ sign = ['+'] ∨ sign = ['-'])
    (hne : ds ≠ []) (hd : ∀ c ∈ ds, c.isDigit = true) {c : Char} (hc : c = 'e' ∨ c = 'E')
    {e : List Char} (he : EndsDigits e) :
    readExponent use (c :: (sign ++ (ds ++ e))) = .ok (some (sign, ds), e) := by
  have hdigits : readDigits use (ds ++ e) = .ok (ds, e) := readDigits_append hne hd he
  obtain ⟨d, ds, rfl⟩ := List.exists_cons_of_ne_nil hne
  have hplus : d ≠ '+' := by
    rintro rfl
    exact absurd (hd '+' List.mem_cons_self) (by decide)
  have hminus : d ≠ '-' := by
    rintro rfl
    exact absurd (hd '-' List.mem_cons_self) (by decide)
  simp only [List.cons_append] at hdigits
  obtain rfl | rfl := hc <;> obtain rfl | rfl | rfl := hsign <;>
    simp [readExponent, hdigits, hplus, hminus, bind, Except.bind]

theorem readExponent_local {x : Option (List Char × List Char)}
    (h : readExponent use s = .ok (x, r)) :
    ∃ w, s = w ++ r ∧ (∀ c ∈ w.head?, c = 'e' ∨ c = 'E') ∧
      ∀ e, EndsNumber e → readExponent use (w ++ e) = .ok (x, e) := by
  have hword (c : Char) (sign t : List Char) (hc : c = 'e' ∨ c = 'E')
      (hsign : sign = [] ∨ sign = ['+'] ∨ sign = ['-'])
      (hbind : (readDigits use t >>= fun p ↦ .ok (some (sign, p.1), p.2)) = .ok (x, r)) :
      ∃ w, c :: (sign ++ t) = w ++ r ∧ (∀ c ∈ w.head?, c = 'e' ∨ c = 'E') ∧
        ∀ e, EndsNumber e → readExponent use (w ++ e) = .ok (x, e) := by
    obtain ⟨⟨digits, rest⟩, hd, hok⟩ := exists_of_bind_eq_ok hbind
    obtain ⟨rfl, hne, hdigits⟩ := readDigits_eq_ok hd
    obtain ⟨rfl, rfl⟩ := Prod.mk.inj (Except.ok.inj hok)
    refine ⟨c :: (sign ++ digits), by simp, by simpa using hc, fun e he ↦ ?_⟩
    rw [List.cons_append, List.append_assoc]
    exact readExponent_append hsign hne hdigits hc he.endsDigits
  unfold readExponent at h
  split at h
  case h_1 t | h_2 t =>
    simp only at h
    split at h
    · exact hword _ ['+'] _ (by simp) (.inr (.inl rfl)) h
    · exact hword _ ['-'] _ (by simp) (.inr (.inr rfl)) h
    · exact hword _ [] _ (by simp) (.inl rfl) h
  case h_3 =>
    obtain ⟨rfl, rfl⟩ := Prod.mk.inj (Except.ok.inj h)
    refine ⟨[], rfl, nofun, fun e he ↦ ?_⟩
    match e with
    | [] => rfl
    | c :: e =>
      obtain ⟨-, -, he, hE⟩ := he c rfl
      simp [readExponent, he, hE]

theorem parts_of_readNumber {negative : Bool} {n : Number}
    (h : readNumber use negative s = .ok (n, r)) :
    ∃ (p : NumberParts) (s₁ s₂ : List Char), readWhole use s = .ok (p.whole, s₁) ∧
      readFraction use s₁ = .ok (p.fraction, s₂) ∧ readExponent use s₂ = .ok (p.exponent, r) ∧
      (use = .keep && !p.inRange) = false ∧ n = p.toNumber negative := by
  unfold readNumber at h
  obtain ⟨⟨whole, s₁⟩, hw, h₁⟩ := exists_of_bind_eq_ok h
  obtain ⟨⟨fraction, s₂⟩, hf, h₂⟩ := exists_of_bind_eq_ok h₁
  obtain ⟨⟨exponent, s₃⟩, hx, h₃⟩ := exists_of_bind_eq_ok h₂
  dsimp only at h₃
  split at h₃
  · cases h₃
  · rename_i hrange
    obtain ⟨rfl, rfl⟩ := Prod.mk.inj (Except.ok.inj h₃)
    exact ⟨⟨whole, fraction, exponent⟩, s₁, s₂, hw, hf, hx, Bool.eq_false_iff.2 hrange, rfl⟩

theorem head_of_readNumber {negative : Bool} {n : Number}
    (h : readNumber use negative s = .ok (n, r)) : ∃ c t, s = c :: t ∧ c.isDigit = true := by
  obtain ⟨p, s₁, s₂, hw, -⟩ := parts_of_readNumber h
  unfold readWhole at hw
  obtain ⟨⟨digits, rest⟩, hd, -⟩ := exists_of_bind_eq_ok hw
  obtain ⟨rfl, hne, hdigits⟩ := readDigits_eq_ok hd
  obtain ⟨c, t, rfl⟩ := List.exists_cons_of_ne_nil hne
  exact ⟨c, t ++ rest, rfl, hdigits c List.mem_cons_self⟩

/-- A number is a word of the text, and is read from it wherever it ends. -/
theorem readNumber_local {negative : Bool} {n : Number}
    (h : readNumber use negative s = .ok (n, r)) :
    ∃ w, s = w ++ r ∧ ∀ e, EndsNumber e → readNumber use negative (w ++ e) = .ok (n, e) := by
  obtain ⟨p, s₁, s₂, hw, hf, hx, hrange, rfl⟩ := parts_of_readNumber h
  obtain ⟨rfl, hwhole⟩ := readWhole_local hw
  obtain ⟨wf, rfl, hwf, hfraction⟩ := readFraction_local hf
  obtain ⟨wx, rfl, hwx, hexponent⟩ := readExponent_local hx
  refine ⟨p.whole ++ (wf ++ wx), by simp only [List.append_assoc], fun e he ↦ ?_⟩
  have htail : ∀ c ∈ (wx ++ e).head?, c.isDigit = false ∧ c ≠ '.' := by
    cases wx with
    | nil => exact fun c hc ↦ ⟨(he c hc).1, (he c hc).2.1⟩
    | cons d wx =>
      intro c hc
      obtain rfl : d = c := Option.some_inj.1 hc
      obtain rfl | rfl := hwx d rfl <;> decide
  have hafter : EndsDigits (wf ++ (wx ++ e)) := by
    obtain rfl | ⟨t, rfl⟩ := hwf
    · exact fun c hc ↦ (htail c hc).1
    · intro c hc
      obtain rfl : '.' = c := Option.some_inj.1 hc
      rfl
  have hf' := hfraction (wx ++ e) (fun c hc ↦ (htail c hc).1) fun _ c hc ↦ (htail c hc).2
  simp only [readNumber, List.append_assoc, hwhole _ hafter, hf', hexponent e he, bind,
    Except.bind, hrange, Bool.false_eq_true, if_false]

end Numbers

end WikiStream.Json
