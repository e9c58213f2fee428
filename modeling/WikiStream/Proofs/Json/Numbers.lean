import WikiStream.Proofs.Json.Words

namespace WikiStream.Json

section Digits

variable {ds : List Char}

theorem readDigits?_eq (hd : ∀ c ∈ ds, c.isDigit = true) (value : Nat) :
    Text.readDigits? 10 value ds = some (Nat.ofDigitChars 10 ds value) := by
  induction ds generalizing value with
  | nil => rfl
  | cons c ds ih =>
    obtain ⟨hc, hds⟩ := List.forall_mem_cons.1 hd
    have hlt : c.toNat - '0'.toNat < 10 := by
      simp only [Char.isDigit, Bool.and_eq_true, decide_eq_true_eq, ge_iff_le,
        UInt32.le_iff_toNat_le] at hc
      simp only [Char.toNat, Char.reduceVal, UInt32.reduceToNat] at hc ⊢
      omega
    have hdigit : Text.digitOf? 10 c = some (c.toNat - '0'.toNat) := by
      rw [Text.digitOf?, Text.digitValue?, if_pos hc]
      exact Option.filter_some_pos (decide_eq_true hlt)
    rw [Text.readDigits?, hdigit, Option.bind_some, ih hds, Nat.ofDigitChars_cons, Nat.mul_comm]

theorem isDigit_of_mem_decimal {n : Nat} {c : Char} (h : c ∈ Text.decimal n) : c.isDigit = true :=
  Nat.isDigit_of_mem_toDigits (by decide) (by decide) h

theorem readDigits?_decimal (n : Nat) : Text.readDigits? 10 0 (Text.decimal n) = some n := by
  rw [readDigits?_eq (fun c hc ↦ isDigit_of_mem_decimal hc), Text.decimal,
    Nat.ofDigitChars_ten_toDigits]

theorem head_decimal {n : Nat} (h : 0 < n) : (Text.decimal n).head? ≠ some '0' := by
  unfold Text.decimal
  induction n using Nat.strongRecOn with
  | ind n ih =>
    by_cases hn : n < 10
    · rw [Nat.toDigits_of_lt_base hn]
      intro hzero
      rw [List.head?_cons, Option.some_inj, Nat.digitChar_eq_zero] at hzero
      omega
    · rw [Nat.toDigits_of_base_le (by decide) (by omega),
        List.head?_append_of_ne_nil _ Nat.toDigits_ne_nil]
      exact ih (n / 10) (by omega) (by omega)

theorem decimal_ne_zero_cons (n : Nat) (c : Char) (rest : List Char) :
    Text.decimal n ≠ '0' :: c :: rest := by
  intro h
  obtain rfl | hn := Nat.eq_zero_or_pos n
  · cases h
  · exact head_decimal hn (by rw [h, List.head?_cons])

end Digits

section Range

theorem le_ofDigitChars (ds : List Char) (value : Nat) : value ≤ Nat.ofDigitChars 10 ds value := by
  rw [Nat.ofDigitChars_eq_ofDigitChars_zero]
  have hpos : 0 < 10 ^ ds.length := Nat.pow_pos (by decide)
  exact (Nat.le_mul_of_pos_left value hpos).trans (Nat.le_add_right _ _)

theorem foldl_pushWhole {ds : List Char} {value : Nat}
    (h : Nat.ofDigitChars 10 ds value < UInt64.size) :
    ds.foldl Decimal.pushWhole ⟨value, 0, false⟩ = ⟨Nat.ofDigitChars 10 ds value, 0, false⟩ := by
  induction ds generalizing value with
  | nil => rfl
  | cons c ds ih =>
    rw [Nat.ofDigitChars_cons, Nat.mul_comm] at h ⊢
    have hfits : Decimal.fits ⟨value, 0, false⟩ (Decimal.digit c) = true :=
      decide_eq_true (Nat.lt_of_le_of_lt (le_ofDigitChars ds _) h)
    rw [List.foldl_cons, Decimal.pushWhole, if_pos hfits]
    exact ih h

theorem roundBinary_le (n : Nat) : roundBinary n ≤ 2 * n := by
  obtain rfl | hn := Nat.eq_zero_or_pos n
  · decide
  have hunit : 1 <<< (n.log2 - 52) ≤ n := by
    rw [Nat.one_shiftLeft]
    exact (Nat.pow_le_pow_right (by decide) (Nat.sub_le _ _)).trans (Nat.log2_self_le hn.ne')
  have hdiv : n / 1 <<< (n.log2 - 52) * 1 <<< (n.log2 - 52) ≤ n := Nat.div_mul_le_self _ _
  unfold roundBinary
  dsimp only
  split
  · rw [Nat.add_mul]
    omega
  · omega

theorem inRange_decimal {n : Nat} (h : n < UInt64.size) :
    NumberParts.inRange ⟨Text.decimal n, none, none⟩ = true := by
  have hvalue : Nat.ofDigitChars 10 (Text.decimal n) 0 = n := Nat.ofDigitChars_ten_toDigits
  have hdigits : Decimal.ofDigits (Text.decimal n) [] = ⟨n, 0, false⟩ := by
    have hfold := foldl_pushWhole (hvalue.symm ▸ h)
    rw [hvalue] at hfold
    simp only [Decimal.ofDigits, hfold, List.foldl_nil]
  have hbound : roundBinary n * 1 < binaryLimit := by
    have hlimit : 2 * UInt64.size ≤ binaryLimit := by decide +kernel
    have hround := roundBinary_le n
    omega
  have hone : roundBinary (Nat.pow 10 (0 + 0 : Int).toNat) = 1 := by decide +kernel
  simp only [NumberParts.inRange, Option.getD_none, hdigits, NumberParts.exponentValue,
    Decimal.inRange, hone, decide_eq_true hbound]
  simp

end Range

section Whole

theorem readNumber_decimal (negative : Bool) {n : Nat} (h : n < UInt64.size) :
    readNumber .keep negative (Text.decimal n) =
      .ok (NumberParts.toNumber negative ⟨Text.decimal n, none, none⟩, []) := by
  have hdigits : readDigits .keep (Text.decimal n) = .ok (Text.decimal n, []) := by
    have hne : Text.decimal n ≠ [] := Nat.toDigits_ne_nil
    have hend : EndsDigits [] := nofun
    have happend : readDigits .keep (Text.decimal n ++ []) = .ok (Text.decimal n, []) :=
      readDigits_append hne (fun c hc ↦ isDigit_of_mem_decimal hc) hend
    rwa [List.append_nil] at happend
  have hwhole : readWhole .keep (Text.decimal n) = .ok (Text.decimal n, []) := by
    simp only [readWhole, hdigits, bind, Except.bind]
    split
    · rename_i hzero
      exact absurd hzero (decimal_ne_zero_cons n _ _)
    · rfl
  simp only [readNumber, hwhole, readFraction, readExponent, bind, Except.bind, inRange_decimal h]
  rfl

theorem spells_decimal {n : Nat} (h : n < UInt64.size) :
    Spells (Text.decimal n) (.number (.whole n)) := by
  apply Spells.positive
  rw [readNumber_decimal false h]
  simp [NumberParts.toNumber, readDigits?_decimal, h]

theorem spells_neg_decimal {n : Nat} (hpos : 0 < n) (h : Int64.minValue.toInt ≤ -n) :
    Spells ('-' :: Text.decimal n) (.number (.whole (-n))) := by
  have hmin : Int64.minValue.toInt = -9223372036854775808 := by decide
  have hsize : n < UInt64.size := by
    simp only [UInt64.size]
    omega
  apply Spells.negative
  rw [readNumber_decimal true hsize]
  simp [NumberParts.toNumber, readDigits?_decimal, hpos]
  omega

theorem spells_whole {n : Int} (hlow : Int64.minValue.toInt ≤ n) (hhigh : n < UInt64.size) :
    Spells (Number.write (.whole n)) (.number (.whole n)) := by
  cases n with
  | ofNat n => exact spells_decimal (Int.ofNat_lt.1 hhigh)
  | negSucc n => exact spells_neg_decimal (Nat.succ_pos n) hlow

end Whole

end WikiStream.Json
