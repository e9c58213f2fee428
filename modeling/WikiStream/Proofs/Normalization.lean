import WikiStream.Proofs.Entities
import WikiStream.Text.Normal

namespace WikiStream.Text

namespace Entity

structure Digit (base : Nat) where
  value : Fin base
  isUpper : Bool := false

def Digit.char {base : Nat} (d : Digit base) : Char :=
  if d.isUpper then (Nat.digitChar d.value).toUpper else Nat.digitChar d.value

/-- A character other than NUL by the digits of its code point, the highest first. Zeros may stand
in front of them. -/
structure Number (base most : Nat) where
  digits : List (Digit base)
  char : Char
  digits_ne_nil : digits ≠ []
  length_le : digits.length ≤ most
  value_eq : Nat.ofDigits base (digits.map fun d ↦ d.value.val).reverse = char.toNat
  char_ne_nul : char.toNat ≠ 0

inductive Piece
  | literal (c : Char) (h : c ≠ '&')
  | name (key : String) (c : Char) (h : (key, c) ∈ named)
  | decimal (n : Number 10 7)
  | hexadecimal (isUpper : Bool) (n : Number 16 6)

namespace Piece

def char : Piece → Char
  | literal c _ | name _ c _ => c
  | decimal n | hexadecimal _ n => n.char

def text : Piece → List Char
  | literal c _ => [c]
  | name key _ _ => '&' :: (key.toList ++ [';'])
  | decimal n => '&' :: '#' :: (n.digits.map Digit.char ++ [';'])
  | hexadecimal isUpper n =>
    '&' :: '#' :: (if isUpper then 'X' else 'x') :: (n.digits.map Digit.char ++ [';'])

end Piece

theorem digitOf?_char {base : Nat} (hbase : base ≤ 16) (d : Digit base) :
    digitOf? base d.char = some d.value := by
  have hall : ∀ value < 16, ∀ isUpper : Bool,
      digitValue? (if isUpper then (Nat.digitChar value).toUpper else Nat.digitChar value) =
        some value := by decide
  have hvalue := hall d.value (Nat.lt_of_lt_of_le d.value.isLt hbase) d.isUpper
  simp [digitOf?, Digit.char, hvalue, Option.filter]

theorem Number.codePoint {base most : Nat} (hbase : base ≤ 16) (n : Number base most) :
    CodePoint base most (n.digits.map Digit.char) n.char := by
  refine ⟨⟨by simpa using n.digits_ne_nil, _, ?_, n.value_eq.symm⟩, ?_, n.char_ne_nul⟩
  · rw [List.forall₂_map_left_iff, List.forall₂_map_right_iff]
    exact List.forall₂_same.2 fun d _ ↦ digitOf?_char hbase d
  · rw [List.length_map]
    exact n.length_le

theorem decodeChars_reference {body : List Char} {c : Char} (h : Reference body c)
    (rest : List Char) : decodeChars ('&' :: (body ++ ';' :: rest)) = c :: decodeChars rest := by
  have hread : read? (body ++ ';' :: rest) = some (c, rest) := read?_of_readable (.inl h)
  rw [decodeChars]
  split
  · split <;> simp_all
  · contradiction

/-- A piece is read to its end and no further, whatever stands after it. -/
theorem decodeChars_text_append (p : Piece) (rest : List Char) :
    decodeChars (p.text ++ rest) = p.char :: decodeChars rest := by
  cases p with
  | literal c h => simp [Piece.text, Piece.char, decodeChars, h]
  | name key c h =>
    have hread := decodeChars_reference (.name h) rest
    simpa [Piece.text, Piece.char] using hread
  | decimal n =>
    have hread := decodeChars_reference (.decimal (n.codePoint (by decide))) rest
    simpa [Piece.text, Piece.char] using hread
  | hexadecimal isUpper n =>
    have hmark : (if isUpper then 'X' else 'x') = 'x' ∨ (if isUpper then 'X' else 'x') = 'X' := by
      cases isUpper <;> simp
    have hread := decodeChars_reference (.hexadecimal hmark (n.codePoint (by decide))) rest
    simpa [Piece.text, Piece.char] using hread

theorem decodeChars_flatMap_text (pieces : List Piece) :
    decodeChars (pieces.flatMap Piece.text) = pieces.map Piece.char := by
  induction pieces with
  | nil => simp [decodeChars]
  | cons p pieces ih => rw [List.flatMap_cons, decodeChars_text_append, ih, List.map_cons]

def escape (s : String) : String :=
  String.ofList (s.toList.flatMap fun c ↦ if c = '&' then "&amp;".toList else [c])

def Piece.ofChar (c : Char) : Piece :=
  if h : c = '&' then .name "amp" '&' (by decide) else .literal c h

theorem Piece.char_ofChar (c : Char) : (ofChar c).char = c := by
  unfold ofChar
  split
  · rename_i h
    exact h.symm
  · rfl

theorem Piece.text_ofChar (c : Char) :
    (ofChar c).text = if c = '&' then "&amp;".toList else [c] := by
  unfold ofChar
  split <;> rfl

/-- Decoding undoes every way to write a text, exactly once: what the pieces of a text stand for is
all that is found in it, and where only ampersands are written as references, the text itself is,
even if it looks like references. -/
theorem decode_pieces :
    (∀ pieces : List Piece, decode (String.ofList (pieces.flatMap Piece.text)) =
      String.ofList (pieces.map Piece.char)) ∧ ∀ s : String, decode (escape s) = s := by
  have hdecode (pieces : List Piece) : decode (String.ofList (pieces.flatMap Piece.text)) =
      String.ofList (pieces.map Piece.char) := by
    rw [decode, String.toList_ofList, decodeChars_flatMap_text]
  refine ⟨hdecode, fun s ↦ ?_⟩
  have hescape : escape s = String.ofList ((s.toList.map Piece.ofChar).flatMap Piece.text) := by
    simp only [escape, List.flatMap_map, Piece.text_ofChar]
  have hchars : (s.toList.map Piece.ofChar).map Piece.char = s.toList := by
    simp only [List.map_map, Function.comp_def, Piece.char_ofChar, List.map_id']
  rw [hescape, hdecode, hchars, String.ofList_toList]

/-- The greatest code point takes all the digits that a number may have, and no reference is made of
what others stand for. -/
example : decode "&#1114111;&#X10fFfF;&amp;#65;;#&#x000041;" =
    String.ofList [Char.ofNat 0x10FFFF, Char.ofNat 0x10FFFF] ++ "&#65;;#A" := by
  decide +kernel

theorem decodeChars_eq_self_of_length_le {s : List Char} (h : s.length ≤ (decodeChars s).length) :
    decodeChars s = s := by
  fun_induction decodeChars s with
  | case1 => rfl
  | case2 s d rest hread hlt ih =>
    have hle := length_decodeChars_le rest
    simp only [List.length_cons] at h
    omega
  | case3 s hread ih => rw [ih (Nat.le_of_succ_le_succ h)]
  | case4 c s hc ih => rw [ih (Nat.le_of_succ_le_succ h)]

end Entity

theorem doubleSpace_infix_cons {c : Char} {s : List Char} :
    [' ', ' '] <:+: c :: s ↔ (c = ' ' ∧ s.head? = some ' ') ∨ [' ', ' '] <:+: s := by
  have hhead : [' '] <+: s ↔ s.head? = some ' ' := by
    cases s with
    | nil => simp only [List.prefix_nil, List.head?_nil, reduceCtorEq]
    | cons d s => simp only [List.cons_prefix_cons, List.nil_prefix, and_true, List.head?_cons,
        Option.some.injEq, eq_comm]
  rw [List.infix_cons_iff, List.cons_prefix_cons, hhead, @eq_comm _ ' ' c]

theorem map_space_eq_self {p : Char → Prop} [DecidablePred p] {s : List Char}
    (h : ∀ c ∈ s, p c → c = ' ') : (s.map fun c ↦ if p c then ' ' else c) = s := by
  refine (List.map_congr_left fun c hc ↦ ?_).trans (List.map_id s)
  split
  · rename_i hp
    exact (h c hc hp).symm
  · rfl

theorem collapseFrom_sublist (inGap : Bool) (s : List Char) :
    (collapseFrom inGap s).Sublist (s.map fun c ↦ if isGap c then ' ' else c) := by
  fun_induction collapseFrom inGap s with
  | case1 => exact .slnil
  | case2 c s hgap ih => exact ih.cons _
  | case3 inGap c s hgap hin ih =>
    rw [List.map_cons, if_pos hgap]
    exact ih.cons_cons _
  | case4 inGap c s hgap ih =>
    rw [List.map_cons, if_neg hgap]
    exact ih.cons_cons _

theorem length_collapseFrom_le (inGap : Bool) (s : List Char) :
    (collapseFrom inGap s).length ≤ s.length := by
  have h := (collapseFrom_sublist inGap s).length_le
  rwa [List.length_map] at h

theorem eq_space_of_isGap {c : Char} (hgap : isGap c) (htab : c ≠ '\t') : c = ' ' := by
  simp only [isGap, Bool.or_eq_true, decide_eq_true_eq] at hgap
  exact hgap.resolve_right htab

theorem collapseFrom_eq_self_of_length_le {inGap : Bool} {s : List Char} (htab : '\t' ∉ s)
    (hlength : s.length ≤ (collapseFrom inGap s).length) : collapseFrom inGap s = s := by
  have hspaces : (s.map fun c ↦ if isGap c then ' ' else c) = s :=
    map_space_eq_self fun c hc hgap ↦ eq_space_of_isGap hgap (ne_of_mem_of_not_mem hc htab)
  have hsub := collapseFrom_sublist inGap s
  rw [hspaces] at hsub
  exact hsub.eq_of_length_le hlength

theorem tab_notMem_collapseFrom (inGap : Bool) (s : List Char) : '\t' ∉ collapseFrom inGap s := by
  fun_induction collapseFrom inGap s with
  | case1 => exact List.not_mem_nil
  | case2 c s hgap ih => exact ih
  | case3 inGap c s hgap hin ih => simpa using ih
  | case4 inGap c s hgap ih =>
    have hc : '\t' ≠ c := by
      rintro rfl
      exact hgap rfl
    exact List.not_mem_cons_of_ne_of_not_mem hc ih

/-- After a gap no other space is told, so no two spaces come together. -/
theorem doubleSpace_not_infix_collapseFrom (inGap : Bool) (s : List Char) :
    ¬[' ', ' '] <:+: collapseFrom inGap s ∧
      (inGap → (collapseFrom inGap s).head? ≠ some ' ') := by
  fun_induction collapseFrom inGap s with
  | case1 => simp
  | case2 c s hgap ih => exact ih
  | case3 inGap c s hgap hin ih =>
    simp only [doubleSpace_infix_cons, true_and, not_or]
    exact ⟨⟨ih.2 rfl, ih.1⟩, fun h ↦ absurd h hin⟩
  | case4 inGap c s hgap ih =>
    have hc : c ≠ ' ' := by
      rintro rfl
      exact hgap rfl
    simp only [doubleSpace_infix_cons, hc, false_and, false_or, List.head?_cons]
    exact ⟨ih.1, fun _ h ↦ hc (Option.some.inj h)⟩

theorem collapseFrom_eq_self {inGap : Bool} {s : List Char} (htab : '\t' ∉ s)
    (hdouble : ¬[' ', ' '] <:+: s) (hhead : inGap → s.head? ≠ some ' ') :
    collapseFrom inGap s = s := by
  fun_induction collapseFrom inGap s with
  | case1 => rfl
  | case2 c s hgap ih =>
    obtain rfl := eq_space_of_isGap hgap (ne_of_mem_of_not_mem List.mem_cons_self htab)
    exact absurd rfl (hhead rfl)
  | case3 inGap c s hgap hin ih =>
    obtain rfl := eq_space_of_isGap hgap (ne_of_mem_of_not_mem List.mem_cons_self htab)
    rw [doubleSpace_infix_cons, not_or, not_and] at hdouble
    rw [ih (List.not_mem_of_not_mem_cons htab) hdouble.2 fun _ ↦ hdouble.1 rfl]
  | case4 inGap c s hgap ih =>
    rw [doubleSpace_infix_cons, not_or] at hdouble
    rw [ih (List.not_mem_of_not_mem_cons htab) hdouble.2 fun h ↦ by cases h]

theorem mem_breakSpaces {c : Char} {s : List Char}
    (h : c ∈ s.map fun c ↦ if c = nonBreakingSpace then ' ' else c) :
    c = ' ' ∨ (c ∈ s ∧ c ≠ nonBreakingSpace) := by
  obtain ⟨d, hd, rfl⟩ := List.mem_map.1 h
  split
  · exact .inl rfl
  · exact .inr ⟨hd, ‹_›⟩

/-- Normalizing leaves a text as it is where it has no tab, no two spaces side by side, no
non-breaking space and nothing to decode, and nowhere else. -/
theorem normalize_eq_self_iff (t : String) :
    normalize t = t ↔ '\t' ∉ t.toList ∧ ¬[' ', ' '] <:+: t.toList ∧
      nonBreakingSpace ∉ t.toList ∧ Entity.decode t = t := by
  have hstages : normalize t = t ↔ (Entity.decodeChars (collapseFrom false t.toList)).map
      (fun c ↦ if c = nonBreakingSpace then ' ' else c) = t.toList := by
    rw [← String.toList_inj]
    simp only [normalize, breakSpaces, Entity.decode, collapse, String.toList_ofList]
  have hdecode : Entity.decode t = t ↔ Entity.decodeChars t.toList = t.toList := by
    rw [← String.toList_inj, Entity.decode, String.toList_ofList]
  rw [hstages, hdecode]
  constructor
  · intro h
    -- The last stage keeps the length and no other makes a text longer, so they keep it too.
    have hlength := congrArg List.length h
    rw [List.length_map] at hlength
    have hcollapse := length_collapseFrom_le false t.toList
    have hdecoded := Entity.length_decodeChars_le (collapseFrom false t.toList)
    have hread : Entity.decodeChars (collapseFrom false t.toList) = collapseFrom false t.toList :=
      Entity.decodeChars_eq_self_of_length_le (by omega)
    rw [hread] at h
    have hbroken {c : Char} (hc : c ∈ t.toList) := mem_breakSpaces (h.symm ▸ hc)
    have htab : '\t' ∉ t.toList := by
      intro hmem
      rcases hbroken hmem with he | ⟨hmem, -⟩
      · cases he
      · exact tab_notMem_collapseFrom false t.toList hmem
    have hself : collapseFrom false t.toList = t.toList :=
      collapseFrom_eq_self_of_length_le htab (by omega)
    have hdouble := (doubleSpace_not_infix_collapseFrom false t.toList).1
    rw [hself] at hread hdouble
    refine ⟨htab, hdouble, fun hmem ↦ ?_, hread⟩
    rcases hbroken hmem with he | ⟨-, hne⟩
    · cases he
    · exact hne rfl
  · rintro ⟨htab, hdouble, hbreak, hread⟩
    have hself : collapseFrom false t.toList = t.toList :=
      collapseFrom_eq_self htab hdouble fun h ↦ by cases h
    rw [hself, hread]
    exact map_space_eq_self fun c hc heq ↦ absurd heq (ne_of_mem_of_not_mem hc hbreak)

end WikiStream.Text
