namespace WikiStream.Text

def inRanges (ranges : List (Nat × Nat)) (c : Char) : Bool :=
  ranges.any fun r ↦ r.1 ≤ c.toNat && c.toNat ≤ r.2

/-- The characters of the Unicode property `White_Space`. -/
def isBlank (c : Char) : Bool :=
  let n := c.toNat
  (0x9 ≤ n && n ≤ 0xD) || n = 0x20 || n = 0x85 || n = 0xA0 || n = 0x1680 ||
    (0x2000 ≤ n && n ≤ 0x200A) || n = 0x2028 || n = 0x2029 || n = 0x202F || n = 0x205F || n = 0x3000

def nonBreakingSpace : Char := '\u00A0'

/-- White space that does not glue the words around it together. -/
def isPadding (c : Char) : Bool :=
  isBlank c && c ≠ nonBreakingSpace && c ≠ '\u2007' && c ≠ '\u202F'

def dropTail (p : Char → Bool) (s : List Char) : List Char := (s.reverse.dropWhile p).reverse

def trimLeft (p : Char → Bool) (s : String) : String := String.ofList (s.toList.dropWhile p)

def trimRight (p : Char → Bool) (s : String) : String := String.ofList (dropTail p s.toList)

def trim (s : String) : String := trimLeft isBlank (trimRight isBlank s)

def splitAt? (c : Char) : List Char → Option (List Char × List Char)
  | [] => none
  | d :: rest => if d = c then some ([], rest) else (splitAt? c rest).map fun p ↦ (d :: p.1, p.2)

theorem splitAt?_eq_some_iff {c : Char} {s a b : List Char} :
    splitAt? c s = some (a, b) ↔ s = a ++ c :: b ∧ c ∉ a := by
  induction s generalizing a b with
  | nil => simp [splitAt?]
  | cons d s ih =>
    simp only [splitAt?]
    by_cases hd : d = c
    · subst hd
      simp only [if_true, Option.some.injEq, Prod.mk.injEq]
      constructor
      · rintro ⟨rfl, rfl⟩
        exact ⟨rfl, List.not_mem_nil⟩
      · rintro ⟨hs, hnot⟩
        cases a with
        | nil => exact ⟨rfl, (List.cons.inj hs).2⟩
        | cons x a =>
          obtain rfl := (List.cons.inj hs).1
          exact absurd List.mem_cons_self hnot
    · simp only [hd, if_false, Option.map_eq_some_iff, Prod.exists, Prod.mk.injEq]
      constructor
      · rintro ⟨a, b, h, rfl, rfl⟩
        obtain ⟨rfl, hnot⟩ := ih.1 h
        refine ⟨rfl, ?_⟩
        simp only [List.mem_cons, not_or]
        exact ⟨Ne.symm hd, hnot⟩
      · rintro ⟨hs, hnot⟩
        cases a with
        | nil => exact absurd (List.cons.inj hs).1 hd
        | cons x a =>
          obtain ⟨rfl, rfl⟩ := List.cons.inj hs
          simp only [List.mem_cons, not_or] at hnot
          exact ⟨a, b, ih.2 ⟨rfl, hnot.2⟩, rfl, rfl⟩

theorem splitAt?_eq_none_iff {c : Char} {s : List Char} : splitAt? c s = none ↔ c ∉ s := by
  induction s with
  | nil => simp [splitAt?]
  | cons d s ih =>
    by_cases hd : d = c
    · simp [splitAt?, hd]
    · simp [splitAt?, hd, Ne.symm hd, ih]

/-- The pieces between the occurrences of `c`, one more than there are occurrences. -/
def splitOn (c : Char) : List Char → List (List Char)
  | [] => [[]]
  | d :: rest =>
    if d = c then [] :: splitOn c rest
    else match splitOn c rest with
      | [] => [[d]]
      | piece :: pieces => (d :: piece) :: pieces

theorem splitOn_of_notMem {c : Char} {l : List Char} (h : c ∉ l) : splitOn c l = [l] := by
  induction l with
  | nil => rfl
  | cons d l ih =>
    obtain ⟨hd, hl⟩ := not_or.1 (mt List.mem_cons.2 h)
    simp only [splitOn, if_neg (Ne.symm hd), ih hl]

theorem splitOn_append {c : Char} {l : List Char} (h : c ∉ l) (rest : List Char) :
    splitOn c (l ++ c :: rest) = l :: splitOn c rest := by
  induction l with
  | nil => simp only [List.nil_append, splitOn, if_true]
  | cons d l ih =>
    obtain ⟨hd, hl⟩ := not_or.1 (mt List.mem_cons.2 h)
    simp only [List.cons_append, splitOn, if_neg (Ne.symm hd), ih hl]

theorem notMem_of_mem_splitOn {c : Char} {s piece : List Char} (h : piece ∈ splitOn c s) :
    c ∉ piece := by
  fun_induction splitOn c s generalizing piece with
  | case1 =>
    rw [List.mem_singleton.1 h]
    exact List.not_mem_nil
  | case2 rest ih =>
    rcases List.mem_cons.1 h with rfl | h
    · exact List.not_mem_nil
    · exact ih h
  | case3 d rest hd hnil ih =>
    rw [List.mem_singleton.1 h, List.mem_singleton]
    exact Ne.symm hd
  | case4 d rest hd first pieces hcons ih =>
    rcases List.mem_cons.1 h with rfl | h
    · rw [List.mem_cons, not_or]
      exact ⟨Ne.symm hd, ih (hcons ▸ List.mem_cons_self)⟩
    · exact ih (hcons ▸ List.mem_cons_of_mem _ h)

def dropTail? (tail s : List Char) : Option (List Char) :=
  if tail.isSuffixOf s then some (s.take (s.length - tail.length)) else none

/-- Lines end in a line feed; a carriage return before it belongs to the end of the line, and
nothing after the last line feed is no line. -/
def lines (s : String) : List String :=
  let pieces := splitOn '\n' s.toList
  let ended := pieces.dropLast.map fun l ↦ (dropTail? ['\r'] l).getD l
  let last := pieces.getLastD []
  (ended ++ if last.isEmpty then [] else [last]).map String.ofList

end WikiStream.Text
