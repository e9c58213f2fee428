import WikiStream.Text.Numeral

namespace WikiStream.Toml

open Text (Shorter)

abbrev Reader (α : Type) := (s : List Char) → Option (α × Shorter s)

def unifyLines : List Char → List Char
  | '\r' :: '\n' :: s => '\n' :: unifyLines s
  | c :: s => c :: unifyLines s
  | [] => []

def isPlain (c : Char) : Bool := c = '\t' || (0x20 ≤ c.toNat && c ≠ '\x7f')

def isBlank (c : Char) : Bool := c = ' ' || c = '\t'

structure Skip where
  skip : List Char → List Char
  length_skip_le (s : List Char) : (skip s).length ≤ s.length

def blanks : Skip := ⟨List.dropWhile isBlank, fun _ ↦ (List.dropWhile_sublist _).length_le⟩

/-- Skips blanks, ends of lines and comments; stops at what must not stand in a comment. -/
def skipGaps : (comment : Bool) → List Char → List Char
  | _, [] => []
  | comment, c :: s =>
    if c = '\n' then skipGaps false s
    else if comment then if isPlain c then skipGaps true s else c :: s
    else if isBlank c then skipGaps false s
    else if c = '#' then skipGaps true s
    else c :: s

theorem length_skipGaps_le (comment : Bool) (s : List Char) :
    (skipGaps comment s).length ≤ s.length := by
  fun_induction skipGaps comment s <;> grind

def gaps : Skip := ⟨skipGaps false, length_skipGaps_le false⟩

def letter? (c : Char) : Option Char :=
  if c = '"' || c = '\\' then some c
  else if c = 'b' then some '\x08'
  else if c = 'f' then some '\x0c'
  else if c = 'n' then some '\n'
  else if c = 'r' then some '\r'
  else if c = 't' then some '\t'
  else none

def codePoint? (digits : Nat) (s : List Char) : Option Char :=
  if s.length < digits then none
  else ((Text.readUnsigned? 16 (s.take digits)).filter Nat.isValidChar).map Char.ofNat

def escape? : List Char → Option (Char × Nat)
  | 'u' :: s => (codePoint? 4 s).map (·, 5)
  | 'U' :: s => (codePoint? 8 s).map (·, 9)
  | c :: _ => (letter? c).map (·, 1)
  | [] => none

inductive Passing
  | nothing
  | gap
  | escape (length : Nat)

def push (c : Char) : Option (List Char × List Char) → Option (List Char × List Char) :=
  Option.map fun p ↦ (c :: p.1, p.2)

/-- Up to two quotes may stand before the three that close a text of several lines. -/
def closing (quote : Char) (s : List Char) : List Char × List Char :=
  let extra := (s.takeWhile (· = quote)).take 2
  (extra, s.drop extra.length)

/-- Reads a text after what opens it. Only double quotes know escapes; a backslash at the end of a
line passes over the blanks and ends of lines after it. -/
def readQuoted (quote : Char) (multi : Bool) :
    Passing → List Char → Option (List Char × List Char)
  | _, [] => none
  | .escape (n + 1), _ :: s => readQuoted quote multi (.escape n) s
  | passing, c :: s =>
    if passing matches .gap && (isBlank c || c = '\n') then readQuoted quote multi .gap s
    else if c = quote then
      if !multi then some ([], s)
      else if s.take 2 = [quote, quote] then some (closing quote (s.drop 2))
      else push c (readQuoted quote multi .nothing s)
    else if c = '\\' && quote = '"' then
      match escape? s with
      | some (x, n) => push x (readQuoted quote multi (.escape n) s)
      | none =>
        if multi && (blanks.skip s).head? = some '\n' then readQuoted quote multi .gap s else none
    else if isPlain c || (multi && c = '\n') then push c (readQuoted quote multi .nothing s)
    else none

theorem some_of_push {c : Char} {r : Option (List Char × List Char)} {cs rest : List Char}
    (h : push c r = some (cs, rest)) : ∃ cs', r = some (cs', rest) := by
  simp only [push, Option.map_eq_some_iff, Prod.mk.injEq] at h
  obtain ⟨p, hp, _, rfl⟩ := h
  exact ⟨p.1, hp⟩

theorem length_closing_le (quote : Char) (s : List Char) :
    (closing quote s).2.length ≤ s.length := by
  simp [closing]

theorem length_of_readQuoted {quote : Char} {multi : Bool} {passing : Passing}
    {s cs rest : List Char} (h : readQuoted quote multi passing s = some (cs, rest)) :
    rest.length < s.length := by
  fun_induction readQuoted quote multi passing s generalizing cs <;> try (simp at h; done)
  case case4 => simp_all
  case case5 s _ _ _ _ =>
    simp only [Option.some.injEq, Prod.ext_iff] at h
    have := length_closing_le quote (s.drop 2)
    rw [← h.2, List.length_cons]
    grind
  case case2 | case3 | case8 =>
    rename_i ih
    exact Nat.lt_succ_of_lt (ih h)
  all_goals
    obtain ⟨cs', h'⟩ := some_of_push h
    rename_i ih
    exact Nat.lt_succ_of_lt (ih h')

end WikiStream.Toml
