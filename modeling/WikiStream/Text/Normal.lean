import WikiStream.Text.Blank
import WikiStream.Text.Numeral

namespace WikiStream.Text.Entity

def named : List (String × Char) := [
  ("amp", '&'), ("lt", '<'), ("gt", '>'), ("quot", '"'), ("apos", '\''), ("nbsp", '\u00A0'),
  ("shy", '\u00AD'), ("copy", '©'), ("reg", '®'), ("trade", '™'), ("deg", '°'), ("plusmn", '±'),
  ("times", '×'), ("divide", '÷'), ("micro", 'µ'), ("middot", '·'), ("sect", '§'), ("para", '¶'),
  ("cent", '¢'), ("pound", '£'), ("yen", '¥'), ("euro", '€'), ("iexcl", '¡'), ("iquest", '¿'),
  ("laquo", '«'), ("raquo", '»'), ("lsquo", '\u2018'), ("rsquo", '\u2019'), ("sbquo", '\u201A'),
  ("ldquo", '\u201C'), ("rdquo", '\u201D'), ("bdquo", '\u201E'), ("ndash", '–'), ("mdash", '—'),
  ("hellip", '…'), ("bull", '•'), ("prime", '′'), ("larr", '←'), ("rarr", '→'), ("uarr", '↑'),
  ("darr", '↓'), ("harr", '↔'), ("ne", '≠'), ("le", '≤'), ("ge", '≥'), ("infin", '∞'),
  ("frac12", '½'), ("frac14", '¼'), ("frac34", '¾'), ("sup2", '²'), ("sup3", '³'),
  ("Agrave", 'À'), ("Aacute", 'Á'), ("Auml", 'Ä'), ("Ccedil", 'Ç'), ("Eacute", 'É'),
  ("Ouml", 'Ö'), ("Uuml", 'Ü'), ("szlig", 'ß'), ("agrave", 'à'), ("aacute", 'á'), ("acirc", 'â'),
  ("auml", 'ä'), ("aring", 'å'), ("ccedil", 'ç'), ("egrave", 'è'), ("eacute", 'é'),
  ("ecirc", 'ê'), ("euml", 'ë'), ("iacute", 'í'), ("icirc", 'î'), ("iuml", 'ï'), ("ntilde", 'ñ'),
  ("oacute", 'ó'), ("ocirc", 'ô'), ("ouml", 'ö'), ("oslash", 'ø'), ("uacute", 'ú'),
  ("ucirc", 'û'), ("uuml", 'ü'), ("alpha", 'α'), ("beta", 'β'), ("gamma", 'γ'), ("delta", 'δ'),
  ("pi", 'π'), ("sigma", 'σ'), ("omega", 'ω')]

def ofName? (name : List Char) : Option Char := named.lookup (String.ofList name)

def ofCodePoint? (n : Nat) : Option Char :=
  if n ≠ 0 ∧ n.isValidChar then some (Char.ofNat n) else none

def ofDigits? (base most : Nat) (digits : List Char) : Option Char :=
  if digits.length ≤ most then (readNatural? base digits).bind ofCodePoint? else none

/-- The character that a reference stands for, and what follows it; the ampersand has been read. A
number has up to seven decimal or six hexadecimal digits, a name up to eight letters. -/
def read? : List Char → Option (Char × List Char)
  | '#' :: 'x' :: s | '#' :: 'X' :: s =>
    (splitAt? ';' s).bind fun (digits, rest) ↦ (ofDigits? 16 6 digits).map (·, rest)
  | '#' :: s => (splitAt? ';' s).bind fun (digits, rest) ↦ (ofDigits? 10 7 digits).map (·, rest)
  | s => (splitAt? ';' s).bind fun (name, rest) ↦ (ofName? name).map (·, rest)

theorem length_of_splitAt? {c : Char} {s a b : List Char} (h : splitAt? c s = some (a, b)) :
    b.length < s.length := by
  obtain ⟨rfl, -⟩ := splitAt?_eq_some_iff.1 h
  rw [List.length_append, List.length_cons]
  omega

theorem length_of_read? {s rest : List Char} {c : Char} (h : read? s = some (c, rest)) :
    rest.length < s.length := by
  unfold read? at h
  split at h <;>
  · obtain ⟨⟨a, b⟩, h', e⟩ := Option.bind_eq_some_iff.1 h
    obtain ⟨d, -, e⟩ := Option.map_eq_some_iff.1 e
    have := length_of_splitAt? h'
    simp_all <;> omega

def decodeChars : List Char → List Char
  | [] => []
  | c :: s =>
    if c = '&' then
      match h : read? s with
      | some (d, rest) =>
        have := length_of_read? h
        d :: decodeChars rest
      | none => '&' :: decodeChars s
    else c :: decodeChars s
termination_by s => s.length

def decode (s : String) : String := String.ofList (decodeChars s.toList)

end WikiStream.Text.Entity

namespace WikiStream.Text

def isGap (c : Char) : Bool := c = ' ' || c = '\t'

/-- Each run of tabs and spaces becomes one space; `inGap` says that one is being read. -/
def collapseFrom (inGap : Bool) : List Char → List Char
  | [] => []
  | c :: rest =>
    if isGap c then
      if inGap then collapseFrom true rest else ' ' :: collapseFrom true rest
    else c :: collapseFrom false rest

def collapse (s : String) : String := String.ofList (collapseFrom false s.toList)

def breakSpaces (s : String) : String :=
  String.ofList (s.toList.map fun c ↦ if c = nonBreakingSpace then ' ' else c)

def normalize (s : String) : String := breakSpaces (Entity.decode (collapse s))

end WikiStream.Text
