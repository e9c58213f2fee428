import WikiStream.Text.Numeral

namespace WikiStream.Json

inductive Number
  | whole (value : Int)
  | real (literal : String)
  deriving DecidableEq, Repr

inductive Value
  | null
  | bool (value : Bool)
  | number (value : Number)
  | string (text : String)
  | array (items : List Value)
  | object (members : List (String × Value))

instance : Inhabited Value := ⟨.null⟩

inductive Fault
  | truncated
  | malformed
  | mismatch
  deriving DecidableEq, Repr

def Fault.message : Fault → String
  | truncated => "the text ends too early"
  | malformed => "the text is not JSON"
  | mismatch => "the JSON has another shape"

/-- What a value that is read is for. -/
inductive Use
  | keep
  /-- The value is passed over, so strings and numbers need not denote anything. -/
  | skip
  deriving DecidableEq, Repr

def isBlank (c : Char) : Bool := c = ' ' || c = '\n' || c = '\t' || c = '\r'

def skipBlanks (s : List Char) : List Char := s.dropWhile isBlank

theorem length_skipBlanks_le (s : List Char) : (skipBlanks s).length ≤ s.length :=
  (List.dropWhile_sublist _).length_le

def faultAt (rest : List Char) : Fault := if rest = [] then .truncated else .malformed

def readLiteral : List Char → List Char → Except Fault (List Char)
  | [], s => .ok s
  | _ :: _, [] => .error .truncated
  | c :: word, d :: s => if c = d then readLiteral word s else .error .malformed

theorem length_of_readLiteral {word s rest : List Char} (h : readLiteral word s = .ok rest) :
    rest.length ≤ s.length := by
  induction word generalizing s with
  | nil => simp_all [readLiteral]
  | cons c word ih =>
    cases s with
    | nil => simp [readLiteral] at h
    | cons d s =>
      simp only [readLiteral] at h
      split at h
      · have := ih h
        simp only [List.length_cons]
        omega
      · simp at h

def hexValue? (a b c d : Char) : Option Nat := Text.readUnsigned? 16 [a, b, c, d]

def isHighSurrogate (n : Nat) : Bool := 0xD800 ≤ n && n ≤ 0xDBFF

def isLowSurrogate (n : Nat) : Bool := 0xDC00 ≤ n && n ≤ 0xDFFF

def pairSurrogates (high low : Nat) : Char :=
  Char.ofNat (0x10000 + (high - 0xD800) * 0x400 + (low - 0xDC00))

/-- The fault of an escape that lacks hexadecimal digits: a text with fewer than four bytes left is
too short. -/
def hexFault (s : List Char) : Fault :=
  if (String.ofList s).utf8ByteSize < 4 then .truncated else .malformed

def simpleEscape? (c : Char) : Option Char :=
  if c = '"' || c = '\\' || c = '/' then some c
  else if c = 'b' then some '\x08'
  else if c = 'f' then some '\x0c'
  else if c = 'n' then some '\n'
  else if c = 'r' then some '\r'
  else if c = 't' then some '\t'
  else none

def push (c : Char) :
    Except Fault (List Char × List Char) → Except Fault (List Char × List Char)
  | .ok (cs, rest) => .ok (c :: cs, rest)
  | .error f => .error f

def readString (use : Use) : List Char → Except Fault (List Char × List Char)
  | [] => .error .truncated
  | '"' :: s => .ok ([], s)
  | '\\' :: 'u' :: a :: b :: c :: d :: s =>
    match hexValue? a b c d with
    | none => .error .malformed
    | some n =>
      if use = .skip then push '\x00' (readString use s)
      else if isLowSurrogate n then .error .malformed
      else if isHighSurrogate n then
        match s with
        | '\\' :: 'u' :: e :: f :: g :: h :: s =>
          match hexValue? e f g h with
          | none => .error .malformed
          | some m =>
            if isLowSurrogate m then push (pairSurrogates n m) (readString use s)
            else .error .malformed
        | '\\' :: 'u' :: s => .error (hexFault s)
        | ['\\'] | [] => .error .truncated
        | _ => .error .malformed
      else push (Char.ofNat n) (readString use s)
  | '\\' :: 'u' :: s => .error (hexFault s)
  | ['\\'] => .error .truncated
  | '\\' :: c :: s =>
    match simpleEscape? c with
    | some c => push c (readString use s)
    | none => .error .malformed
  | c :: s => if c.toNat < 0x20 then .error .malformed else push c (readString use s)

theorem ok_of_push {c : Char} {r : Except Fault (List Char × List Char)} {cs rest : List Char}
    (h : push c r = .ok (cs, rest)) : ∃ cs', r = .ok (cs', rest) := by
  unfold push at h
  split at h
  · simp_all
  · simp at h

theorem length_of_readString {use : Use} {s cs rest : List Char}
    (h : readString use s = .ok (cs, rest)) : rest.length < s.length := by
  fun_induction readString use s generalizing cs <;> try (simp at h; done)
  case case2 => simp_all
  all_goals
    obtain ⟨cs', h'⟩ := ok_of_push h
    rename_i ih
    have := ih h'
    simp only [List.length_cons]
    omega

/-- Rounds to 53 binary digits, to the even neighbour where two are equally near. -/
def roundBinary (n : Nat) : Nat :=
  let drop := n.log2 - 52
  let unit := 1 <<< drop
  let q := n / unit
  let up := 2 * (n % unit) > unit || (2 * (n % unit) = unit && q % 2 = 1)
  (if up then q + 1 else q) * unit

/-- The least number that a binary64 number cannot be rounded to. -/
def binaryLimit : Nat := (1 <<< 1024) - (1 <<< 970)

structure Decimal where
  significand : Nat := 0
  exponent : Int := 0
  full : Bool := false
  deriving DecidableEq, Repr

namespace Decimal

def fits (d : Decimal) (digit : Nat) : Bool :=
  !d.full && d.significand * 10 + digit < UInt64.size

def digit (c : Char) : Nat := c.toNat - '0'.toNat

def pushWhole (d : Decimal) (c : Char) : Decimal :=
  if d.fits (digit c) then { d with significand := d.significand * 10 + digit c }
  else { d with exponent := d.exponent + 1, full := true }

def pushFraction (d : Decimal) (c : Char) : Decimal :=
  if d.fits (digit c) then
    { d with significand := d.significand * 10 + digit c, exponent := d.exponent - 1 }
  else { d with full := true }

def ofDigits (whole fraction : List Char) : Decimal :=
  let d := whole.foldl pushWhole {}
  fraction.foldl pushFraction { d with full := false }

def inRange (d : Decimal) (exponent : Int) : Bool :=
  let e := d.exponent + exponent
  d.significand = 0 || e < 0 ||
    (e ≤ 308 && roundBinary d.significand * roundBinary (Nat.pow 10 e.toNat) < binaryLimit)

end Decimal

structure NumberParts where
  whole : List Char
  fraction : Option (List Char) := none
  exponent : Option (List Char × List Char) := none
  deriving DecidableEq, Repr

namespace NumberParts

def literal (p : NumberParts) : List Char :=
  p.whole ++ (match p.fraction with | some ds => '.' :: ds | none => []) ++
    (match p.exponent with | some (sign, ds) => 'e' :: (sign ++ ds) | none => [])

def exponentValue (p : NumberParts) : Int :=
  match p.exponent with
  | some (['-'], ds) => -((Text.readDigits? 10 0 ds).getD 0 : Nat)
  | some (_, ds) => (Text.readDigits? 10 0 ds).getD 0
  | none => 0

def inRange (p : NumberParts) : Bool :=
  (Decimal.ofDigits p.whole (p.fraction.getD [])).inRange p.exponentValue

/-- Whole numbers within 64 bits are kept as such, but a negative zero is not. -/
def toNumber (negative : Bool) (p : NumberParts) : Number :=
  let n := (Text.readDigits? 10 0 p.whole).getD 0
  let isWhole := p.fraction.isNone && p.exponent.isNone
  if isWhole && !negative && n < UInt64.size then .whole n
  else if isWhole && negative && 0 < n && Int64.minValue.toInt ≤ -n then .whole (-n)
  else .real (String.ofList ((if negative then ['-'] else []) ++ p.literal))

end NumberParts

/-- One or more digits. Where there are none, a value that is kept is truncated at the end of the
text. -/
def readDigits (use : Use) (s : List Char) : Except Fault (List Char × List Char) :=
  let digits := s.takeWhile Char.isDigit
  let rest := s.dropWhile Char.isDigit
  if digits = [] then .error (if use = .keep then faultAt rest else .malformed)
  else .ok (digits, rest)

/-- The digits before the point, which are one zero or do not start with a zero. -/
def readWhole (use : Use) (s : List Char) : Except Fault (List Char × List Char) := do
  let (digits, rest) ← readDigits use s
  match digits with
  | '0' :: _ :: _ => .error .malformed
  | _ => .ok (digits, rest)

def readFraction (use : Use) : List Char → Except Fault (Option (List Char) × List Char)
  | '.' :: s => do
    let (digits, rest) ← readDigits use s
    .ok (some digits, rest)
  | s => .ok (none, s)

def readExponent (use : Use) : List Char → Except Fault (Option (List Char × List Char) × List Char)
  | 'e' :: s | 'E' :: s => do
    let sign := s.take (match s with | '+' :: _ | '-' :: _ => 1 | _ => 0)
    let (digits, rest) ← readDigits use (s.drop sign.length)
    .ok (some (sign, digits), rest)
  | s => .ok (none, s)

/-- Reads a number after its sign. One that is kept must lie in the range of binary64. -/
def readNumber (use : Use) (negative : Bool) (s : List Char) :
    Except Fault (Number × List Char) := do
  let (whole, s) ← readWhole use s
  let (fraction, s) ← readFraction use s
  let (exponent, s) ← readExponent use s
  let parts : NumberParts := ⟨whole, fraction, exponent⟩
  if use = .keep && !parts.inRange then .error .malformed
  else .ok (parts.toNumber negative, s)

theorem length_of_readDigits {use : Use} {s ds rest : List Char}
    (h : readDigits use s = .ok (ds, rest)) : rest.length < s.length := by
  simp only [readDigits] at h
  split at h
  · simp at h
  · simp only [Except.ok.injEq, Prod.mk.injEq] at h
    have e := congrArg List.length (List.takeWhile_append_dropWhile (p := Char.isDigit) (l := s))
    have := List.length_pos_iff.2 ‹¬s.takeWhile Char.isDigit = []›
    rw [List.length_append] at e
    rw [← h.2]
    omega

theorem length_of_readWhole {use : Use} {s ds rest : List Char}
    (h : readWhole use s = .ok (ds, rest)) : rest.length < s.length := by
  cases hd : readDigits use s with
  | error f => simp [readWhole, hd, bind, Except.bind] at h
  | ok p =>
    have := length_of_readDigits hd
    simp only [readWhole, hd, bind, Except.bind] at h
    split at h <;> simp_all

theorem length_of_readFraction {use : Use} {s rest : List Char} {ds : Option (List Char)}
    (h : readFraction use s = .ok (ds, rest)) : rest.length ≤ s.length := by
  unfold readFraction at h
  split at h
  · rename_i s
    cases hd : readDigits use s with
    | error f => simp [hd, bind, Except.bind] at h
    | ok p =>
      have := length_of_readDigits hd
      simp_all [bind, Except.bind]
      omega
  · simp_all

theorem length_of_readExponent {use : Use} {s rest : List Char}
    {e : Option (List Char × List Char)} (h : readExponent use s = .ok (e, rest)) :
    rest.length ≤ s.length := by
  unfold readExponent at h
  split at h
  case h_3 => simp_all
  all_goals
    rename_i s
    simp only at h
    split at h
    all_goals
      generalize hs : List.drop _ _ = t at h
      cases hd : readDigits use t with
      | error f => simp [hd, bind, Except.bind] at h
      | ok p =>
        have := length_of_readDigits hd
        have := congrArg List.length hs
        simp_all [bind, Except.bind]
        omega

theorem length_of_readNumber {use : Use} {negative : Bool} {s rest : List Char} {n : Number}
    (h : readNumber use negative s = .ok (n, rest)) : rest.length < s.length := by
  cases hw : readWhole use s with
  | error f => simp [readNumber, hw, bind, Except.bind] at h
  | ok w =>
    cases hf : readFraction use w.2 with
    | error f => simp [readNumber, hw, hf, bind, Except.bind] at h
    | ok f =>
      cases he : readExponent use f.2 with
      | error f => simp [readNumber, hw, hf, he, bind, Except.bind] at h
      | ok e =>
        have := length_of_readWhole hw
        have := length_of_readFraction hf
        have := length_of_readExponent he
        simp only [readNumber, hw, hf, he, bind, Except.bind] at h
        split at h
        · simp at h
        · simp only [Except.ok.injEq, Prod.mk.injEq] at h
          rw [← h.2]
          omega

end WikiStream.Json
