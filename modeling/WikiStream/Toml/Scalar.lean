import WikiStream.Toml.Value

namespace WikiStream.Toml

open Text (Binary64)

/-- The digits of a number, between which single underscores may stand. -/
def digits? (isDigit : Char → Bool) (s : List Char) : Option (List Char) :=
  let pieces := Text.splitOn '_' s
  if pieces.all fun p ↦ p ≠ [] && p.all isDigit then some pieces.flatten else none

def whole? (s : List Char) : Option (List Char) :=
  (digits? Char.isDigit s).filter fun ds ↦ ds = ['0'] || ds.head? ≠ some '0'

def toNat (base : Nat) (ds : List Char) : Nat := (Text.readDigits? base 0 ds).getD 0

def integer? (n : Int) : Option Value :=
  if Int64.minValue.toInt ≤ n ∧ n ≤ Int64.maxValue.toInt then some (.integer n) else none

def based? (base : Nat) (s : List Char) : Option Value :=
  (digits? (fun c ↦ (Text.digitOf? base c).isSome) s).bind fun ds ↦ integer? (toNat base ds)

def splitSign : List Char → Bool × List Char
  | '-' :: s => (true, s)
  | '+' :: s => (false, s)
  | s => (false, s)

def exponent? (s : List Char) : Option Int :=
  let (negative, s) := splitSign s
  (digits? Char.isDigit s).map fun ds ↦ if negative then -(toNat 10 ds : Int) else toNat 10 ds

/-- A number with a point or an exponent. Only below zero may it be too great to have a finite
value. -/
def real? (negative : Bool) (s : List Char) : Option Value := do
  let (mantissa, exponent) ← match Text.splitAt? 'e' (s.map fun c ↦ if c = 'E' then 'e' else c) with
    | some (m, e) => do pure (m, ← exponent? e)
    | none => some (s, 0)
  let (whole, fraction) ← match Text.splitAt? '.' mantissa with
    | some (w, f) => do pure (← whole? w, ← digits? Char.isDigit f)
    | none => do pure (← whole? mantissa, [])
  match Binary64.ofDecimal negative (toNat 10 (whole ++ fraction)) (exponent - fraction.length) with
  | .infinite false => none
  | x => some (.real x)

def number? (s : List Char) : Option Value :=
  match s with
  | '0' :: 'x' :: s => based? 16 s
  | '0' :: 'o' :: s => based? 8 s
  | '0' :: 'b' :: s => based? 2 s
  | _ =>
    let (negative, s) := splitSign s
    if s = "inf".toList then some (.real (.infinite negative))
    else if s = "nan".toList then some (.real .undefined)
    else match whole? s with
      | some ds => integer? (if negative then -(toNat 10 ds : Int) else toNat 10 ds)
      | none => real? negative s

def scalar? (s : List Char) : Option Value :=
  if s = "true".toList then some (.bool true)
  else if s = "false".toList then some (.bool false)
  else match Moment.read? .bare s with
    | some m => some (.moment m)
    | none => number? s

end WikiStream.Toml
