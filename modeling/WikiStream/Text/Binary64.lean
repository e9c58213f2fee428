import WikiStream.Text.Numeral

namespace WikiStream.Text

inductive Binary64
  | finite (negative : Bool) (significand : Nat) (exponent : Int)
  | infinite (negative : Bool)
  | undefined
  deriving DecidableEq, Repr

namespace Binary64

def divideToEven (a b : Nat) : Nat :=
  let q := a / b
  let r := a % b
  if 2 * r > b || (2 * r = b && q % 2 = 1) then q + 1 else q

def leastExponent : Int := -1074

def greatestExponent : Int := 971

/-- The quotient `a / b` as a significand below `2 ^ 53` and an exponent that is not below the least
one. -/
def scale (a b : Nat) : Nat × Int :=
  let near : Int := (a.log2 : Int) - b.log2 - 52
  let below := a <<< (-near).toNat < b <<< (near.toNat + 52)
  let e := max leastExponent (if below then near - 1 else near)
  let m := divideToEven (a <<< (-e).toNat) (b <<< e.toNat)
  if m = 1 <<< 53 then (1 <<< 52, e + 1) else (m, e)

/-- The number next to `digits * 10 ^ exponent`. -/
def ofDecimal (negative : Bool) (digits : Nat) (exponent : Int) : Binary64 :=
  let lead := exponent + (decimal digits).length
  if digits = 0 || lead < -330 then .finite negative 0 leastExponent
  else if lead > 310 then .infinite negative
  else
    let (m, e) := scale (digits * Nat.pow 10 exponent.toNat) (Nat.pow 10 (-exponent).toNat)
    if e > greatestExponent then .infinite negative else .finite negative m e

def isZero : Binary64 → Bool
  | finite _ m _ => m = 0
  | _ => false

def readsBack (m : Nat) (e : Int) (d : Nat) (k : Int) : Bool :=
  let gap := if m = 1 <<< 52 && e > leastExponent then 1 else 2
  let x := (4 * d * Nat.pow 10 k.toNat) <<< (-e).toNat
  let unit := Nat.pow 10 (-k).toNat <<< e.toNat
  let low := (4 * m - gap) * unit
  let high := (4 * m + 2) * unit
  if m % 2 = 0 then low ≤ x && x ≤ high else low < x && x < high

/-- The neighbours of `m * 2 ^ e` among the multiples of `10 ^ k`; the nearer one of those that read
back, and the greater one if both are equally near. -/
def nearest? (m : Nat) (e k : Int) : Option Nat :=
  let a := (m * Nat.pow 10 (-k).toNat) <<< e.toNat
  let b := Nat.pow 10 k.toNat <<< (-e).toNat
  let d := a / b
  let low := readsBack m e d k
  let high := readsBack m e (d + 1) k
  if low && (!high || 2 * (a % b) < b) then some d
  else if high then some (d + 1)
  else none

/-- Tries ever finer multiples, and gives the exact value if none of them reads back. -/
def shortest (m : Nat) (e : Int) : (tries : Nat) → (k : Int) → Nat × Int
  | 0, _ => ((m * Nat.pow 5 (-e).toNat) <<< e.toNat, min e 0)
  | tries + 1, k =>
    match nearest? m e k with
    | some d => (d, k)
    | none => shortest m e tries (k - 1)

def magnitude (m : Nat) (e : Int) : Int :=
  let whole := m <<< e.toNat >>> (-e).toNat
  if whole = 0 then 2 - ((decimal (1 <<< (-e).toNat / m)).length : Int) else (decimal whole).length

def positional (digits : Nat) (exponent : Int) : List Char :=
  let places := (-exponent).toNat
  let ds := decimal digits
  if places = 0 then ds ++ List.replicate exponent.toNat '0'
  else
    let ds := List.replicate (places + 1 - ds.length) '0' ++ ds
    ds.take (ds.length - places) ++ '.' :: ds.drop (ds.length - places)

def signed (negative : Bool) (s : List Char) : List Char := if negative then '-' :: s else s

def write : Binary64 → List Char
  | finite negative m e =>
    if m = 0 then signed negative ['0']
    else
      let (d, k) := shortest m e 20 (magnitude m e)
      signed negative (positional d k)
  | infinite negative => signed negative "inf".toList
  | undefined => "NaN".toList

/-- The nearest whole number that is not negative and fits into 64 bits; halves go up. -/
def toUInt64 : Binary64 → UInt64
  | finite false m e =>
    let b := 1 <<< (-e).toNat
    .ofNat (min (UInt64.size - 1) ((2 * m <<< e.toNat + b) / (2 * b)))
  | infinite false => .ofNat (UInt64.size - 1)
  | _ => 0

end Binary64

end WikiStream.Text
