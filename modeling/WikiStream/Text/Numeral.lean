namespace WikiStream.Text

abbrev Shorter (s : List Char) := { r : List Char // r.length < s.length }

theorem length_lt_trans {r s t u : List Char} (hu : u.length < t.length)
    (ht : t.length < r.length) (hr : r.length ≤ s.length) : u.length < s.length :=
  Nat.lt_trans hu (Nat.lt_of_lt_of_le ht hr)

/-- The value of a digit; letters count from ten in either case. -/
def digitValue? (c : Char) : Option Nat :=
  if c.isDigit then some (c.toNat - '0'.toNat)
  else if c.isLower then some (c.toNat - 'a'.toNat + 10)
  else if c.isUpper then some (c.toNat - 'A'.toNat + 10)
  else none

def digitOf? (base : Nat) (c : Char) : Option Nat := (digitValue? c).filter (· < base)

def readDigits? (base : Nat) : (value : Nat) → List Char → Option Nat
  | value, [] => some value
  | value, c :: rest => (digitOf? base c).bind fun d ↦ readDigits? base (value * base + d) rest

def readUnsigned? (base : Nat) (s : List Char) : Option Nat :=
  if s = [] then none else readDigits? base 0 s

def readNatural? (base : Nat) : List Char → Option Nat
  | '+' :: s => readUnsigned? base s
  | s => readUnsigned? base s

def readInteger? : List Char → Option Int
  | '-' :: s => (readUnsigned? 10 s).map fun n ↦ -(n : Int)
  | s => (readNatural? 10 s).map Int.ofNat

def decimal (n : Nat) : List Char := Nat.toDigits 10 n

def decimalInt : Int → List Char
  | .ofNat n => decimal n
  | .negSucc n => '-' :: decimal (n + 1)

end WikiStream.Text
