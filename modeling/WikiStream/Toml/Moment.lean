import WikiStream.Text.Blank
import WikiStream.Text.Numeral

namespace WikiStream.Toml

structure Date where
  year : Nat
  month : Nat
  day : Nat
  deriving DecidableEq, Repr

structure Time where
  hour : Nat
  minute : Nat
  second : Nat
  nanosecond : Nat
  deriving DecidableEq, Repr

inductive Offset
  | none
  | universal
  | ahead (minutes : Int)
  deriving DecidableEq, Repr

/-- Only a date and a time together have an offset. -/
inductive Moment
  | date (date : Date)
  | time (time : Time)
  | both (date : Date) (time : Time) (offset : Offset)
  deriving DecidableEq, Repr

def writePadded (width n : Nat) : List Char :=
  let digits := Text.decimal n
  List.replicate (width - digits.length) '0' ++ digits

def Date.write (d : Date) : List Char :=
  writePadded 4 d.year ++ '-' :: writePadded 2 d.month ++ '-' :: writePadded 2 d.day

/-- Zeros at the end of the fraction of a second are left out, and so is a fraction of nothing. -/
def Time.write (t : Time) : List Char :=
  writePadded 2 t.hour ++ ':' :: writePadded 2 t.minute ++ ':' :: writePadded 2 t.second ++
    if t.nanosecond = 0 then []
    else '.' :: Text.dropTail (· = '0') (writePadded 9 t.nanosecond)

def Offset.write : Offset → List Char
  | none => []
  | universal => ['Z']
  | ahead n =>
    (if n < 0 then '-' else '+') :: writePadded 2 (n.natAbs / 60) ++
      ':' :: writePadded 2 (n.natAbs % 60)

def Moment.write : Moment → List Char
  | date d => d.write
  | time t => t.write
  | both d t offset => d.write ++ 'T' :: t.write ++ offset.write

structure Limits where
  lastHour : Nat
  allowsOffset : (hours minutes : Nat) → Bool

def Limits.bare : Limits := ⟨23, fun hours minutes ↦ hours ≤ 23 && minutes ≤ 59⟩

/-- For moments in texts, which may lie at the end of a day and a whole day off. -/
def Limits.quoted : Limits := ⟨24, fun hours minutes ↦ hours * 60 + minutes ≤ 24 * 60⟩

def readFixed? (width : Nat) (s : List Char) : Option (Nat × List Char) :=
  if s.length < width then none
  else (Text.readUnsigned? 10 (s.take width)).map (·, s.drop width)

def readMark? (mark : Char) : List Char → Option (List Char)
  | [] => none
  | c :: s => if c = mark then some s else none

def isLeap (year : Nat) : Bool := year % 4 = 0 && (year % 100 ≠ 0 || year % 400 = 0)

def daysIn (year month : Nat) : Nat :=
  if month = 2 then if isLeap year then 29 else 28
  else if month = 4 || month = 6 || month = 9 || month = 11 then 30
  else 31

def Date.read? (s : List Char) : Option (Date × List Char) := do
  let (year, s) ← readFixed? 4 s
  let (month, s) ← readFixed? 2 (← readMark? '-' s)
  let (day, s) ← readFixed? 2 (← readMark? '-' s)
  if 1 ≤ month ∧ month ≤ 12 ∧ 1 ≤ day ∧ day ≤ daysIn year month then
    some (⟨year, month, day⟩, s)
  else none

def readNanosecond? : List Char → Option (Nat × List Char)
  | '.' :: s =>
    let digits := s.takeWhile Char.isDigit
    if digits = [] then none
    else
      let kept := digits.take 9 ++ List.replicate (9 - digits.length) '0'
      (Text.readUnsigned? 10 kept).map (·, s.drop digits.length)
  | s => some (0, s)

/-- A time of the day, such as `07:32:00`, and what follows it. A minute may have a leap second. -/
def Time.read? (limits : Limits) (s : List Char) : Option (Time × List Char) := do
  let (hour, s) ← readFixed? 2 s
  let (minute, s) ← readFixed? 2 (← readMark? ':' s)
  let (second, s) ← readFixed? 2 (← readMark? ':' s)
  let (nanosecond, s) ← readNanosecond? s
  if hour ≤ limits.lastHour ∧ minute ≤ 59 ∧ second ≤ 60 then
    some (⟨hour, minute, second, nanosecond⟩, s)
  else none

def Offset.read? (limits : Limits) : List Char → Option Offset
  | [] => some .none
  | ['Z'] | ['z'] => some .universal
  | sign :: s => do
    let (hours, s) ← readFixed? 2 s
    let (minutes, s) ← readFixed? 2 (← readMark? ':' s)
    let count : Int := hours * 60 + minutes
    if s ≠ [] || !limits.allowsOffset hours minutes then failure
    else if sign = '+' then some (.ahead count)
    else if sign = '-' then some (.ahead (-count))
    else failure

def Moment.read? (limits : Limits) (s : List Char) : Option Moment :=
  match Date.read? s with
  | some (d, []) => some (.date d)
  | some (d, c :: s) =>
    if c = 'T' || c = 't' || c = ' ' then do
      let (t, s) ← Time.read? limits s
      return .both d t (← Offset.read? limits s)
    else none
  | none =>
    match Time.read? limits s with
    | some (t, []) => some (.time t)
    | _ => none

end WikiStream.Toml
