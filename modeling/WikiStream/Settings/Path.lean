import WikiStream.Settings.Value
import WikiStream.Text.Blank
import WikiStream.Text.Numeral

namespace WikiStream.Settings

inductive Step
  | key (name : String)
  /-- Places are counted from zero, and negative ones from the end. -/
  | item (place : Int)
  deriving DecidableEq, Repr

structure Path where
  root : String
  steps : List Step := []
  deriving DecidableEq, Repr

namespace Path

def isNameChar (c : Char) : Bool := c.isAlphanum || c = ' ' || c = '_' || c = '-'

def readPlace? (s : List Char) : Option Int :=
  let blank (c : Char) : Bool := c = ' ' || c = '\t'
  let digits := Text.dropTail blank (s.dropWhile blank)
  if digits.head? = some '+' then none
  else (Text.readInteger? digits).filter fun n ↦
    Int64.minValue.toInt ≤ n ∧ n ≤ Int64.maxValue.toInt

def readSteps? : (piece : List Char) → (inside : Bool) → List Char → Option (List Step)
  | name, false, [] => if name = [] then none else some [.key (String.ofList name.reverse)]
  | _, true, [] => none
  | name, false, c :: s =>
    if isNameChar c then readSteps? (c :: name) false s
    else if name = [] then none
    else if c = '.' then (readSteps? [] false s).map (.key (String.ofList name.reverse) :: ·)
    else if c = '[' then (readSteps? [] true s).map (.key (String.ofList name.reverse) :: ·)
    else none
  | digits, true, c :: s =>
    if c = ']' then
      (readPlace? digits.reverse).bind fun place ↦
        match s with
        | [] => some [.item place]
        | '.' :: s => (readSteps? [] false s).map (.item place :: ·)
        | '[' :: s => (readSteps? [] true s).map (.item place :: ·)
        | _ => none
    else readSteps? (c :: digits) true s

def read? (s : String) : Option Path :=
  match readSteps? [] false (Text.lower s).toList with
  | some (.key root :: steps) => some ⟨root, steps⟩
  | _ => none

end Path

namespace Value

/-- The items of a list with room for one at `place`, and where that is. A list that is too short
grows at the end that the place is counted away from. -/
def padded (place : Int) (vs : List Value) : Nat × List Value :=
  if place < 0 then
    (vs.length - place.natAbs, List.replicate (place.natAbs - vs.length) .null ++ vs)
  else (place.toNat, vs ++ List.replicate (place.toNat + 1 - vs.length) .null)

def changeItem (place : Int) (f : Value → Value) (vs : List Value) : List Value :=
  let (n, vs) := padded place vs
  vs.modify n f

/-- Puts `v` where the steps lead. At a key it is laid over what is there, and in a list it takes
the place of the item. -/
def put (v : Value) : Step → List Step → Value → Value
  | .key name, [], below => .table (change name (layOver v) below.entries)
  | .key name, s :: steps, below =>
    .table (change name (fun old ↦ put v s steps (old.getD .null)) below.entries)
  | .item place, [], below => .list (changeItem place (fun _ ↦ v) below.items)
  | .item place, s :: steps, below => .list (changeItem place (put v s steps) below.items)

def putAt (v : Value) (p : Path) (below : Value) : Value := put v (.key p.root) p.steps below

end Value

end WikiStream.Settings
