import WikiStream.Dict
import WikiStream.Text.Binary64
import WikiStream.Text.Case

namespace WikiStream.Settings

inductive Value
  | null
  | bool (value : Bool)
  | integer (value : Int)
  | real (value : Text.Binary64)
  | text (value : String)
  | list (items : List Value)
  | table (entries : List (String × Value))

namespace Value

instance : Inhabited Value := ⟨.null⟩

-- The lists inside of values keep the comparison from being derived.
mutual

def same : Value → Value → Bool
  | null, null => true
  | bool a, bool b => a = b
  | integer m, integer n => m = n
  | real x, real y => x = y
  | text s, text s' => s = s'
  | list vs, list ws => sameItems vs ws
  | table es, table fs => sameEntries es fs
  | _, _ => false

def sameItems : List Value → List Value → Bool
  | [], [] => true
  | v :: vs, w :: ws => same v w && sameItems vs ws
  | _, _ => false

def sameEntries : List (String × Value) → List (String × Value) → Bool
  | [], [] => true
  | (k, v) :: es, (l, w) :: fs => k = l && same v w && sameEntries es fs
  | _, _ => false

end

mutual

theorem same_iff (v w : Value) : same v w = true ↔ v = w := by
  cases v <;> cases w <;> simp [same, sameItems_iff, sameEntries_iff]

theorem sameItems_iff (vs ws : List Value) : sameItems vs ws = true ↔ vs = ws := by
  cases vs <;> cases ws <;> simp [sameItems, same_iff, sameItems_iff]

theorem sameEntries_iff (es fs : List (String × Value)) :
    sameEntries es fs = true ↔ es = fs := by
  match es, fs with
  | [], [] | [], _ :: _ | _ :: _, [] => simp [sameEntries]
  | (k, v) :: es, (l, w) :: fs => simp [sameEntries, same_iff v w, sameEntries_iff es fs]

end

instance : DecidableEq Value := fun v w ↦ decidable_of_iff _ (same_iff v w)

def entries : Value → List (String × Value)
  | table es => es
  | _ => []

def items : Value → List Value
  | list vs => vs
  | _ => []

def truthWord? (s : String) : Option Bool :=
  let word := Text.lower s
  if word = "true" || word = "on" || word = "yes" then some true
  else if word = "false" || word = "off" || word = "no" then some false
  else none

def bool? : Value → Option Bool
  | bool b => some b
  | integer n => some (n ≠ 0)
  | real x => some !x.isZero
  | text s => if s = "1" then some true else if s = "0" then some false else truthWord? s
  | _ => none

def count? : Value → Option UInt64
  | bool b => some (if b then 1 else 0)
  | integer n => if 0 ≤ n ∧ n.toNat < UInt64.size then some (.ofNat n.toNat) else none
  | real x => some x.toUInt64
  | text s =>
    match truthWord? s with
    | some b => some (if b then 1 else 0)
    | none => ((Text.readNatural? 10 s.toList).filter (· < UInt64.size)).map .ofNat
  | _ => none

def text? : Value → Option String
  | bool b => some (if b then "true" else "false")
  | integer n => some (String.ofList (Text.decimalInt n))
  | real x => some (String.ofList x.write)
  | text s => some s
  | _ => none

def texts? : Value → Option (List String)
  | list vs => vs.mapM text?
  | _ => none

/-- The fields of a record, which is a table or a list of its fields in order. -/
def fields? (names : List String) : Value → Option (List (String × Value))
  | table es => some es
  | list vs => some (names.zip vs)
  | _ => none

def change (key : String) (f : Option Value → Value) (es : List (String × Value)) :
    List (String × Value) :=
  Dict.put (Text.lower key) (f (es.lookup (Text.lower key))) es

mutual

/-- A table without entries leaves what was there as it was. -/
def layOver : Value → Option Value → Value
  | .table [], below => below.getD (.table [])
  | .table (e :: es), below => .table (layAll (e :: es) ((below.map entries).getD []))
  | v, _ => v

def layAll : List (String × Value) → List (String × Value) → List (String × Value)
  | [], below => below
  | (key, v) :: rest, below => layAll rest (change key (layOver v) below)

end

end Value

end WikiStream.Settings
