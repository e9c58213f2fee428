import WikiStream.Settings.Value
import WikiStream.Toml.Moment

namespace WikiStream.Toml

inductive Value
  | bool (value : Bool)
  | integer (value : Int)
  | real (value : Text.Binary64)
  | text (value : String)
  | moment (value : Moment)
  | list (items : List Value)
  | table (entries : List (String × Value))

namespace Value

/-- A table whose first key this is stands for the date or time that it holds as a text. -/
def momentKey : String := "$__toml_private_datetime"

mutual

def plain? : Value → Option Settings.Value
  | bool b => some (.bool b)
  | integer n => some (.integer n)
  | real x => some (.real x)
  | text s => some (.text s)
  | moment m => some (.text (String.ofList m.write))
  | list vs => (allPlain? vs).map .list
  | table [] => some (.table [])
  | table ((key, v) :: es) =>
    if key = momentKey then
      match v with
      | text s => (Moment.read? .quoted s.toList).map fun m ↦ .text (String.ofList m.write)
      | _ => none
    else do
      let v ← plain? v
      return .table ((key, v) :: (← entriesPlain? es))

def allPlain? : List Value → Option (List Settings.Value)
  | [] => some []
  | v :: vs => do
    let v ← plain? v
    return v :: (← allPlain? vs)

def entriesPlain? : List (String × Value) → Option (List (String × Settings.Value))
  | [] => some []
  | (key, v) :: es => do
    let v ← plain? v
    return (key, v) :: (← entriesPlain? es)

end

end Value

end WikiStream.Toml
