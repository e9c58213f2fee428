import WikiStream.Json.Lexical

namespace WikiStream.Json

abbrev Part (v : Value) := { w : Value // sizeOf w < sizeOf v }

inductive Fields (v : Value)
  | named (members : List (String × Part v))
  | ordered (items : List (Part v))

namespace Value

theorem sizeOf_lt_of_mem_items {v : Value} {vs : List Value} (h : v ∈ vs) :
    sizeOf v < sizeOf (array vs) := by
  have := List.sizeOf_lt_of_mem h
  simp only [array.sizeOf_spec]
  omega

theorem sizeOf_lt_of_mem_members {p : String × Value} {ms : List (String × Value)} (h : p ∈ ms) :
    sizeOf p.2 < sizeOf (object ms) := by
  have := List.sizeOf_lt_of_mem h
  cases p
  simp only [object.sizeOf_spec, Prod.mk.sizeOf_spec] at this ⊢
  omega

def items? : (v : Value) → Option (List (Part v))
  | array vs => some (vs.attach.map fun ⟨w, h⟩ ↦ ⟨w, sizeOf_lt_of_mem_items h⟩)
  | _ => none

def fields? : (v : Value) → Option (Fields v)
  | array vs => some (.ordered (vs.attach.map fun ⟨w, h⟩ ↦ ⟨w, sizeOf_lt_of_mem_items h⟩))
  | object ms => some (.named (ms.attach.map fun ⟨p, h⟩ ↦ (p.1, ⟨p.2, sizeOf_lt_of_mem_members h⟩)))
  | _ => none

def variant? : (v : Value) → Option (String × Option (Part v))
  | string name => some (name, none)
  | object [p] => some (p.1, some ⟨p.2, sizeOf_lt_of_mem_members (List.mem_singleton_self p)⟩)
  | _ => none

def string? : Value → Option String
  | string s => some s
  | _ => none

def bool? : Value → Option Bool
  | bool b => some b
  | _ => none

def optional? {α : Type} (read : Value → Option α) : Value → Option (Option α)
  | null => some none
  | v => (read v).map some

def char? (v : Value) : Option Char :=
  match v.string?.map String.toList with
  | some [c] => some c
  | _ => none

/-- A name without a value, which may be written as a null or an empty object. -/
def isEmpty : Value → Bool
  | null | object [] => true
  | _ => false

end Value

namespace Fields

variable {v : Value}

/-- The value of each of the fields that are named, if no field stands twice and there are not too
many of them. -/
def lookup? (names : List String) : Fields v → Option (String → Option (Part v))
  | named ms =>
    if ((ms.map Prod.fst).filter (· ∈ names)).Nodup then some fun name ↦ ms.lookup name else none
  | ordered vs =>
    if vs.length ≤ names.length then some fun name ↦ (names.zip vs).lookup name else none

/-- Splits off the field that says what the record is: the one member `type`, or the first item. -/
def split? {τ : Type} (read : Value → Option τ) : Fields v → Option (τ × Fields v)
  | named ms =>
    match ms.partition fun p ↦ p.1 = "type" with
    | ([(_, w)], rest) => (read w.1).map (·, named rest)
    | _ => none
  | ordered [] => none
  | ordered (w :: ws) => (read w.1).map (·, ordered ws)

end Fields

def required? {v : Value} {α : Type} (read : Value → Option α) (field : Option (Part v)) :
    Option α :=
  field.bind fun w ↦ read w.1

def defaulted? {v : Value} {α : Type} (default : α) (read : Value → Option α)
    (field : Option (Part v)) : Option α :=
  match field with
  | none => some default
  | some w => read w.1

end WikiStream.Json
