import WikiStream.Json.Stream

namespace WikiStream.Json

open Text (Shorter)

/-- The fault of a text that holds another value than the one that is asked for. A value that is no
array and no object is read first, and its own faults win. -/
def faultOfShape (s : List Char) : Fault :=
  match skipBlanks s with
  | [] => .truncated
  | c :: r =>
    if c = '[' || c = '\x7b' then .mismatch
    else match scalarAt .keep c r (Nat.le_refl _) with
      | .ok _ => .mismatch
      | .error f => f

namespace Reader

variable {α β σ κ : Type}

def accept (read : Reader α) (f : α → Option β) : Reader β := fun s ↦
  match read s with
  | .error e => .error e
  | .ok (a, t) =>
    match f a with
    | some b => .ok (b, t)
    | none => .error .mismatch

def map (f : α → β) (read : Reader α) : Reader β := read.accept fun a ↦ some (f a)

def any : Reader Value := value .keep

def ignored : Reader Unit := map (fun _ ↦ ()) (value .skip)

def scalar : Reader Value := fun s ↦
  match h : skipBlanks s with
  | [] => .error .truncated
  | c :: r =>
    if c = '[' || c = '\x7b' then .error .mismatch
    else scalarAt .keep c r (length_lt_of_skipBlanks h)

def string : Reader String := scalar.accept fun
  | .string text => some text
  | _ => none

def optionalString : Reader (Option String) := scalar.accept fun
  | .null => some none
  | .string text => some (some text)
  | _ => none

def boolean : Reader Bool := scalar.accept fun
  | .bool b => some b
  | _ => none

def integer (low high : Int) : Reader Int := scalar.accept fun
  | .number (.whole n) => if low ≤ n ∧ n ≤ high then some n else none
  | _ => none

def null : Reader Unit := scalar.accept fun
  | .null => some ()
  | _ => none

def itemsOf (item : Reader α) (first : Bool) (s : List Char) :
    Except Fault (List α × Shorter s) :=
  match nextItem first s with
  | .error f => .error f
  | .ok (.done rest) => .ok ([], rest)
  | .ok (.more ⟨r, hr⟩) =>
    match item r with
    | .error f => .error f
    | .ok (a, ⟨t, ht⟩) =>
      match itemsOf item false t with
      | .error f => .error f
      | .ok (as, ⟨u, hu⟩) => .ok (a :: as, ⟨u, by omega⟩)
termination_by s.length

def after (opener : Char) (inside : Reader α) : Reader α := fun s ↦
  match h : skipBlanks s with
  | [] => .error .truncated
  | c :: r =>
    if c = opener then
      match inside r with
      | .ok (a, ⟨t, ht⟩) => .ok (a, ⟨t, Nat.lt_trans ht (length_le_of_skipBlanks h)⟩)
      | .error f => .error f
    else .error (faultOfShape s)

def array (item : Reader α) : Reader (List α) := after '[' (itemsOf item true)

/-- The members of an object from left to right. Each key says how to go on from the result so far,
or that it must not stand there. -/
def membersFrom (key : Reader κ) (member : σ → κ → Except Fault (Reader σ)) (first : Bool)
    (state : σ) (s : List Char) : Except Fault (σ × Shorter s) :=
  match nextMember first s with
  | .error f => .error f
  | .ok (.done rest) => .ok (state, rest)
  | .ok (.more ⟨r, hr⟩) =>
    match key r with
    | .error f => .error f
    | .ok (name, ⟨k, hk⟩) =>
      match member state name with
      | .error f => .error f
      | .ok read =>
        match colon k with
        | .error f => .error f
        | .ok ((), ⟨v, hv⟩) =>
          match read v with
          | .error f => .error f
          | .ok (state, ⟨t, ht⟩) =>
            match membersFrom key member false state t with
            | .error f => .error f
            | .ok (state, ⟨u, hu⟩) => .ok (state, ⟨u, by omega⟩)
termination_by s.length

def object (key : Reader κ) (member : σ → κ → Except Fault (Reader σ)) (init : σ) : Reader σ :=
  after '\x7b' (membersFrom key member true init)

/-- The fields of a record in their order, as an array that may end early. -/
def fieldsFrom (member : σ → String → Except Fault (Reader σ)) (first : Bool) (state : σ) :
    List String → Reader σ
  | [], s =>
    match closeArray s with
    | .ok ((), t) => .ok (state, t)
    | .error f => .error f
  | name :: names, s =>
    match nextItem first s with
    | .error f => .error f
    | .ok (.done rest) => .ok (state, rest)
    | .ok (.more ⟨r, hr⟩) =>
      match member state name with
      | .error f => .error f
      | .ok read =>
        match read r with
        | .error f => .error f
        | .ok (state, ⟨t, ht⟩) =>
          match fieldsFrom member false state names t with
          | .error f => .error f
          | .ok (state, ⟨u, hu⟩) => .ok (state, ⟨u, by omega⟩)

/-- A record with named fields, written as an object or as an array of its fields in order. -/
def record (names : List String) (member : σ → String → Except Fault (Reader σ)) (init : σ) :
    Reader σ := fun s ↦
  match skipBlanks s with
  | '[' :: _ => after '[' (fieldsFrom member true init names) s
  | _ => object (stringBody .keep) member init s

def namedNull (ofName : String → Option α) : Reader α := fun s ↦
  match accept string ofName s with
  | .error f => .error f
  | .ok (a, ⟨k, hk⟩) =>
    match colon k with
    | .error f => .error f
    | .ok ((), ⟨v, hv⟩) =>
      match null v with
      | .error f => .error f
      | .ok ((), ⟨t, ht⟩) =>
        match h : skipBlanks t with
        | [] => .error .truncated
        | c :: r =>
          have hr := length_lt_of_skipBlanks h
          if c = '\x7d' then .ok (a, ⟨r, by omega⟩) else .error .malformed

def name (ofName : String → Option α) : Reader α := fun s ↦
  match skipBlanks s with
  | [] => .error .truncated
  | '"' :: _ => accept string ofName s
  | '\x7b' :: _ => after '\x7b' (namedNull ofName) s
  | _ => .error .malformed

/-- A whole number within 32 bits as a key, after the opening quote and up to the closing one. -/
def numberKey : Reader Int32 := fun s ↦
  match s with
  | [] => .error .malformed
  | c :: r =>
    if c.isDigit || c = '-' then
      match scalarAt .keep c r (Nat.le_refl _) with
      | .ok (.number (.whole n), ⟨t, ht⟩) =>
        if Int32.minValue.toInt ≤ n ∧ n ≤ Int32.maxValue.toInt then
          match h : t with
          | '"' :: u => .ok (Int32.ofInt n, ⟨u, by subst h; simp at ht ⊢; omega⟩)
          | _ => .error .malformed
        else .error .mismatch
      | .ok _ => .error .mismatch
      | .error f => .error f
    else .error .malformed

def run (read : Reader α) (text : String) : Except Fault α :=
  match read text.toList with
  | .error f => .error f
  | .ok (a, t) => if skipBlanks t.1 = [] then .ok a else .error .malformed

end Reader

end WikiStream.Json
