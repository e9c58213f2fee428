import WikiStream.Json.Lexical

namespace WikiStream.Json

open Text (Shorter)

abbrev Reader (α : Type) := (s : List Char) → Except Fault (α × Shorter s)

inductive Next (s : List Char)
  | done (rest : Shorter s)
  | more (rest : { r : List Char // r.length ≤ s.length })

theorem length_le_of_skipBlanks {s t : List Char} (h : skipBlanks s = t) : t.length ≤ s.length :=
  h ▸ length_skipBlanks_le s

theorem length_lt_of_skipBlanks {s r : List Char} {c : Char} (h : skipBlanks s = c :: r) :
    r.length < s.length :=
  length_le_of_skipBlanks h

/-- Reads up to the next item of an array. Its first item follows the bracket at once. -/
def nextItem (first : Bool) (s : List Char) : Except Fault (Next s) :=
  match h : skipBlanks s with
  | [] => .error .truncated
  | c :: r =>
    have hr : (c :: r).length ≤ s.length := length_le_of_skipBlanks h
    if c = ']' then .ok (.done ⟨r, hr⟩)
    else if first then .ok (.more ⟨c :: r, hr⟩)
    else if c = ',' then
      match h' : skipBlanks r with
      | [] => .error .truncated
      | d :: t =>
        have ht : (d :: t).length ≤ r.length := length_le_of_skipBlanks h'
        if d = ']' then .error .malformed
        else .ok (.more ⟨d :: t, by simp at hr ht ⊢; omega⟩)
    else .error .malformed

def nextMember (first : Bool) (s : List Char) : Except Fault (Next s) :=
  match h : skipBlanks s with
  | [] => .error .truncated
  | c :: r =>
    have hr : (c :: r).length ≤ s.length := length_le_of_skipBlanks h
    if c = '\x7d' then .ok (.done ⟨r, hr⟩)
    else if first then
      if c = '"' then .ok (.more ⟨r, Nat.le_of_lt hr⟩) else .error .malformed
    else if c = ',' then
      match h' : skipBlanks r with
      | [] => .error .truncated
      | d :: t =>
        have ht : (d :: t).length ≤ r.length := length_le_of_skipBlanks h'
        if d = '"' then .ok (.more ⟨t, by simp at hr ht ⊢; omega⟩) else .error .malformed
    else .error .malformed

def stringBody (use : Use) : Reader String := fun s ↦
  match h : readString use s with
  | .ok (cs, r) => .ok (String.ofList cs, ⟨r, length_of_readString h⟩)
  | .error f => .error f

def colon : Reader Unit := fun s ↦
  match h : skipBlanks s with
  | [] => .error .truncated
  | c :: r =>
    if c = ':' then .ok ((), ⟨r, length_le_of_skipBlanks h⟩) else .error .malformed

def closeArray : Reader Unit := fun s ↦
  match h : skipBlanks s with
  | [] => .error .truncated
  | c :: r =>
    if c = ']' then .ok ((), ⟨r, length_le_of_skipBlanks h⟩) else .error .malformed

def literalTail {s : List Char} (c : Char) (r : List Char) (hr : (c :: r).length ≤ s.length)
    (word : String) (v : Value) : Except Fault (Value × Shorter s) :=
  match h : readLiteral word.toList r with
  | .ok t => .ok (v, ⟨t, Nat.lt_of_le_of_lt (length_of_readLiteral h) hr⟩)
  | .error f => .error f

def scalarAt (use : Use) {s : List Char} (c : Char) (r : List Char)
    (hr : (c :: r).length ≤ s.length) : Except Fault (Value × Shorter s) :=
  if c = 'n' then literalTail c r hr "ull" .null
  else if c = 't' then literalTail c r hr "rue" (.bool true)
  else if c = 'f' then literalTail c r hr "alse" (.bool false)
  else if c = '"' then
    match stringBody use r with
    | .ok (text, t) => .ok (.string text, ⟨t, Nat.lt_trans t.2 hr⟩)
    | .error f => .error f
  else if c = '-' then
    match h : readNumber use true r with
    | .ok (n, t) => .ok (.number n, ⟨t, Nat.lt_trans (length_of_readNumber h) hr⟩)
    | .error f => .error f
  else if c.isDigit then
    match h : readNumber use false (c :: r) with
    | .ok (n, t) => .ok (.number n, ⟨t, Nat.lt_of_lt_of_le (length_of_readNumber h) hr⟩)
    | .error f => .error f
  else .error .malformed

mutual

def value (use : Use) (s : List Char) : Except Fault (Value × Shorter s) :=
  match h : skipBlanks s with
  | [] => .error .truncated
  | c :: r =>
    have hr : r.length < s.length := length_le_of_skipBlanks h
    if c = '[' then
      match items use true r with
      | .ok (vs, t) => .ok (.array vs, ⟨t, Nat.lt_trans t.2 hr⟩)
      | .error f => .error f
    else if c = '\x7b' then
      match members use true r with
      | .ok (ms, t) => .ok (.object ms, ⟨t, Nat.lt_trans t.2 hr⟩)
      | .error f => .error f
    else scalarAt use c r (length_le_of_skipBlanks h)
termination_by 2 * s.length

def items (use : Use) (first : Bool) (s : List Char) : Except Fault (List Value × Shorter s) :=
  match nextItem first s with
  | .error f => .error f
  | .ok (.done rest) => .ok ([], rest)
  | .ok (.more ⟨r, hr⟩) =>
    match value use r with
    | .error f => .error f
    | .ok (v, ⟨t, ht⟩) =>
      match items use false t with
      | .error f => .error f
      | .ok (vs, ⟨u, hu⟩) => .ok (v :: vs, ⟨u, by omega⟩)
termination_by 2 * s.length + 1

def members (use : Use) (first : Bool) (s : List Char) :
    Except Fault (List (String × Value) × Shorter s) :=
  match nextMember first s with
  | .error f => .error f
  | .ok (.done rest) => .ok ([], rest)
  | .ok (.more ⟨r, hr⟩) =>
    match stringBody use r with
    | .error f => .error f
    | .ok (key, ⟨k, hk⟩) =>
      match colon k with
      | .error f => .error f
      | .ok ((), ⟨v, hv⟩) =>
        match value use v with
        | .error f => .error f
        | .ok (x, ⟨t, ht⟩) =>
          match members use false t with
          | .error f => .error f
          | .ok (xs, ⟨u, hu⟩) => .ok ((key, x) :: xs, ⟨u, by omega⟩)
termination_by 2 * s.length + 1

end

end WikiStream.Json
