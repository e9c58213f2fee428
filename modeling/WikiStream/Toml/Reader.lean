import WikiStream.Toml.Document
import WikiStream.Toml.Lexical
import WikiStream.Toml.Scalar

namespace WikiStream.Toml

open Text (Shorter)

namespace Reader

variable {α β : Type}

def map (f : α → β) (read : Reader α) : Reader β := fun s ↦ (read s).map fun p ↦ (f p.1, p.2)

def filter (p : α → Bool) (read : Reader α) : Reader α := fun s ↦ (read s).filter fun a ↦ p a.1

def andThen (read : Reader α) (next : α → Reader β) : Reader β := fun s ↦
  match read s with
  | none => none
  | some (a, ⟨t, ht⟩) =>
    match next a t with
    | none => none
    | some (b, ⟨u, hu⟩) => some (b, ⟨u, Nat.lt_trans hu ht⟩)

def orElse (first second : Reader α) : Reader α := fun s ↦ first s <|> second s

def after (k : Skip) (read : Reader α) : Reader α := fun s ↦
  (read (k.skip s)).map fun p ↦ (p.1, ⟨p.2.1, Nat.lt_of_lt_of_le p.2.2 (k.length_skip_le s)⟩)

def char (c : Char) : Reader Unit
  | [] => none
  | d :: s => if d = c then some ((), ⟨s, Nat.lt_succ_self _⟩) else none

def word (p : Char → Bool) : Reader (List Char)
  | [] => none
  | c :: s =>
    if p c then
      some (c :: s.takeWhile p,
        ⟨s.dropWhile p, Nat.lt_succ_of_le (List.dropWhile_sublist _).length_le⟩)
    else none

def items (k : Skip) (close : Char) (trailing : Bool) (item : Reader α) (first : Bool)
    (s : List Char) : Option (List α × Shorter s) :=
  match after k (char close) s with
  | some (_, t) => if first || trailing then some ([], t) else none
  | none =>
    match after k item s with
    | none => none
    | some (a, ⟨t, ht⟩) =>
      match after k (char close) t with
      | some (_, ⟨u, hu⟩) => some ([a], ⟨u, Nat.lt_trans hu ht⟩)
      | none =>
        match after k (char ',') t with
        | none => none
        | some (_, ⟨u, hu⟩) =>
          match items k close trailing item false u with
          | none => none
          | some (as, ⟨v, hv⟩) => some (a :: as, ⟨v, by omega⟩)
termination_by s.length

def quotedBody (quote : Char) (multi : Bool) : Reader String := fun s ↦
  match h : readQuoted quote multi .nothing s with
  | none => none
  | some (cs, r) => some (String.ofList cs, ⟨r, length_of_readQuoted h⟩)

def quoted : Reader String :=
  orElse ((char '"').andThen fun _ ↦ quotedBody '"' false)
    ((char '\'').andThen fun _ ↦ quotedBody '\'' false)

/-- A text of several lines, of which the first may be empty and then does not count. -/
def longText (quote : Char) : Reader String :=
  (char quote).andThen fun _ ↦ (char quote).andThen fun _ ↦ (char quote).andThen fun _ ↦
    orElse ((char '\n').andThen fun _ ↦ quotedBody quote true) (quotedBody quote true)

def isBareChar (c : Char) : Bool := c.isAlphanum || c = '_' || c = '-'

def name : Reader String := orElse quoted ((word isBareChar).map String.ofList)

def keyFrom (s : List Char) : Option (Key × Shorter s) :=
  match after blanks name s with
  | none => none
  | some (k, ⟨t, ht⟩) =>
    match after blanks (char '.') t with
    | none => some (⟨[], k⟩, ⟨t, ht⟩)
    | some (_, ⟨u, hu⟩) =>
      match keyFrom u with
      | none => none
      | some (key, ⟨v, hv⟩) => some (⟨k :: key.parents, key.name⟩, ⟨v, by omega⟩)
termination_by s.length

def maxNesting : Nat := 79

def key : Reader Key := filter (fun k ↦ k.path.length ≤ maxNesting) keyFrom

def isScalarChar (c : Char) : Bool :=
  c.isAlphanum || c = '_' || c = '-' || c = '+' || c = '.' || c = ':'

def scalarWord : Reader (List Char) := word isScalarChar

def dayAndTime : Reader Value := fun s ↦
  (scalarWord.andThen fun day ↦ (char ' ').andThen fun _ ↦ scalarWord.map (day, ·)) s |>.bind
    fun ((day, time), rest) ↦ (Moment.read? .bare (day ++ ' ' :: time)).map (.moment ·, rest)

def scalar : Reader Value :=
  orElse dayAndTime fun s ↦ (scalarWord s).bind fun (w, rest) ↦ (scalar? w).map (·, rest)

def text : Reader Value :=
  map .text (orElse (longText '"') (orElse (longText '\'') quoted))

def assignment (value : Reader Value) : Reader (Key × Value) :=
  key.andThen fun k ↦ (after blanks (char '=')).andThen fun _ ↦ (after blanks value).map (k, ·)

/-- A value with at most `room` tables and lists inside each other. -/
def value : (room : Nat) → Reader Value
  | 0 => orElse text scalar
  | room + 1 =>
    orElse text (orElse scalar
      (orElse ((char '[').andThen fun _ ↦ map .list (items gaps ']' true (value room) true))
        ((char '\x7b').andThen fun _ s ↦
          (items blanks '\x7d' false (assignment (value room)) true s).bind fun (pairs, rest) ↦
            (tableOf? pairs).map (·, rest))))

def statement : Reader Statement :=
  orElse
    ((char '[').andThen fun _ ↦ orElse
      ((char '[').andThen fun _ ↦ key.andThen fun k ↦ (after blanks (char ']')).andThen fun _ ↦
        (char ']').map fun _ ↦ .item k)
      (key.andThen fun k ↦ (after blanks (char ']')).map fun _ ↦ .table k))
    ((assignment (value maxNesting)).map fun p ↦ .assign p.1 p.2)

def statements (s : List Char) : Option (List Statement) :=
  match h : gaps.skip s with
  | [] => some []
  | c :: r =>
    match statement (c :: r) with
    | none => none
    | some (a, ⟨t, ht⟩) =>
      match (blanks.skip t).head? with
      | none => some [a]
      | some d =>
        if d = '\n' || d = '#' then
          have : t.length < s.length := Nat.lt_of_lt_of_le (h ▸ ht) (gaps.length_skip_le s)
          (statements t).map (a :: ·)
        else none
termination_by s.length

end Reader

def read? (text : String) : Option (List (String × Settings.Value)) := do
  let s := unifyLines (match text.toList with | '\uFEFF' :: s => s | s => s)
  let document ← Document.ofStatements? (← Reader.statements s)
  match ← (Value.table document.entries.toValues).plain? with
  | .table es => some es
  | _ => none

end WikiStream.Toml
