import WikiStream.Json.Reader

namespace WikiStream.Json

abbrev Outcome (α : Type) := Except Fault (α × List Char)

namespace Outcome

variable {α β : Type}

def ofRead {s : List Char} : Except Fault (α × Text.Shorter s) → Outcome α
  | .ok (a, rest) => .ok (a, rest.1)
  | .error fault => .error fault

def map (f : α → β) : Outcome α → Outcome β
  | .ok (a, rest) => .ok (f a, rest)
  | .error fault => .error fault

def bind (o : Outcome α) (f : α → List Char → Outcome β) : Outcome β :=
  match o with
  | .ok (a, rest) => f a rest
  | .error fault => .error fault

@[simp] theorem ofRead_ok {s : List Char} (a : α) (rest : Text.Shorter s) :
    ofRead (.ok (a, rest)) = .ok (a, rest.1) := rfl

@[simp] theorem ofRead_error {s : List Char} (fault : Fault) :
    (ofRead (.error fault : Except Fault (α × Text.Shorter s))) = .error fault := rfl

@[simp] theorem map_ok (f : α → β) (a : α) (rest : List Char) :
    map f (.ok (a, rest)) = .ok (f a, rest) := rfl

@[simp] theorem map_error (f : α → β) (fault : Fault) : map f (.error fault) = .error fault := rfl

@[simp] theorem bind_ok (a : α) (rest : List Char) (f : α → List Char → Outcome β) :
    bind (.ok (a, rest)) f = f a rest := rfl

@[simp] theorem bind_error (fault : Fault) (f : α → List Char → Outcome β) :
    bind (.error fault) f = .error fault := rfl

theorem map_map {γ : Type} (o : Outcome α) (f : α → β) (g : β → γ) :
    (o.map f).map g = o.map (g ∘ f) := by
  cases o <;> rfl

theorem eq_ok_of_map {o : Outcome α} {f : α → β} {b : β} {rest : List Char}
    (h : o.map f = .ok (b, rest)) : ∃ a, o = .ok (a, rest) ∧ f a = b := by
  match o with
  | .ok (a, t) =>
    obtain ⟨rfl, rfl⟩ := Prod.mk.inj (Except.ok.inj h)
    exact ⟨a, rfl, rfl⟩
  | .error fault => cases h

theorem eq_ok_of_bind {o : Outcome α} {f : α → List Char → Outcome β} {b : β} {rest : List Char}
    (h : o.bind f = .ok (b, rest)) : ∃ a t, o = .ok (a, t) ∧ f a t = .ok (b, rest) := by
  match o with
  | .ok (a, t) => exact ⟨a, t, rfl, h⟩
  | .error fault => cases h

end Outcome

def Next.outcome {s : List Char} : Except Fault (Next s) → Outcome Bool
  | .ok (.done rest) => .ok (false, rest.1)
  | .ok (.more rest) => .ok (true, rest.1)
  | .error fault => .error fault

theorem outcome_nextItem (first : Bool) (s : List Char) :
    Next.outcome (nextItem first s) =
      match skipBlanks s with
      | [] => .error .truncated
      | c :: r =>
        if c = ']' then .ok (false, r)
        else if first then .ok (true, c :: r)
        else if c = ',' then
          match skipBlanks r with
          | [] => .error .truncated
          | d :: t => if d = ']' then .error .malformed else .ok (true, d :: t)
        else .error .malformed := by
  fun_cases nextItem first s <;> simp_all [Next.outcome]

theorem outcome_nextMember (first : Bool) (s : List Char) :
    Next.outcome (nextMember first s) =
      match skipBlanks s with
      | [] => .error .truncated
      | c :: r =>
        if c = '\x7d' then .ok (false, r)
        else if first then if c = '"' then .ok (true, r) else .error .malformed
        else if c = ',' then
          match skipBlanks r with
          | [] => .error .truncated
          | d :: t => if d = '"' then .ok (true, t) else .error .malformed
        else .error .malformed := by
  fun_cases nextMember first s <;> simp_all [Next.outcome]

def readWord (c : Char) (r : List Char) : Outcome Value :=
  if c = 'n' then (readLiteral "ull".toList r).map (.null, ·)
  else if c = 't' then (readLiteral "rue".toList r).map (.bool true, ·)
  else if c = 'f' then (readLiteral "alse".toList r).map (.bool false, ·)
  else if c = '"' then (Outcome.map (.string ∘ String.ofList) (readString .keep r))
  else if c = '-' then Outcome.map .number (readNumber .keep true r)
  else if c.isDigit then Outcome.map .number (readNumber .keep false (c :: r))
  else .error .malformed

namespace Reader

variable {α β σ κ : Type}

def outcome (read : Reader α) (s : List Char) : Outcome α := .ofRead (read s)

variable (read : Reader α) (s : List Char)

theorem length_of_outcome {a : α} {rest : List Char} (h : read.outcome s = .ok (a, rest)) :
    rest.length < s.length := by
  unfold outcome at h
  match hr : read s with
  | .ok (b, t) =>
    rw [hr] at h
    obtain ⟨-, rfl⟩ := Prod.mk.inj (Except.ok.inj h)
    exact t.2
  | .error fault =>
    rw [hr] at h
    cases h

theorem run_eq (text : String) :
    run read text = match read.outcome text.toList with
      | .error fault => .error fault
      | .ok (a, t) => if skipBlanks t = [] then .ok a else .error .malformed := by
  unfold run outcome
  cases read text.toList <;> rfl

theorem outcome_accept (f : α → Option β) :
    (read.accept f).outcome s = (read.outcome s).bind fun a rest ↦
      match f a with
      | some b => .ok (b, rest)
      | none => .error .mismatch := by
  unfold outcome
  fun_cases accept read f s <;> simp_all

theorem outcome_map (f : α → β) : (read.map f).outcome s = (read.outcome s).map f := by
  rw [map, outcome_accept]
  cases read.outcome s <;> rfl

theorem outcome_after (opener : Char) :
    (after opener read).outcome s =
      match skipBlanks s with
      | [] => .error .truncated
      | c :: r => if c = opener then read.outcome r else .error (faultOfShape s) := by
  unfold outcome
  fun_cases after opener read s <;> simp_all

theorem outcome_stringBody (use : Use) :
    (stringBody use).outcome s = Outcome.map String.ofList (readString use s) := by
  unfold outcome
  fun_cases stringBody use s <;> simp_all

theorem outcome_colon :
    colon.outcome s =
      match skipBlanks s with
      | [] => .error .truncated
      | c :: r => if c = ':' then .ok ((), r) else .error .malformed := by
  unfold outcome
  fun_cases colon s <;> simp_all

theorem outcome_itemsOf (item : Reader α) (first : Bool) :
    outcome (itemsOf item first) s = (Next.outcome (nextItem first s)).bind fun more rest ↦
      if more then (item.outcome rest).bind fun a rest ↦
        (outcome (itemsOf item false) rest).map (a :: ·)
      else .ok ([], rest) := by
  unfold outcome
  rw [itemsOf]
  cases nextItem first s with
  | error fault => rfl
  | ok n =>
    cases n with
    | done rest => rfl
    | more rest =>
      obtain ⟨r, hr⟩ := rest
      dsimp only [Next.outcome, Outcome.bind_ok]
      cases item r with
      | error fault => rfl
      | ok p =>
        obtain ⟨a, t, ht⟩ := p
        dsimp only [Outcome.ofRead_ok, Outcome.bind_ok, if_true]
        cases itemsOf item false t <;> rfl

theorem outcome_membersFrom (key : Reader κ) (member : σ → κ → Except Fault (Reader σ))
    (first : Bool) (state : σ) :
    outcome (membersFrom key member first state) s =
      (Next.outcome (nextMember first s)).bind fun more rest ↦
        if more then (key.outcome rest).bind fun name rest ↦
          match member state name with
          | .error fault => .error fault
          | .ok read => (colon.outcome rest).bind fun _ rest ↦
            (read.outcome rest).bind fun state rest ↦
              outcome (membersFrom key member false state) rest
        else .ok (state, rest) := by
  unfold outcome
  rw [membersFrom]
  cases nextMember first s with
  | error fault => rfl
  | ok n =>
    cases n with
    | done rest => rfl
    | more rest =>
      obtain ⟨r, hr⟩ := rest
      dsimp only [Next.outcome, Outcome.bind_ok]
      cases key r with
      | error fault => rfl
      | ok p =>
        obtain ⟨name, k, hk⟩ := p
        dsimp only [Outcome.ofRead_ok, Outcome.bind_ok, if_true]
        cases member state name with
        | error fault => rfl
        | ok read =>
          cases colon k with
          | error fault => rfl
          | ok p =>
            obtain ⟨u, v, hv⟩ := p
            dsimp only [Outcome.ofRead_ok, Outcome.bind_ok]
            cases read v with
            | error fault => rfl
            | ok p =>
              obtain ⟨state, t, ht⟩ := p
              dsimp only [Outcome.ofRead_ok, Outcome.bind_ok]
              cases membersFrom key member false state t <;> rfl

theorem items_eq_itemsOf (use : Use) (first : Bool) :
    items use first s = itemsOf (value use) first s := by
  induction hn : s.length using Nat.strongRecOn generalizing s first with
  | ind n ih =>
    rw [items, itemsOf]
    cases nextItem first s with
    | error fault => rfl
    | ok next =>
      cases next with
      | done rest => rfl
      | more rest =>
        obtain ⟨r, hr⟩ := rest
        dsimp only
        cases value use r with
        | error fault => rfl
        | ok p =>
          obtain ⟨v, t, ht⟩ := p
          have h := ih t.length (by omega) t false rfl
          dsimp only
          rw [h]
          cases itemsOf (value use) false t <;> rfl

def collect (use : Use) (members : List (String × Value)) (key : String) :
    Except Fault (Reader (List (String × Value))) :=
  .ok (map (fun v ↦ members ++ [(key, v)]) (value use))

theorem outcome_membersFrom_collect (use : Use) (first : Bool) (ms : List (String × Value)) :
    outcome (membersFrom (stringBody use) (collect use) first ms) s =
      (outcome (members use first) s).map (ms ++ ·) := by
  induction hn : s.length using Nat.strongRecOn generalizing s first ms with
  | ind n ih =>
    rw [outcome_membersFrom]
    unfold outcome
    rw [members]
    cases nextMember first s with
    | error fault => rfl
    | ok next =>
      cases next with
      | done rest => simp [Next.outcome]
      | more rest =>
        obtain ⟨r, hr⟩ := rest
        dsimp only [Next.outcome, Outcome.bind_ok]
        cases stringBody use r with
        | error fault => rfl
        | ok p =>
          obtain ⟨key, k, hk⟩ := p
          dsimp only [Outcome.ofRead_ok, Outcome.bind_ok, collect]
          cases colon k with
          | error fault => rfl
          | ok p =>
            obtain ⟨u, v, hv⟩ := p
            have hm := outcome_map (value use) v fun x ↦ ms ++ [(key, x)]
            unfold outcome at hm
            simp only [Outcome.ofRead_ok, Outcome.bind_ok, ↓reduceIte, hm]
            cases value use v with
            | error fault => rfl
            | ok p =>
              obtain ⟨x, t, ht⟩ := p
              have h := ih t.length (by omega) t false (ms ++ [(key, x)]) rfl
              unfold outcome at h
              simp only [Outcome.ofRead_ok, Outcome.map_ok, Outcome.bind_ok, h]
              cases members use false t with
              | error fault => rfl
              | ok p => simp [Outcome.ofRead]

theorem ofRead_scalarAt {c : Char} {r : List Char} (hr : (c :: r).length ≤ s.length) :
    Outcome.ofRead (scalarAt .keep c r hr) = readWord c r := by
  have hl (word : String) (v : Value) : Outcome.ofRead (literalTail c r hr word v) =
      (readLiteral word.toList r).map (v, ·) := by
    fun_cases literalTail c r hr word v <;> simp_all [Outcome.ofRead, Except.map]
  have hs := outcome_stringBody r .keep
  unfold outcome at hs
  fun_cases scalarAt .keep c r hr <;> simp_all [readWord]
  all_goals
    rw [← Outcome.map_map, ← hs]
    rfl

theorem outcome_value :
    outcome (value .keep) s =
      match skipBlanks s with
      | [] => .error .truncated
      | c :: r =>
        if c = '[' then (outcome (itemsOf (value .keep) true) r).map .array
        else if c = '\x7b' then (outcome (members .keep true) r).map .object
        else readWord c r := by
  have hi : items .keep true = itemsOf (value .keep) true := funext fun s ↦ items_eq_itemsOf s _ _
  rw [← hi]
  unfold outcome
  rw [value]
  split <;> rename_i h
  · simp only [h]
    rfl
  · rename_i c r
    simp only [h]
    split
    · cases items .keep true r <;> rfl
    split
    · cases members .keep true r <;> rfl
    · exact ofRead_scalarAt s _

theorem outcome_scalar :
    scalar.outcome s =
      match skipBlanks s with
      | [] => .error .truncated
      | c :: r => if c = '[' || c = '\x7b' then .error .mismatch else readWord c r := by
  unfold outcome
  fun_cases scalar s <;> simp_all [ofRead_scalarAt]

end Reader

end WikiStream.Json
