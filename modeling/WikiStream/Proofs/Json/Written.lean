import Mathlib.Data.List.Forall2
import WikiStream.Proofs.Json.Numbers
import WikiStream.Proofs.Json.Reading

namespace WikiStream.Json.Reader

variable {α β σ κ : Type}

/-- What is written for the value is read as `a`. -/
def ReadsBack (read : Reader α) (v : Value) (a : α) : Prop := Reads read v.writeChars a

/-- The members, written one after the other, lead from one state to another. -/
inductive Leads (key : Reader κ) (member : σ → κ → Except Fault (Reader σ)) :
    σ → List (String × Value) → σ → Prop
  | nil {state : σ} : Leads key member state [] state
  | cons {state next final : σ} {text : String} {name : κ} {v : Value} {ms : List (String × Value)}
      {read : Reader σ} :
      (∀ e, key.outcome (text.toList.flatMap escapeChar ++ '"' :: e) = .ok (name, e)) →
      member state name = .ok read → ReadsBack read v next → Leads key member next ms final →
      Leads key member state ((text, v) :: ms) final

section Values

variable {read : Reader α} {v : Value} {a : α}

theorem Answers.readsBack (h : Answers read v a) (hv : Spells v.writeChars v) :
    ReadsBack read v a :=
  (h _ hv).1

theorem ReadsBack.map (h : ReadsBack read v a) (f : α → β) : ReadsBack (read.map f) v (f a) := by
  intro b e hb he
  rw [outcome_map, h b e hb he, Outcome.map_ok]

theorem ReadsBack.accept (h : ReadsBack read v a) {f : α → Option β} {x : β} (hf : f a = some x) :
    ReadsBack (read.accept f) v x := by
  intro b e hb he
  rw [outcome_accept, h b e hb he, Outcome.bind_ok, hf]

theorem ReadsBack.run_eq (h : ReadsBack read v a) : run read v.write = .ok a := by
  have hend : Delimited [] := nofun
  have hread := h [] [] blanks_nil hend
  rw [List.nil_append, List.append_nil] at hread
  rw [Reader.run_eq, Value.write, String.toList_ofList, hread]
  rfl

end Values

section Scalars

variable {a : α}

theorem readsBack_scalar (v : Value) (harray : ∀ vs, v ≠ .array vs) (hobject : ∀ ms, v ≠ .object ms)
    (hv : Spells v.writeChars v) {f : Value → Option α} (hf : f v = some a) :
    ReadsBack (scalar.accept f) v a :=
  ((answers_scalar harray hobject).accept hf).readsBack hv

theorem readsBack_string (text : String) : ReadsBack string (.string text) text :=
  readsBack_scalar (.string text) nofun nofun (spells_writeString text) rfl

theorem readsBack_optionalString (text : String) :
    ReadsBack optionalString (.string text) (some text) :=
  readsBack_scalar (.string text) nofun nofun (spells_writeString text) rfl

theorem readsBack_boolean (b : Bool) : ReadsBack boolean (.bool b) b :=
  readsBack_scalar (.bool b) nofun nofun (spells_writeChars (.bool b) trivial) rfl

theorem readsBack_integer {low high n : Int} (h : low ≤ n ∧ n ≤ high)
    (hmin : Int64.minValue.toInt ≤ n) (hmax : n < UInt64.size) :
    ReadsBack (integer low high) (.number (.whole n)) n :=
  readsBack_scalar (.number (.whole n)) nofun nofun (spells_whole hmin hmax) (if_pos h)

theorem readsBack_strings (texts : List String) :
    ReadsBack (array string) (.array (texts.map .string)) texts := by
  have hall : List.Forall₂ (Answers string) (texts.map .string) texts := by
    rw [List.forall₂_map_left_iff]
    exact List.forall₂_same.2 fun text _ ↦ answers_string text
  have hfree : NumberFreeItems (texts.map .string) := by
    clear hall
    induction texts with
    | nil => exact trivial
    | cons text texts ih => exact ⟨trivial, ih⟩
  exact (answers_array hall).readsBack (spells_writeChars (.array _) hfree)

theorem outcome_name (ofName : String → Option α) (s : List Char) :
    (name ofName).outcome s =
      match skipBlanks s with
      | [] => .error .truncated
      | '"' :: _ => (accept string ofName).outcome s
      | '\x7b' :: _ => (after '\x7b' (namedNull ofName)).outcome s
      | _ => .error .malformed := by
  unfold outcome
  fun_cases name ofName s <;> simp_all

theorem answers_name {ofName : String → Option α} {text : String}
    (h : ofName text = some a) : Answers (name ofName) (.string text) a := by
  refine ((answers_string text).accept h).of_head fun c r s hs hhead ↦ ?_
  cases hs
  rw [outcome_name]
  cases hb : skipBlanks s with
  | nil =>
    rw [outcome_accept, string, outcome_accept, outcome_scalar, hb]
    rfl
  | cons d t =>
    rw [hb] at hhead
    obtain rfl := hhead d rfl
    rfl

theorem readsBack_name {ofName : String → Option α} {text : String} (h : ofName text = some a) :
    ReadsBack (name ofName) (.string text) a :=
  (answers_name h).readsBack (spells_writeString text)

end Scalars

section Keys

theorem reads_key (text : String) (e : List Char) :
    (stringBody .keep).outcome (text.toList.flatMap escapeChar ++ '"' :: e) = .ok (text, e) := by
  have hread := (stringText_flatMap text.toList).readString_append e
  rw [List.append_assoc, List.singleton_append] at hread
  rw [outcome_stringBody, hread, Outcome.map_ok, String.ofList_toList]

theorem outcome_numberKey {c : Char} {r e : List Char} {n : Int}
    (hc : (c.isDigit || c = '-') = true) (hword : readWord c r = .ok (.number (.whole n), '"' :: e))
    (hn : Int32.minValue.toInt ≤ n ∧ n ≤ Int32.maxValue.toInt) :
    numberKey.outcome (c :: r) = .ok (Int32.ofInt n, e) := by
  rw [← ofRead_scalarAt (c :: r) (Nat.le_refl _)] at hword
  cases hscalar : scalarAt .keep c r (Nat.le_refl (c :: r).length) with
  | error fault =>
    rw [hscalar] at hword
    cases hword
  | ok p =>
    obtain ⟨v, t, ht⟩ := p
    rw [hscalar] at hword
    obtain ⟨rfl, rfl⟩ := Prod.mk.inj (Except.ok.inj hword)
    simp only [outcome, numberKey, hc, if_true, hscalar, if_pos hn, Outcome.ofRead_ok]

theorem mem_decimalInt {n : Int} {c : Char} (h : c ∈ Text.decimalInt n) :
    (c.isDigit || c = '-') = true := by
  cases n with
  | ofNat n => rw [isDigit_of_mem_decimal h, Bool.true_or]
  | negSucc n =>
    obtain rfl | h := List.mem_cons.1 h
    · rfl
    · rw [isDigit_of_mem_decimal h, Bool.true_or]

theorem escapeChar_of_digit {c : Char} (h : (c.isDigit || c = '-') = true) :
    escapeChar c = [c] := by
  fun_cases escapeChar c with
  | case8 _ _ _ _ _ _ _ hc =>
    have hlow : 0x2D ≤ c.toNat := by
      obtain h | h := Bool.or_eq_true_iff.1 h
      · simp only [Char.isDigit, Bool.and_eq_true, decide_eq_true_eq, ge_iff_le,
          UInt32.le_iff_toNat_le] at h
        exact (by decide : 0x2D ≤ 48).trans h.1
      · rw [of_decide_eq_true h]
        decide
    omega
  | case9 => rfl
  | _ =>
    subst_vars
    cases h

theorem flatMap_escapeChar_decimalInt (n : Int) :
    (Text.decimalInt n).flatMap escapeChar = Text.decimalInt n := by
  refine (List.flatMap_congr fun c hc ↦ ?_).trans (List.flatMap_singleton' _)
  exact escapeChar_of_digit (mem_decimalInt hc)

theorem reads_numberKey (n : Int32) (e : List Char) :
    numberKey.outcome ((String.ofList (Text.decimalInt n.toInt)).toList.flatMap escapeChar ++
      '"' :: e) = .ok (n, e) := by
  have hmin : Int64.minValue.toInt ≤ n.toInt := by
    have hlow := n.le_toInt
    rw [Int64.toInt_minValue]
    omega
  have hmax : n.toInt < UInt64.size := by
    have hhigh := n.toInt_lt
    simp only [UInt64.size]
    omega
  have hspells : Spells (Text.decimalInt n.toInt) _ := spells_whole hmin hmax
  rw [String.toList_ofList, flatMap_escapeChar_decimalInt]
  obtain ⟨c, r, hcr, -⟩ := hspells.head
  have hc : (c.isDigit || c = '-') = true :=
    mem_decimalInt (hcr ▸ List.mem_cons_self)
  rw [hcr] at hspells ⊢
  have hend : EndsNumber ('"' :: e) := by
    intro d hd
    obtain rfl := Option.some_inj.1 hd
    decide
  rw [List.cons_append, outcome_numberKey hc (readWord_of_spells hspells hend)
    ⟨n.minValue_le_toInt, n.toInt_le⟩, Int32.ofInt_toInt]

end Keys

section Objects

variable {key : Reader κ} {member : σ → κ → Except Fault (Reader σ)} {state next final : σ}
  {ms rest : List (String × Value)}

theorem Leads.append (h : Leads key member state ms next) (h' : Leads key member next rest final) :
    Leads key member state (ms ++ rest) final := by
  induction h with
  | nil => exact h'
  | cons hk hm hv _ ih => exact .cons hk hm hv (ih h')

theorem Leads.single {member : σ → String → Except Fault (Reader σ)} {text : String} {v : Value}
    {read : Reader σ} (hm : member state text = .ok read) (hv : ReadsBack read v next) :
    Leads (stringBody .keep) member state [(text, v)] next :=
  .cons (reads_key text) hm hv .nil

def writeRest (e : List Char) : List (String × Value) → List Char
  | [] => '\x7d' :: e
  | m :: ms => ',' :: (Value.writeMembers (m :: ms) ++ '\x7d' :: e)

theorem delimited_writeRest (e : List Char) (ms : List (String × Value)) :
    Delimited (writeRest e ms) := by
  cases ms with
  | nil => exact delimited_of_blanks blanks_nil (.inr (.inr rfl))
  | cons m ms => exact delimited_of_blanks blanks_nil (.inl rfl)

theorem writeMembers_cons (text : String) (v : Value) (ms : List (String × Value)) (e : List Char) :
    Value.writeMembers ((text, v) :: ms) ++ '\x7d' :: e =
      '"' :: (text.toList.flatMap escapeChar ++ '"' :: ':' :: (v.writeChars ++ writeRest e ms)) := by
  cases ms <;> simp [Value.writeMembers, writeRest, writeString]

theorem outcome_member {text : String} {name : κ} {v : Value} {read : Reader σ} {first : Bool}
    {o e : List Char} (ho : Opener first o)
    (hk : ∀ e, key.outcome (text.toList.flatMap escapeChar ++ '"' :: e) = .ok (name, e))
    (hm : member state name = .ok read) (hv : ReadsBack read v next)
    (ms : List (String × Value)) :
    outcome (membersFrom key member first state)
        (o ++ (Value.writeMembers ((text, v) :: ms) ++ '\x7d' :: e)) =
      outcome (membersFrom key member false next) (writeRest e ms) := by
  have hvalue : read.outcome (v.writeChars ++ writeRest e ms) = .ok (next, writeRest e ms) :=
    hv [] _ blanks_nil (delimited_writeRest e ms)
  have hcolon (r : List Char) : colon.outcome (':' :: r) = .ok ((), r) :=
    outcome_colon_append blanks_nil
  rw [writeMembers_cons, outcome_membersFrom, outcome_nextMember_open ho, Outcome.bind_ok,
    if_pos rfl, hk, Outcome.bind_ok, hm]
  simp only [hcolon, Outcome.bind_ok, hvalue]

theorem outcome_membersFrom_close {first : Bool} {e : List Char} :
    outcome (membersFrom key member first state) ('\x7d' :: e) = .ok (state, e) := by
  have hclose : Next.outcome (nextMember first ('\x7d' :: e)) = .ok (false, e) :=
    outcome_nextMember_close blanks_nil
  rw [outcome_membersFrom, hclose]
  rfl

theorem Leads.outcome_writeRest (h : Leads key member state ms final) (e : List Char) :
    outcome (membersFrom key member false state) (writeRest e ms) = .ok (final, e) := by
  induction h with
  | nil => exact outcome_membersFrom_close
  | cons hk hm hv _ ih => exact (outcome_member .comma hk hm hv _).trans ih

theorem Leads.outcome_writeMembers (h : Leads key member state ms final) (e : List Char) :
    outcome (membersFrom key member true state) (Value.writeMembers ms ++ '\x7d' :: e) =
      .ok (final, e) := by
  cases h with
  | nil => exact outcome_membersFrom_close
  | cons hk hm hv hrest =>
    have hopener : Opener true [] := .first blanks_nil
    exact (outcome_member hopener hk hm hv _).trans (hrest.outcome_writeRest e)

theorem Leads.readsBack (h : Leads key member state ms final) :
    ReadsBack (object key member state) (.object ms) final := by
  intro b e hb _
  have hskip : skipBlanks (b ++ (Value.writeChars (.object ms) ++ e)) =
      '\x7b' :: (Value.writeMembers ms ++ '\x7d' :: e) := by
    rw [skipBlanks_append hb, Value.writeChars, List.cons_append, List.append_assoc]
    exact skipBlanks_cons rfl
  rw [object, outcome_after, hskip]
  exact h.outcome_writeMembers e

theorem Leads.readsBack_record {member : σ → String → Except Fault (Reader σ)}
    (h : Leads (stringBody .keep) member state ms final) (names : List String) :
    ReadsBack (record names member state) (.object ms) final := by
  intro b e hb he
  have hobject := h.readsBack b e hb he
  have hskip : skipBlanks (b ++ (Value.writeChars (.object ms) ++ e)) =
      '\x7b' :: (Value.writeMembers ms ++ ['\x7d'] ++ e) := by
    rw [skipBlanks_append hb]
    exact skipBlanks_cons rfl
  rw [← hobject]
  unfold outcome record
  split
  · rename_i hbracket
    rw [hskip] at hbracket
    cases hbracket
  · rfl

end Objects

end WikiStream.Json.Reader
