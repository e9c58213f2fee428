import WikiStream.Proofs.Json.Outcome
import WikiStream.Proofs.Json.Words

namespace WikiStream.Json

/-- What may follow a value inside a text, or the end of the text. -/
def Delimited (e : List Char) : Prop :=
  ∀ c ∈ e.head?, isBlank c = true ∨ c = ',' ∨ c = ']' ∨ c = '\x7d'

theorem Delimited.endsNumber {e : List Char} (h : Delimited e) : EndsNumber e := by
  intro c hc
  obtain hb | rfl | rfl | rfl := h c hc
  · simp only [isBlank, Bool.or_eq_true, decide_eq_true_eq] at hb
    obtain ((rfl | rfl) | rfl) | rfl := hb <;> decide
  all_goals decide

section Next

variable {first : Bool} {b o p s e : List Char} {c : Char}

def Unopened (first : Bool) (p : List Char) : Prop :=
  Blanks p ∨ first = false ∧ ∃ b b', Blanks b ∧ Blanks b' ∧ p = b ++ ',' :: b'

theorem Opener.cut (ho : Opener first o) (hp : Cut p (o ++ s)) :
    Unopened first p ∨ ∃ p', p = o ++ p' ∧ p' ≠ [] ∧ Cut p' s := by
  have hinside (p' : List Char) (hp' : Cut p' s) (hu : Unopened first o) :
      Unopened first (o ++ p') ∨ ∃ p'', o ++ p' = o ++ p'' ∧ p'' ≠ [] ∧ Cut p'' s := by
    by_cases hne : p' = []
    · rw [hne, List.append_nil]
      exact .inl hu
    · exact .inr ⟨p', rfl, hne, hp'⟩
  cases ho with
  | first hb =>
    obtain hcut | ⟨p', rfl, hp'⟩ := cut_append hp
    · exact .inl (.inl (blanks_of_cut hb hcut))
    · exact hinside p' hp' (.inl hb)
  | @next b b' hb hb' =>
    obtain hcut | ⟨p', rfl, hp'⟩ := cut_append hp
    · obtain hcut | ⟨p₁, rfl, h₁⟩ := cut_append hcut
      · exact .inl (.inl (blanks_of_cut hb hcut))
      obtain rfl | ⟨p₂, rfl, h₂⟩ := cut_cons h₁
      · rw [List.append_nil]
        exact .inl (.inl hb)
      · exact .inl (.inr ⟨rfl, b, p₂, hb, blanks_of_cut hb' h₂, rfl⟩)
    · exact hinside p' hp' (.inr ⟨rfl, b, b', hb, hb', rfl⟩)

theorem blanks_of_cut_close (hb : Blanks b) (hp : Cut p (b ++ [c])) : Blanks p := by
  obtain hcut | ⟨p', rfl, hp'⟩ := cut_append hp
  · exact blanks_of_cut hb hcut
  obtain rfl | ⟨p'', -, hp''⟩ := cut_cons hp'
  · rwa [List.append_nil]
  · exact absurd hp'' (not_cut_nil p'')

theorem outcome_nextItem_close (hb : Blanks b) :
    Next.outcome (nextItem first (b ++ ']' :: e)) = .ok (false, e) := by
  rw [outcome_nextItem, skipBlanks_append hb, skipBlanks_cons rfl]
  rfl

theorem outcome_nextMember_close (hb : Blanks b) :
    Next.outcome (nextMember first (b ++ '\x7d' :: e)) = .ok (false, e) := by
  rw [outcome_nextMember, skipBlanks_append hb, skipBlanks_cons rfl]
  rfl

theorem outcome_nextItem_open (ho : Opener first o) (hc : isBlank c = false) (hne : c ≠ ']') :
    Next.outcome (nextItem first (o ++ c :: s)) = .ok (true, c :: s) := by
  rw [outcome_nextItem]
  cases ho with
  | first hb =>
    rw [skipBlanks_append hb, skipBlanks_cons hc]
    simp only [hne, if_false, if_true]
  | next hb hb' =>
    rw [List.append_assoc, List.cons_append, skipBlanks_append hb, skipBlanks_cons rfl]
    simp only [skipBlanks_append hb', skipBlanks_cons hc, hne]
    rfl

theorem outcome_nextMember_open (ho : Opener first o) :
    Next.outcome (nextMember first (o ++ '"' :: s)) = .ok (true, s) := by
  rw [outcome_nextMember]
  cases ho with
  | first hb =>
    rw [skipBlanks_append hb, skipBlanks_cons rfl]
    rfl
  | next hb hb' =>
    rw [List.append_assoc, List.cons_append, skipBlanks_append hb, skipBlanks_cons rfl]
    simp only [skipBlanks_append hb', skipBlanks_cons (show isBlank '"' = false from rfl)]
    rfl

theorem Unopened.outcome_nextItem (hp : Unopened first p) :
    Next.outcome (nextItem first p) = .error .truncated := by
  rw [Json.outcome_nextItem]
  obtain hb | ⟨rfl, b, b', hb, hb', rfl⟩ := hp
  · rw [skipBlanks_eq_nil hb]
  · rw [skipBlanks_append hb, skipBlanks_cons rfl]
    simp only [skipBlanks_eq_nil hb']
    rfl

theorem Unopened.outcome_nextMember (hp : Unopened first p) :
    Next.outcome (nextMember first p) = .error .truncated := by
  rw [Json.outcome_nextMember]
  obtain hb | ⟨rfl, b, b', hb, hb', rfl⟩ := hp
  · rw [skipBlanks_eq_nil hb]
  · rw [skipBlanks_append hb, skipBlanks_cons rfl]
    simp only [skipBlanks_eq_nil hb']
    rfl

end Next

section Heads

variable {s p : List Char}

theorem Spells.head {v : Value} (h : Spells s v) :
    ∃ c t, s = c :: t ∧ isBlank c = false ∧ c ≠ ']' := by
  cases h with
  | null => exact ⟨'n', _, rfl, by decide⟩
  | yes => exact ⟨'t', _, rfl, by decide⟩
  | no => exact ⟨'f', _, rfl, by decide⟩
  | positive hn =>
    obtain ⟨c, t, rfl, hc⟩ := head_of_readNumber hn
    refine ⟨c, t, rfl, isBlank_of_isDigit hc, ?_⟩
    rintro rfl
    cases hc
  | negative _ => exact ⟨'-', _, rfl, by decide⟩
  | string _ => exact ⟨'"', _, rfl, by decide⟩
  | array _ => exact ⟨'[', _, rfl, by decide⟩
  | object _ => exact ⟨'\x7b', _, rfl, by decide⟩

theorem Spells.eq_array {v : Value} (h : Spells ('[' :: s) v) :
    ∃ vs, v = .array vs ∧ Items true s vs := by
  cases h with
  | positive hn =>
    obtain ⟨c, t, hs, hc⟩ := head_of_readNumber hn
    obtain rfl := (List.cons.inj hs).1
    cases hc
  | array hi => exact ⟨_, rfl, hi⟩

theorem Spells.eq_object {v : Value} (h : Spells ('\x7b' :: s) v) :
    ∃ ms, v = .object ms ∧ Members true s ms := by
  cases h with
  | positive hn =>
    obtain ⟨c, t, hs, hc⟩ := head_of_readNumber hn
    obtain rfl := (List.cons.inj hs).1
    cases hc
  | object hm => exact ⟨_, rfl, hm⟩

theorem delimited_of_cut {t : List Char} (h : Delimited t) (hp : Cut p t) : Delimited p := by
  obtain ⟨q, -, rfl⟩ := hp
  cases p with
  | nil => exact nofun
  | cons c p => exact h

theorem delimited_of_blanks {b : List Char} (hb : Blanks b) {c : Char}
    (hc : c = ',' ∨ c = ']' ∨ c = '\x7d') : Delimited (b ++ c :: s) := by
  cases b with
  | nil =>
    intro d hd
    obtain rfl : c = d := Option.some_inj.1 hd
    exact .inr hc
  | cons d b =>
    intro x hx
    obtain rfl : d = x := Option.some_inj.1 hx
    exact .inl (hb d List.mem_cons_self)

theorem Opener.delimited {o : List Char} (h : Opener false o) : Delimited (o ++ s) := by
  cases h with
  | next hb _ =>
    rw [List.append_assoc]
    exact delimited_of_blanks hb (.inl rfl)

theorem Items.delimited {vs : List Value} (h : Items false s vs) (e : List Char) :
    Delimited (s ++ e) := by
  cases h with
  | close hb =>
    rw [List.append_assoc]
    exact delimited_of_blanks hb (.inr (.inl rfl))
  | item ho _ _ =>
    rw [List.append_assoc]
    exact ho.delimited

theorem Members.delimited {ms : List (String × Value)} (h : Members false s ms) (e : List Char) :
    Delimited (s ++ e) := by
  cases h with
  | close hb =>
    rw [List.append_assoc]
    exact delimited_of_blanks hb (.inr (.inr rfl))
  | member ho _ _ _ _ _ =>
    rw [List.append_assoc]
    exact ho.delimited

end Heads

namespace Reader

variable {α β σ : Type}

/-- The text `s` is read as `a`. -/
def Reads (read : Reader α) (s : List Char) (a : α) : Prop :=
  ∀ b e, Blanks b → Delimited e → read.outcome (b ++ (s ++ e)) = .ok (a, e)

/-- A text that breaks off inside `s` is truncated. -/
def Breaks (read : Reader α) (s : List Char) : Prop :=
  ∀ b p, Blanks b → Cut p s → read.outcome (b ++ p) = .error .truncated

def Answers (read : Reader α) (v : Value) (a : α) : Prop :=
  ∀ s, Spells s v → Reads read s a ∧ (v.NumberFree → Breaks read s)

/-- The text `s` has an end of its own, so it is read as `a` whatever follows. -/
structure Takes (read : Reader α) (s : List Char) (a : α) (free : Prop) : Prop where
  reads : ∀ e, read.outcome (s ++ e) = .ok (a, e)
  breaks : free → ∀ p, Cut p s → read.outcome p = .error .truncated

/-- The members of an object, read one after the other, lead from one state to another. -/
inductive Folds (member : σ → String → Except Fault (Reader σ)) :
    σ → List (String × Value) → σ → Prop
  | nil {state : σ} : Folds member state [] state
  | cons {state next final : σ} {key : String} {v : Value} {ms : List (String × Value)}
      {read : Reader σ} : member state key = .ok read → Answers read v next →
      Folds member next ms final → Folds member state ((key, v) :: ms) final

theorem Folds.append {member : σ → String → Except Fault (Reader σ)} {state next final : σ}
    {ms ms' : List (String × Value)} (h : Folds member state ms next)
    (h' : Folds member next ms' final) : Folds member state (ms ++ ms') final := by
  induction h with
  | nil => exact h'
  | cons hm ha _ ih => exact .cons hm ha (ih h')

section Parts

variable {read : Reader α} {v : Value} {a : α}

theorem Answers.outcome_of_cut (h : Answers read v a) (hfree : v.NumberFree) {b p s t : List Char}
    (hb : Blanks b) (hs : Spells s v) (ht : Delimited t) (hp : Cut p (b ++ (s ++ t))) :
    read.outcome p = .error .truncated ∨ ∃ p', Cut p' t ∧ read.outcome p = .ok (a, p') := by
  obtain ⟨hreads, hbreaks⟩ := h s hs
  obtain hcut | ⟨p₁, rfl, h₁⟩ := cut_append hp
  · obtain ⟨c, r, rfl, -⟩ := hs.head
    have hnil : Cut [] (c :: r) := ⟨c :: r, List.cons_ne_nil _ _, rfl⟩
    have := hbreaks hfree p [] (blanks_of_cut hb hcut) hnil
    rw [List.append_nil] at this
    exact .inl this
  obtain hcut | ⟨p₂, rfl, h₂⟩ := cut_append h₁
  · exact .inl (hbreaks hfree b p₁ hb hcut)
  · exact .inr ⟨p₂, h₂, hreads b p₂ hb (delimited_of_cut ht h₂)⟩

theorem Answers.of_head {read' : Reader α} (h : Answers read v a)
    (heq : ∀ c r s, Spells (c :: r) v → (∀ d ∈ (skipBlanks s).head?, d = c) →
      read'.outcome s = read.outcome s) : Answers read' v a := by
  intro s hs
  obtain ⟨hreads, hbreaks⟩ := h s hs
  obtain ⟨c, r, rfl, hc, -⟩ := hs.head
  refine ⟨fun b e hb he ↦ ?_, fun hfree b p hb hp ↦ ?_⟩
  · rw [heq c r _ hs]
    · exact hreads b e hb he
    · rw [skipBlanks_append hb, List.cons_append, skipBlanks_cons hc]
      exact fun d hd ↦ (Option.some_inj.1 hd).symm
  · rw [heq c r _ hs]
    · exact hbreaks hfree b p hb hp
    · obtain rfl | ⟨p', rfl, -⟩ := cut_cons hp
      · rw [List.append_nil, skipBlanks_eq_nil hb]
        exact nofun
      · rw [skipBlanks_append hb, skipBlanks_cons hc]
        exact fun d hd ↦ (Option.some_inj.1 hd).symm

theorem Answers.accept (h : Answers read v a) {f : α → Option β} {x : β} (hf : f a = some x) :
    Answers (read.accept f) v x := by
  intro s hs
  obtain ⟨hreads, hbreaks⟩ := h s hs
  refine ⟨fun b e hb he ↦ ?_, fun hfree b p hb hp ↦ ?_⟩
  · rw [outcome_accept, hreads b e hb he, Outcome.bind_ok, hf]
  · rw [outcome_accept, hbreaks hfree b p hb hp]
    rfl

theorem Answers.map (h : Answers read v a) (f : α → β) : Answers (read.map f) v (f a) :=
  h.accept rfl

theorem Takes.outcome_after {s : List Char} {free : Prop} (h : Takes read s a free) {opener : Char}
    (ho : isBlank opener = false) {b : List Char} (hb : Blanks b) (e : List Char) :
    (after opener read).outcome (b ++ (opener :: s ++ e)) = .ok (a, e) := by
  rw [Reader.outcome_after, skipBlanks_append hb, List.cons_append, skipBlanks_cons ho]
  simp only [if_true, h.reads e]

theorem Takes.breaks_after {s : List Char} {free : Prop} (h : Takes read s a free) {opener : Char}
    (ho : isBlank opener = false) (hfree : free) : Breaks (after opener read) (opener :: s) := by
  intro b p hb hp
  obtain rfl | ⟨p', rfl, hp'⟩ := cut_cons hp
  · rw [Reader.outcome_after, List.append_nil, skipBlanks_eq_nil hb]
  · rw [Reader.outcome_after, skipBlanks_append hb, skipBlanks_cons ho]
    simp only [if_true, h.breaks hfree p' hp']

end Parts

section Arrays

variable {item : Reader α} {vs : List Value} {as : List α}

theorem takes_itemsOf (h : List.Forall₂ (Answers item) vs as) {first : Bool} {s : List Char}
    (hs : Items first s vs) : Takes (itemsOf item first) s as (NumberFreeItems vs) := by
  induction h generalizing first s with
  | nil =>
    cases hs with
    | @close _ b hb =>
      refine ⟨fun e ↦ ?_, fun _ p hp ↦ ?_⟩
      · rw [outcome_itemsOf, List.append_assoc, List.singleton_append, outcome_nextItem_close hb]
        rfl
      · have hu : Unopened first p := .inl (blanks_of_cut_close hb hp)
        rw [outcome_itemsOf, hu.outcome_nextItem]
        rfl
  | @cons v a vs as ha _ ih =>
    cases hs with
    | @item _ o s t _ _ ho hv ht =>
      have hrest := ih ht
      obtain ⟨c, s, rfl, hblank, hc⟩ := hv.head
      refine ⟨fun e ↦ ?_, fun hfree p hp ↦ ?_⟩
      · have hr : item.outcome (c :: s ++ (t ++ e)) = .ok (a, t ++ e) :=
          (ha _ hv).1 [] (t ++ e) blanks_nil (ht.delimited e)
        rw [outcome_itemsOf, List.append_assoc, List.append_assoc, List.cons_append,
          outcome_nextItem_open ho hblank hc]
        simp only [Outcome.bind_ok, if_true, ← List.cons_append, hr, hrest.reads e, Outcome.map_ok]
      -- The text ends before the item, inside of it, or after it.
      · obtain hu | ⟨p', rfl, hne, hp'⟩ := ho.cut hp
        · rw [outcome_itemsOf, hu.outcome_nextItem]
          rfl
        have ht' : Delimited t := by simpa using ht.delimited []
        have hi := ha.outcome_of_cut hfree.1 blanks_nil hv ht' hp'
        obtain rfl | ⟨p', rfl, -⟩ := cut_cons hp'
        · exact absurd rfl hne
        rw [outcome_itemsOf, outcome_nextItem_open ho hblank hc, Outcome.bind_ok, if_pos rfl]
        obtain hi | ⟨p'', hcut, hi⟩ := hi
        · rw [hi]
          rfl
        · rw [hi, Outcome.bind_ok, hrest.breaks hfree.2 p'' hcut]
          rfl

theorem answers_array (h : List.Forall₂ (Answers item) vs as) :
    Answers (array item) (.array vs) as := by
  intro s hs
  cases hs with
  | array hi =>
    have ht := takes_itemsOf h hi
    exact ⟨fun b e hb _ ↦ ht.outcome_after rfl hb e, ht.breaks_after rfl⟩

end Arrays

section Objects

variable {member : σ → String → Except Fault (Reader σ)} {state final : σ}

theorem outcome_colon_append {b r : List Char} (hb : Blanks b) :
    colon.outcome (b ++ ':' :: r) = .ok ((), r) := by
  rw [outcome_colon, skipBlanks_append hb, skipBlanks_cons rfl]
  rfl

theorem outcome_colon_blanks {b : List Char} (hb : Blanks b) :
    colon.outcome b = .error .truncated := by
  rw [outcome_colon, skipBlanks_eq_nil hb]

theorem outcome_membersFrom_open {first : Bool} {o k cs r : List Char} (ho : Opener first o)
    (hk : StringText k cs) {read : Reader σ} (hm : member state (String.ofList cs) = .ok read) :
    outcome (membersFrom (stringBody .keep) member first state) (o ++ '"' :: (k ++ r)) =
      (colon.outcome r).bind fun _ r ↦ (read.outcome r).bind fun state r ↦
        outcome (membersFrom (stringBody .keep) member false state) r := by
  rw [outcome_membersFrom, outcome_nextMember_open ho, Outcome.bind_ok, if_pos rfl,
    outcome_stringBody, hk.readString_append, Outcome.map_ok, Outcome.bind_ok, hm]

theorem takes_membersFrom {ms : List (String × Value)} (h : Folds member state ms final)
    {first : Bool} {s : List Char} (hs : Members first s ms) :
    Takes (membersFrom (stringBody .keep) member first state) s final (NumberFreeMembers ms) := by
  induction h generalizing first s with
  | nil =>
    cases hs with
    | @close _ b hb =>
      refine ⟨fun e ↦ ?_, fun _ p hp ↦ ?_⟩
      · rw [outcome_membersFrom, List.append_assoc, List.singleton_append,
          outcome_nextMember_close hb]
        rfl
      · have hu : Unopened first p := .inl (blanks_of_cut_close hb hp)
        rw [outcome_membersFrom, hu.outcome_nextMember]
        rfl
  | @cons state next final key v ms read hm ha _ ih =>
    cases hs with
    | @member _ o k cs b b' w t _ _ ho hk hb hb' hv ht =>
      have hrest := ih ht
      refine ⟨fun e ↦ ?_, fun hfree p hp ↦ ?_⟩
      · have hr : read.outcome (b' ++ (w ++ (t ++ e))) = .ok (next, t ++ e) :=
          (ha _ hv).1 b' (t ++ e) hb' (ht.delimited e)
        simp only [List.append_assoc, List.cons_append]
        rw [outcome_membersFrom_open ho hk hm, outcome_colon_append hb, Outcome.bind_ok, hr,
          Outcome.bind_ok, hrest.reads e]
      -- The text ends before the key, in it, before or after the colon, in the value, or after it.
      · obtain hu | ⟨p₁, rfl, hne, h₁⟩ := ho.cut hp
        · rw [outcome_membersFrom, hu.outcome_nextMember]
          rfl
        obtain rfl | ⟨p₂, rfl, h₂⟩ := cut_cons h₁
        · exact absurd rfl hne
        obtain hcut | ⟨p₃, rfl, h₃⟩ := cut_append h₂
        · rw [outcome_membersFrom, outcome_nextMember_open ho, Outcome.bind_ok, if_pos rfl,
            outcome_stringBody, hk.readString_cut hcut]
          rfl
        rw [outcome_membersFrom_open ho hk hm]
        obtain hcut | ⟨p₄, rfl, h₄⟩ := cut_append h₃
        · rw [outcome_colon_blanks (blanks_of_cut hb hcut)]
          rfl
        obtain rfl | ⟨p₅, rfl, h₅⟩ := cut_cons h₄
        · rw [List.append_nil, outcome_colon_blanks hb]
          rfl
        rw [outcome_colon_append hb, Outcome.bind_ok]
        have ht' : Delimited t := by simpa using ht.delimited []
        obtain hi | ⟨p₆, hcut, hi⟩ := ha.outcome_of_cut hfree.1 hb' hv ht' h₅
        · rw [hi]
          rfl
        · rw [hi, Outcome.bind_ok, hrest.breaks hfree.2 p₆ hcut]

theorem answers_object {ms : List (String × Value)} (h : Folds member state ms final) :
    Answers (object (stringBody .keep) member state) (.object ms) final := by
  intro s hs
  cases hs with
  | object hm =>
    have ht := takes_membersFrom h hm
    exact ⟨fun b e hb _ ↦ ht.outcome_after rfl hb e, ht.breaks_after rfl⟩

end Objects

section Words

theorem reads_scalar {c : Char} {r : List Char} {v : Value} {free : Prop}
    (hblank : isBlank c = false) (hopen : (c = '[' || c = '\x7b') = false)
    (hr : ∀ e, Delimited e → readWord c (r ++ e) = .ok (v, e))
    (hp : free → ∀ p, Cut p r → readWord c p = .error .truncated) :
    Reads scalar (c :: r) v ∧ (free → Breaks scalar (c :: r)) := by
  refine ⟨fun b e hb he ↦ ?_, fun hfree b p hb hcut ↦ ?_⟩
  · rw [outcome_scalar, skipBlanks_append hb, List.cons_append, skipBlanks_cons hblank]
    simp only [hopen, Bool.false_eq_true, if_false, hr e he]
  · obtain rfl | ⟨p', rfl, h'⟩ := cut_cons hcut
    · rw [outcome_scalar, List.append_nil, skipBlanks_eq_nil hb]
    · rw [outcome_scalar, skipBlanks_append hb, skipBlanks_cons hblank]
      simp only [hopen, Bool.false_eq_true, if_false, hp hfree p' h']

theorem readWord_of_isDigit {c : Char} (hc : c.isDigit = true) (r : List Char) :
    readWord c r = Outcome.map .number (readNumber .keep false (c :: r)) := by
  fun_cases readWord c r <;> simp_all

theorem reads_literal {c : Char} {word : List Char} {v : Value} {free : Prop}
    (hblank : isBlank c = false) (hopen : (c = '[' || c = '\x7b') = false)
    (h : ∀ r, readWord c r = (readLiteral word r).map (v, ·)) :
    Reads scalar (c :: word) v ∧ (free → Breaks scalar (c :: word)) := by
  refine reads_scalar hblank hopen (fun e _ ↦ ?_) fun _ p hp ↦ ?_
  · rw [h, readLiteral_append]
    rfl
  · rw [h, readLiteral_cut hp]
    rfl

theorem readNumber_append {negative : Bool} {s e : List Char} {n : Number}
    (h : readNumber .keep negative s = .ok (n, [])) (he : EndsNumber e) :
    readNumber .keep negative (s ++ e) = .ok (n, e) := by
  obtain ⟨w, hw, hlocal⟩ := readNumber_local h
  rw [List.append_nil] at hw
  rw [hw]
  exact hlocal e he

theorem readWord_of_spells {c : Char} {r e : List Char} {n : Number}
    (h : Spells (c :: r) (.number n)) (he : EndsNumber e) :
    readWord c (r ++ e) = .ok (.number n, e) := by
  cases h with
  | positive hn =>
    obtain ⟨d, t, hs, hd⟩ := head_of_readNumber hn
    obtain ⟨rfl, rfl⟩ := List.cons.inj hs
    rw [readWord_of_isDigit hd, ← List.cons_append, readNumber_append hn he]
    rfl
  | negative hn => simp [readWord, readNumber_append hn he]

/-- Where a number ends is only known from what follows it, and the end of a text ends it too. -/
theorem answers_scalar {v : Value} (harray : ∀ vs, v ≠ .array vs) (hobject : ∀ ms, v ≠ .object ms) :
    Answers scalar v v := by
  intro s hs
  cases hs with
  | null | yes | no => exact reads_literal rfl rfl fun r ↦ rfl
  | @positive s n hn =>
    obtain ⟨c, r, rfl, hc⟩ := head_of_readNumber hn
    have hopen : (c = '[' || c = '\x7b') = false := by
      simp only [Bool.or_eq_false_iff, decide_eq_false_iff_not]
      constructor <;> rintro rfl <;> cases hc
    have hword (e : List Char) (he : Delimited e) := readWord_of_spells (.positive hn) he.endsNumber
    exact reads_scalar (isBlank_of_isDigit hc) hopen hword fun hfree ↦ hfree.elim
  | @negative s n hn =>
    have hword (e : List Char) (he : Delimited e) := readWord_of_spells (.negative hn) he.endsNumber
    exact reads_scalar rfl rfl hword fun hfree ↦ hfree.elim
  | string hk =>
    refine reads_scalar rfl rfl (fun e _ ↦ ?_) fun _ p hp ↦ ?_
    · simp [readWord, hk.readString_append]
    · simp [readWord, hk.readString_cut hp]
  | array _ => exact absurd rfl (harray _)
  | object _ => exact absurd rfl (hobject _)

theorem answers_string (text : String) : Answers string (.string text) text :=
  (answers_scalar (by simp) (by simp)).accept rfl

end Words

section Values

theorem answers_value_of_scalar {v : Value} (harray : ∀ vs, v ≠ .array vs)
    (hobject : ∀ ms, v ≠ .object ms) : Answers (value .keep) v v := by
  refine (answers_scalar harray hobject).of_head fun c r s hs hhead ↦ ?_
  have hopen : c ≠ '[' ∧ c ≠ '\x7b' := by
    refine ⟨?_, ?_⟩ <;> rintro rfl
    · obtain ⟨vs, rfl, -⟩ := hs.eq_array
      exact harray vs rfl
    · obtain ⟨ms, rfl, -⟩ := hs.eq_object
      exact hobject ms rfl
  rw [outcome_value, outcome_scalar]
  cases hb : skipBlanks s with
  | nil => rfl
  | cons d t =>
    rw [hb] at hhead
    obtain rfl : d = c := hhead d rfl
    simp_all

mutual

theorem answers_value (v : Value) : Answers (value .keep) v v := by
  match v with
  | .array vs =>
    have hall := (answers_array (forall₂_answers_value vs)).map Value.array
    refine hall.of_head fun c r s hs hhead ↦ ?_
    cases hs
    rw [outcome_value, outcome_map, array, outcome_after]
    cases hb : skipBlanks s with
    | nil => rfl
    | cons d t =>
      rw [hb] at hhead
      obtain rfl := hhead d rfl
      rfl
  | .object ms =>
    refine ((answers_object (folds_collect ms [])).map Value.object).of_head fun c r s hs hhead ↦ ?_
    cases hs
    rw [outcome_value, outcome_map, object, outcome_after]
    cases hb : skipBlanks s with
    | nil => rfl
    | cons d t =>
      rw [hb] at hhead
      obtain rfl := hhead d rfl
      simp only [if_true, outcome_membersFrom_collect, Outcome.map_map]
      rfl
  | .null | .bool _ | .number _ | .string _ => exact answers_value_of_scalar (by simp) (by simp)

theorem forall₂_answers_value (vs : List Value) :
    List.Forall₂ (Answers (value .keep)) vs vs := by
  match vs with
  | [] => exact .nil
  | v :: rest => exact .cons (answers_value v) (forall₂_answers_value rest)

theorem folds_collect (ms read : List (String × Value)) :
    Folds (collect .keep) read ms (read ++ ms) := by
  match ms with
  | [] =>
    rw [List.append_nil]
    exact .nil
  | (key, v) :: rest =>
    have hrest := folds_collect rest (read ++ [(key, v)])
    rw [List.append_assoc, List.singleton_append] at hrest
    exact .cons rfl ((answers_value v).map _) hrest

end

end Values

end Reader

end WikiStream.Json
