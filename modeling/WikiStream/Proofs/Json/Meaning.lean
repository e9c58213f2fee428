import WikiStream.Proofs.Json.Reading

namespace WikiStream.Json

section Words

variable {b o s t w : List Char} {first : Bool}

theorem exists_blanks (s : List Char) : ∃ b, Blanks b ∧ s = b ++ skipBlanks s :=
  ⟨s.takeWhile isBlank, fun _ hc ↦ List.mem_takeWhile_imp hc,
    List.takeWhile_append_dropWhile.symm⟩

theorem exists_blanks_of_cons {c : Char} {r : List Char} (h : skipBlanks s = c :: r) :
    ∃ b, Blanks b ∧ s = b ++ c :: r := by
  obtain ⟨b, hb, hs⟩ := exists_blanks s
  rw [h] at hs
  exact ⟨b, hb, hs⟩

theorem Blanks.append (hb : Blanks b) (hs : Blanks s) : Blanks (b ++ s) := fun c hc ↦
  (List.mem_append.1 hc).elim (hb c) (hs c)

theorem Opener.append (ho : Opener first o) (hb : Blanks b) : Opener first (o ++ b) := by
  cases ho with
  | first ha => exact .first (ha.append hb)
  | next ha ha' =>
    rw [List.append_assoc, List.cons_append]
    exact .next ha (ha'.append hb)

theorem eq_append_of_readLiteral {word : List Char} (h : readLiteral word s = .ok t) :
    s = word ++ t := by
  induction word generalizing s with
  | nil => exact Except.ok.inj h
  | cons c word ih =>
    cases s with
    | nil => cases h
    | cons d s =>
      rw [readLiteral] at h
      split at h
      · rename_i hc
        rw [hc, ih h, List.cons_append]
      · cases h

theorem spells_of_readWord {c : Char} {r : List Char} {v : Value}
    (h : readWord c r = .ok (v, t)) : ∃ w, Spells (c :: w) v ∧ r = w ++ t := by
  have hliteral {word : String} {u : Value}
      (hu : (readLiteral word.toList r).map (u, ·) = .ok (v, t)) :
      u = v ∧ r = word.toList ++ t := by
    cases hr : readLiteral word.toList r with
    | error fault =>
      rw [hr] at hu
      cases hu
    | ok t' =>
      rw [hr] at hu
      obtain ⟨rfl, rfl⟩ := Prod.mk.inj (Except.ok.inj hu)
      exact ⟨rfl, eq_append_of_readLiteral hr⟩
  have hnumber {negative : Bool} {s : List Char}
      (hv : Outcome.map Value.number (readNumber .keep negative s) = .ok (v, t)) :
      ∃ n w, v = .number n ∧ s = w ++ t ∧ readNumber .keep negative w = .ok (n, []) := by
    obtain ⟨n, hn, rfl⟩ := Outcome.eq_ok_of_map hv
    obtain ⟨w, rfl, hlocal⟩ := readNumber_local hn
    have hw := hlocal [] nofun
    rw [List.append_nil] at hw
    exact ⟨n, w, rfl, rfl, hw⟩
  revert h
  fun_cases readWord c r with
  | case1 hc =>
    intro h
    obtain ⟨rfl, rfl⟩ := hliteral h
    rw [hc]
    exact ⟨_, .null, rfl⟩
  | case2 _ hc =>
    intro h
    obtain ⟨rfl, rfl⟩ := hliteral h
    rw [hc]
    exact ⟨_, .yes, rfl⟩
  | case3 _ _ hc =>
    intro h
    obtain ⟨rfl, rfl⟩ := hliteral h
    rw [hc]
    exact ⟨_, .no, rfl⟩
  | case4 _ _ _ hc =>
    intro h
    obtain ⟨cs, hs, rfl⟩ := Outcome.eq_ok_of_map h
    obtain ⟨k, rfl, hk⟩ := stringText_of_readString hs
    rw [hc]
    exact ⟨k, .string hk, rfl⟩
  | case5 _ _ _ _ hc =>
    intro h
    obtain ⟨n, w, rfl, rfl, hn⟩ := hnumber h
    rw [hc]
    exact ⟨w, .negative hn, rfl⟩
  | case6 =>
    intro h
    obtain ⟨n, w, rfl, hw, hn⟩ := hnumber h
    obtain ⟨d, w, rfl, -⟩ := head_of_readNumber hn
    obtain ⟨rfl, rfl⟩ := List.cons.inj hw
    exact ⟨w, .positive hn, rfl⟩
  | case7 =>
    intro h
    cases h

theorem of_nextItem {more : Bool} (h : Next.outcome (nextItem first s) = .ok (more, t)) :
    (more = false ∧ ∃ b, Blanks b ∧ s = b ++ ']' :: t) ∨
      (more = true ∧ ∃ o, Opener first o ∧ s = o ++ t) := by
  rw [outcome_nextItem] at h
  cases hs : skipBlanks s with
  | nil =>
    rw [hs] at h
    cases h
  | cons c r =>
    obtain ⟨b, hb, rfl⟩ := exists_blanks_of_cons hs
    simp only [hs] at h
    split_ifs at h with hclose hfirst hcomma
    · obtain ⟨rfl, rfl⟩ := Prod.mk.inj (Except.ok.inj h)
      rw [hclose]
      exact .inl ⟨rfl, b, hb, rfl⟩
    · obtain ⟨rfl, rfl⟩ := Prod.mk.inj (Except.ok.inj h)
      rw [hfirst]
      exact .inr ⟨rfl, b, .first hb, rfl⟩
    · cases hr : skipBlanks r with
      | nil =>
        rw [hr] at h
        cases h
      | cons d u =>
        obtain ⟨b', hb', rfl⟩ := exists_blanks_of_cons hr
        simp only [hr] at h
        split_ifs at h
        obtain ⟨rfl, rfl⟩ := Prod.mk.inj (Except.ok.inj h)
        refine .inr ⟨rfl, b ++ ',' :: b', ?_, by rw [hcomma, List.append_assoc, List.cons_append]⟩
        rw [Bool.eq_false_iff.2 hfirst]
        exact .next hb hb'

theorem of_nextMember {more : Bool} (h : Next.outcome (nextMember first s) = .ok (more, t)) :
    (more = false ∧ ∃ b, Blanks b ∧ s = b ++ '\x7d' :: t) ∨
      (more = true ∧ ∃ o, Opener first o ∧ s = o ++ '"' :: t) := by
  rw [outcome_nextMember] at h
  cases hs : skipBlanks s with
  | nil =>
    rw [hs] at h
    cases h
  | cons c r =>
    obtain ⟨b, hb, rfl⟩ := exists_blanks_of_cons hs
    simp only [hs] at h
    split_ifs at h with hclose hfirst hquote hcomma
    · obtain ⟨rfl, rfl⟩ := Prod.mk.inj (Except.ok.inj h)
      rw [hclose]
      exact .inl ⟨rfl, b, hb, rfl⟩
    · obtain ⟨rfl, rfl⟩ := Prod.mk.inj (Except.ok.inj h)
      rw [hfirst, hquote]
      exact .inr ⟨rfl, b, .first hb, rfl⟩
    · cases hr : skipBlanks r with
      | nil =>
        rw [hr] at h
        cases h
      | cons d u =>
        obtain ⟨b', hb', rfl⟩ := exists_blanks_of_cons hr
        simp only [hr] at h
        split_ifs at h with hquote
        obtain ⟨rfl, rfl⟩ := Prod.mk.inj (Except.ok.inj h)
        refine .inr ⟨rfl, b ++ ',' :: b', ?_, ?_⟩
        · rw [Bool.eq_false_iff.2 hfirst]
          exact .next hb hb'
        · rw [hcomma, hquote, List.append_assoc, List.cons_append]

theorem of_colon (h : Reader.outcome colon s = .ok ((), t)) :
    ∃ b, Blanks b ∧ s = b ++ ':' :: t := by
  rw [Reader.outcome_colon] at h
  cases hs : skipBlanks s with
  | nil =>
    rw [hs] at h
    cases h
  | cons c r =>
    obtain ⟨b, hb, rfl⟩ := exists_blanks_of_cons hs
    simp only [hs] at h
    split_ifs at h with hc
    obtain ⟨-, rfl⟩ := Prod.mk.inj (Except.ok.inj h)
    exact ⟨b, hb, by rw [hc]⟩

end Words

namespace Reader

/-- Every value that is read from a text that is shorter than `n` has been spelled there. -/
def SpelledBelow (n : Nat) : Prop :=
  ∀ s v r, s.length < n → outcome (value .keep) s = .ok (v, r) →
    ∃ b w, Blanks b ∧ Spells w v ∧ s = b ++ (w ++ r)

variable {n : Nat} {first : Bool} {s r : List Char}

theorem SpelledBelow.items (h : SpelledBelow n) {vs : List Value} (hn : s.length < n)
    (hs : outcome (itemsOf (value .keep) first) s = .ok (vs, r)) :
    ∃ w, Items first w vs ∧ s = w ++ r := by
  induction hlen : s.length using Nat.strongRecOn generalizing s first vs with
  | ind m ih =>
    rw [outcome_itemsOf] at hs
    obtain ⟨more, t, hnext, h₁⟩ := Outcome.eq_ok_of_bind hs
    obtain ⟨rfl, b, hb, rfl⟩ | ⟨rfl, o, ho, rfl⟩ := of_nextItem hnext
    · obtain ⟨rfl, rfl⟩ := Prod.mk.inj (Except.ok.inj h₁)
      exact ⟨b ++ [']'], .close hb, by rw [List.append_assoc, List.singleton_append]⟩
    · rw [if_pos rfl] at h₁
      obtain ⟨v, u, hv, h₂⟩ := Outcome.eq_ok_of_bind h₁
      obtain ⟨vs, hrest, rfl⟩ := Outcome.eq_ok_of_map h₂
      have ht : t.length ≤ (o ++ t).length := by simp
      have hu : u.length < t.length := length_of_outcome _ _ hv
      obtain ⟨b, w, hb, hw, rfl⟩ := h t v u (by omega) hv
      obtain ⟨x, hx, rfl⟩ := ih u.length (by omega) (by omega) hrest rfl
      exact ⟨(o ++ b) ++ (w ++ x), .item (ho.append hb) hw hx, by simp only [List.append_assoc]⟩

theorem members_of_outcome {α σ : Type} {item : Reader α} {toValue : α → Value}
    {put : σ → String → α → σ} {state out : σ}
    (h : ∀ s a r, s.length < n → outcome item s = .ok (a, r) →
      ∃ b w, Blanks b ∧ Spells w (toValue a) ∧ s = b ++ (w ++ r))
    (hn : s.length < n)
    (hs : outcome (membersFrom (stringBody .keep) (fun state key ↦ .ok (map (put state key) item))
      first state) s = .ok (out, r)) :
    ∃ (w : List Char) (pairs : List (String × α)),
      out = pairs.foldl (fun state p ↦ put state p.1 p.2) state ∧
      Members first w (pairs.map fun p ↦ (p.1, toValue p.2)) ∧ s = w ++ r := by
  induction hlen : s.length using Nat.strongRecOn generalizing s first state with
  | ind m ih =>
    rw [outcome_membersFrom] at hs
    obtain ⟨more, t, hnext, h₁⟩ := Outcome.eq_ok_of_bind hs
    obtain ⟨rfl, b, hb, rfl⟩ | ⟨rfl, o, ho, rfl⟩ := of_nextMember hnext
    · obtain ⟨rfl, rfl⟩ := Prod.mk.inj (Except.ok.inj h₁)
      exact ⟨b ++ ['\x7d'], [], rfl, .close hb,
        by rw [List.append_assoc, List.singleton_append]⟩
    · rw [if_pos rfl] at h₁
      obtain ⟨key, k, hkey, h₂⟩ := Outcome.eq_ok_of_bind h₁
      rw [outcome_stringBody] at hkey
      obtain ⟨cs, hcs, rfl⟩ := Outcome.eq_ok_of_map hkey
      obtain ⟨q, rfl, hq⟩ := stringText_of_readString hcs
      obtain ⟨_, u, hcolon, h₃⟩ := Outcome.eq_ok_of_bind h₂
      obtain ⟨b, hb, rfl⟩ := of_colon hcolon
      obtain ⟨next, x, hread, h₄⟩ := Outcome.eq_ok_of_bind h₃
      rw [outcome_map] at hread
      obtain ⟨a, ha, rfl⟩ := Outcome.eq_ok_of_map hread
      have hx : x.length < u.length := length_of_outcome _ _ ha
      simp only [List.length_append, List.length_cons] at hn hlen
      obtain ⟨b', w, hb', hw, rfl⟩ := h u a x (by omega) ha
      obtain ⟨y, pairs, rfl, hy, rfl⟩ := ih x.length (by omega) (by omega) h₄ rfl
      refine ⟨_, (String.ofList cs, a) :: pairs, rfl, .member ho hq hb hb' hw hy, ?_⟩
      simp only [List.append_assoc, List.cons_append]

theorem SpelledBelow.members (h : SpelledBelow n) {ms out : List (String × Value)}
    (hn : s.length < n)
    (hs : outcome (membersFrom (stringBody .keep) (collect .keep) first ms) s = .ok (out, r)) :
    ∃ w new, out = ms ++ new ∧ Members first w new ∧ s = w ++ r := by
  obtain ⟨w, new, rfl, hw, rfl⟩ := members_of_outcome h hn hs
  have hmap : new.map (fun p ↦ (p.1, p.2)) = new := List.map_id' new
  refine ⟨w, new, ?_, hmap ▸ hw, rfl⟩
  clear hw hmap hs
  induction new generalizing ms with
  | nil => exact (List.append_nil ms).symm
  | cons p new ih => rw [List.foldl_cons, ih, List.append_assoc, List.singleton_append]

theorem spelledBelow (n : Nat) : SpelledBelow n := by
  induction n with
  | zero => exact fun s v r hn _ ↦ absurd hn (Nat.not_lt_zero _)
  | succ n ih =>
    intro s v r hn hs
    rw [outcome_value] at hs
    cases hb : skipBlanks s with
    | nil =>
      rw [hb] at hs
      cases hs
    | cons c t =>
      obtain ⟨b, hblanks, rfl⟩ := exists_blanks_of_cons hb
      simp only [hb] at hs
      have ht : t.length < n := by
        simp only [List.length_append, List.length_cons] at hn
        omega
      -- What is inside of an array or an object starts after the first letter, so it is below `n`.
      split_ifs at hs with harray hobject
      · obtain ⟨vs, hvs, rfl⟩ := Outcome.eq_ok_of_map hs
        obtain ⟨w, hw, rfl⟩ := ih.items ht hvs
        exact ⟨b, '[' :: w, hblanks, .array hw, by rw [harray, List.cons_append]⟩
      · obtain ⟨ms, hms, rfl⟩ := Outcome.eq_ok_of_map hs
        have hcollect := outcome_membersFrom_collect t .keep true []
        rw [hms, Outcome.map_ok] at hcollect
        obtain ⟨w, new, hnew, hw, rfl⟩ := ih.members ht hcollect
        obtain rfl : ms = new := by simpa using hnew
        exact ⟨b, '\x7b' :: w, hblanks, .object hw, by rw [hobject, List.cons_append]⟩
      · obtain ⟨w, hw, rfl⟩ := spells_of_readWord hs
        exact ⟨b, c :: w, hblanks, hw, by rw [List.cons_append]⟩

/-- The whole texts that a reader takes are the texts of the values that it answers, if it has read
nothing but such a value. -/
theorem run_eq_ok_iff {α : Type} {read : Reader α} (means : α → Value → Prop)
    (hspelled : ∀ s a r, outcome read s = .ok (a, r) →
      ∃ v b w, means a v ∧ Blanks b ∧ Spells w v ∧ s = b ++ (w ++ r))
    (hanswers : ∀ a v, means a v → Answers read v a) (text : String) (a : α) :
    run read text = .ok a ↔ ∃ v, means a v ∧ Denotes text.toList v := by
  rw [run_eq]
  constructor
  · intro h
    cases hs : outcome read text.toList with
    | error fault =>
      rw [hs] at h
      cases h
    | ok p =>
      obtain ⟨a', r⟩ := p
      simp only [hs] at h
      split_ifs at h with hr
      obtain rfl := Except.ok.inj h
      obtain ⟨v, b, s, hv, hb, hw, htext⟩ := hspelled _ _ _ hs
      obtain ⟨b', hb', hblanks⟩ := exists_blanks r
      rw [hr, List.append_nil] at hblanks
      exact ⟨v, hv, b, s, r, hb, hw, hblanks ▸ hb', htext⟩
  · rintro ⟨v, hv, b, w, b', hb, hw, hb', htext⟩
    have hend : Delimited b' := by
      intro c hc
      exact .inl (hb' c (List.mem_of_mem_head? hc))
    simp only [htext, (hanswers a v hv w hw).1 b b' hb hend, skipBlanks_eq_nil hb', if_true]

theorem run_any_eq_ok_iff (text : String) (v : Value) :
    run any text = .ok v ↔ Denotes text.toList v := by
  rw [any, run_eq_ok_iff Eq]
  · exact exists_eq_left'
  · intro s v r hs
    obtain ⟨b, w, hb, hw, rfl⟩ := spelledBelow _ s v r (Nat.lt_succ_self _) hs
    exact ⟨v, b, w, rfl, hb, hw, rfl⟩
  · rintro v _ rfl
    exact answers_value v

end Reader

theorem Denotes.unique {text : String} {v w : Value} (hv : Denotes text.toList v)
    (hw : Denotes text.toList w) : v = w := by
  rw [← Reader.run_any_eq_ok_iff] at hv hw
  rw [hv] at hw
  exact Except.ok.inj hw

end WikiStream.Json
