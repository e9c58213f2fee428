import WikiStream.Event

namespace WikiStream.Event

/-- Single events and pairs around streams, where `fits` says which closing events end the pair of
an opening event. -/
inductive Paired (fits : Opening → Construct → Prop) : List Event → Prop
  | nil : Paired fits []
  | single (s : Single) {rest : List Event} : Paired fits rest → Paired fits (.single s :: rest)
  | pair {o : Opening} {k : Construct} {inside rest : List Event} : fits o k → Paired fits inside →
      Paired fits rest → Paired fits (.opening o :: (inside ++ .closing k :: rest))

abbrev SameName (o : Opening) (k : Construct) : Prop := o.construct.name = k.name

/-- The pair grammar of the nesting check. -/
abbrev WellPaired : List Event → Prop := Paired SameName

namespace Paired

variable {fits : Opening → Construct → Prop} {a b : List Event}

theorem append (ha : Paired fits a) (hb : Paired fits b) : Paired fits (a ++ b) := by
  induction ha with
  | nil => exact hb
  | single s _ ih => exact .single s ih
  | pair hok hi _ _ ih =>
    simp only [List.cons_append, List.append_assoc]
    exact .pair hok hi ih

/-- There is one place where a paired stream can stop in front of a closing event. -/
theorem append_closing_inj (ha : Paired fits a) (hb : Paired fits b) {k l : Construct}
    {x y : List Event} (h : a ++ .closing k :: x = b ++ .closing l :: y) :
    a = b ∧ k = l ∧ x = y := by
  induction ha generalizing b k l x y with
  | nil =>
    cases hb with
    | nil => simpa using h
    | single _ _ | pair _ _ _ => simp at h
  | single s _ ih =>
    cases hb with
    | nil | pair _ _ _ => simp at h
    | single t hb =>
      simp only [List.cons_append, List.cons.injEq, Event.single.injEq] at h
      obtain ⟨rfl, hrest⟩ := h
      obtain ⟨rfl, hkl, hxy⟩ := ih hb hrest
      exact ⟨rfl, hkl, hxy⟩
  | pair _ _ _ ihi ihr =>
    cases hb with
    | nil | single _ _ => simp at h
    | pair _ hi hr =>
      simp only [List.cons_append, List.append_assoc, List.cons.injEq, Event.opening.injEq] at h
      obtain ⟨rfl, hrest⟩ := h
      obtain ⟨rfl, rfl, hafter⟩ := ihi hi hrest
      obtain ⟨rfl, hkl, hxy⟩ := ihr hr hafter
      exact ⟨rfl, hkl, hxy⟩

theorem exists_closing {before after : List Event} {o : Opening}
    (h : Paired fits (before ++ .opening o :: after)) :
    ∃ inside k rest, after = inside ++ .closing k :: rest ∧ fits o k ∧ Paired fits inside := by
  generalize hs : before ++ .opening o :: after = s at h
  induction h generalizing before after with
  | nil => simp at hs
  | single t _ ih =>
    cases before with
    | nil => simp at hs
    | cons e before => exact ih (List.cons.inj hs).2
  | @pair o' k inside rest hok hi hr ihi ihr =>
    cases before with
    | nil =>
      simp only [List.nil_append, List.cons.injEq, Event.opening.injEq] at hs
      obtain ⟨rfl, rfl⟩ := hs
      exact ⟨inside, k, rest, rfl, hok, hi⟩
    | cons e before =>
      rcases List.append_eq_append_iff.1 (List.cons.inj hs).2 with ⟨t, ht, hafter⟩ | ⟨t, ht, hafter⟩
      · rcases t with _ | ⟨e, t⟩
        · simp at hafter
        · simp only [List.cons_append, List.cons.injEq] at hafter
          obtain ⟨rfl, rfl⟩ := hafter
          obtain ⟨within, l, last, rfl, hol, hw⟩ := ihi ht.symm
          exact ⟨within, l, last ++ .closing k :: rest, by simp, hol, hw⟩
      · rcases t with _ | ⟨e, t⟩
        · simp at hafter
        · simp only [List.cons_append, List.cons.injEq] at hafter
          exact ihr hafter.2.symm

theorem firstFault_append (h : WellPaired a) (pending : List String) (index : Nat)
    (rest : List Event) :
    firstFault pending index (a ++ rest) = firstFault pending (index + a.length) rest := by
  -- For any stack, since the inside of a pair is read with the pair on it.
  induction h generalizing pending index rest with
  | nil => rfl
  | single s _ ih =>
    rw [List.cons_append, firstFault, ih, List.length_cons, Nat.add_assoc, Nat.add_comm 1]
  | pair hok _ _ ihi ihr =>
    rw [List.cons_append, List.append_assoc, firstFault, ihi, List.cons_append, firstFault,
      if_pos hok, ihr]
    congr 1
    simp only [List.length_cons, List.length_append]
    omega

theorem nestingFault?_eq_none (h : WellPaired a) : nestingFault? a = none := by
  have hf := firstFault_append h [] 0 []
  rwa [List.append_nil] at hf

end Paired

def pair (o : Opening) (inside : List Event) : List Event :=
  .opening o :: (inside ++ [.closing o.construct])

def pairs (ps : List (Opening × List Event)) : List Event := ps.flatMap fun p ↦ pair p.1 p.2

/-- The stream opens a construct where no other construct of the stream is open. -/
def OpensDirectly (o : Opening) (events : List Event) : Prop :=
  ∃ before after, events = before ++ .opening o :: after ∧ WellPaired before

section

variable {o : Opening} {inside : List Event} {ps qs : List (Opening × List Event)}

theorem wellPaired_pair (h : WellPaired inside) : WellPaired (pair o inside) := .pair rfl h .nil

theorem pair_append_inj {o' : Opening} {other x y : List Event} (h : WellPaired inside)
    (h' : WellPaired other) (he : pair o inside ++ x = pair o' other ++ y) :
    o = o' ∧ inside = other ∧ x = y := by
  simp only [pair, List.cons_append, List.append_assoc, List.cons.injEq, Event.opening.injEq,
    List.nil_append] at he
  obtain ⟨ho, hrest⟩ := he
  obtain ⟨hinside, -, hxy⟩ := h.append_closing_inj h' hrest
  exact ⟨ho, hinside, hxy⟩

theorem pair_inj {o' : Opening} {other : List Event} (h : WellPaired inside)
    (h' : WellPaired other) (he : pair o inside = pair o' other) : o = o' ∧ inside = other := by
  obtain ⟨ho, hinside, -⟩ := pair_append_inj h h' (congrArg (· ++ []) he)
  exact ⟨ho, hinside⟩

theorem pairs_cons (p : Opening × List Event) (ps : List (Opening × List Event)) :
    pairs (p :: ps) = .opening p.1 :: (p.2 ++ .closing p.1.construct :: pairs ps) := by
  simp [pairs, pair]

theorem wellPaired_pairs (h : ∀ p ∈ ps, WellPaired p.2) : WellPaired (pairs ps) := by
  induction ps with
  | nil => exact .nil
  | cons p ps ih =>
    rw [List.forall_mem_cons] at h
    rw [pairs_cons]
    exact .pair rfl h.1 (ih h.2)

theorem pairs_inj (hp : ∀ p ∈ ps, WellPaired p.2) (hq : ∀ q ∈ qs, WellPaired q.2)
    (h : pairs ps = pairs qs) : ps = qs := by
  induction ps generalizing qs with
  | nil =>
    cases qs with
    | nil => rfl
    | cons q qs => simp [pairs, pair] at h
  | cons p ps ih =>
    cases qs with
    | nil => simp [pairs, pair] at h
    | cons q qs =>
      rw [List.forall_mem_cons] at hp hq
      obtain ⟨ho, hinside, hrest⟩ := pair_append_inj hp.1 hq.1 h
      rw [Prod.ext ho hinside, ih hp.2 hq.2 hrest]

theorem opensDirectly_pairs_iff (h : ∀ p ∈ ps, WellPaired p.2) :
    OpensDirectly o (pairs ps) ↔ o ∈ ps.map Prod.fst := by
  induction ps with
  | nil => simp [OpensDirectly, pairs]
  | cons p ps ih =>
    rw [List.forall_mem_cons] at h
    rw [List.map_cons, List.mem_cons, ← ih h.2, pairs_cons]
    constructor
    · rintro ⟨before, after, hevents, hbefore⟩
      cases hbefore with
      | nil =>
        simp only [List.nil_append, List.cons.injEq, Event.opening.injEq] at hevents
        exact .inl hevents.1.symm
      | single s _ => simp at hevents
      | pair _ hi hr =>
        simp only [List.cons_append, List.append_assoc, List.cons.injEq] at hevents
        obtain ⟨-, -, hrest⟩ := h.1.append_closing_inj hi hevents.2
        exact .inr ⟨_, after, hrest, hr⟩
    · rintro (rfl | ⟨before, after, hrest, hbefore⟩)
      · exact ⟨[], _, rfl, .nil⟩
      · refine ⟨.opening p.1 :: (p.2 ++ .closing p.1.construct :: before), after, ?_,
          .pair rfl h.1 hbefore⟩
        simp [hrest]

end

end WikiStream.Event
