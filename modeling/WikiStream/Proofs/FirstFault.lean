import WikiStream.Proofs.Pairing

namespace WikiStream.Event

/-- Whether something can come after the events that makes a stream of the pair grammar. -/
def Viable (events : List Event) : Prop := ∃ rest, WellPaired (events ++ rest)

/-- Streams in the pair grammar but for some constructs that are left open, innermost first. -/
inductive Leaves : List Opening → List Event → Prop
  | none {a : List Event} : WellPaired a → Leaves [] a
  | opened {pending : List Opening} {a b : List Event} (o : Opening) : Leaves pending a →
      WellPaired b → Leaves (o :: pending) (a ++ .opening o :: b)

theorem WellPaired.viable {a : List Event} (h : WellPaired a) : Viable a :=
  ⟨[], by rwa [List.append_nil]⟩

theorem Viable.of_append {a b : List Event} (h : Viable (a ++ b)) : Viable a := by
  obtain ⟨rest, hrest⟩ := h
  exact ⟨b ++ rest, by rwa [← List.append_assoc]⟩

theorem Viable.take {events : List Event} (h : Viable events) (n : Nat) : Viable (events.take n) :=
  Viable.of_append (b := events.drop n) (by rwa [List.take_append_drop])

namespace Leaves

variable {pending : List Opening} {a b : List Event} {o : Opening}

theorem append (h : Leaves pending a) (hb : WellPaired b) : Leaves pending (a ++ b) := by
  cases h with
  | none ha => exact .none (ha.append hb)
  | opened o ha hc =>
    rw [List.append_assoc, List.cons_append]
    exact .opened o ha (hc.append hb)

theorem close {k : Construct} (h : Leaves (o :: pending) a) (hk : SameName o k) :
    Leaves pending (a ++ [.closing k]) := by
  cases h with
  | opened o ha hb =>
    rw [List.append_assoc, List.cons_append]
    exact ha.append (.pair hk hb .nil)

theorem viable (h : Leaves pending a) : Viable a := by
  induction pending generalizing a with
  | nil =>
    cases h with
    | none ha => exact ha.viable
  | cons o pending ih =>
    have hclosed : Leaves pending (a ++ [.closing o.construct]) := h.close rfl
    exact (ih hclosed).of_append

theorem firstFault_append (h : Leaves pending a) (rest : List Event) :
    nestingFault? (a ++ rest) =
      firstFault (pending.map (·.construct.name)) a.length rest := by
  induction h generalizing rest with
  | none ha => rw [nestingFault?, ha.firstFault_append, Nat.zero_add, List.map_nil]
  | @opened pending a b o ha hb ih =>
    rw [List.append_assoc, ih, List.cons_append, firstFault, hb.firstFault_append, List.map_cons]
    congr 1
    simp only [List.length_append, List.length_cons]
    omega

theorem not_viable (h : Leaves pending a) {k : Construct}
    (hk : ∀ o ∈ pending.head?, ¬SameName o k) : ¬Viable (a ++ [.closing k]) := by
  rintro ⟨rest, hrest⟩
  have hfault := hrest.nestingFault?_eq_none
  rw [List.append_assoc, h.firstFault_append] at hfault
  cases pending with
  | nil => cases hfault
  | cons o pending =>
    rw [List.map_cons, List.singleton_append, firstFault, if_neg (hk o rfl)] at hfault
    cases hfault

/-- What has been read stays good up to the event that does not close the innermost open
construct. -/
theorem viable_take_iff (h : Leaves pending a) {k : Construct}
    (hk : ∀ o ∈ pending.head?, ¬SameName o k) (after : List Event) (n : Nat) :
    Viable ((a ++ .closing k :: after).take n) ↔ n ≤ a.length := by
  constructor
  · intro hn
    refine Nat.le_of_not_lt fun hlong ↦ ?_
    have htake : (a ++ .closing k :: after).take (a.length + 1) = a ++ [.closing k] := by
      rw [List.take_append, List.take_of_length_le (Nat.le_succ _), Nat.add_sub_cancel_left,
        List.take_succ_cons, List.take_zero]
    have hshort := hn.take (a.length + 1)
    rw [List.take_take, Nat.min_eq_left hlong, htake] at hshort
    exact h.not_viable hk hshort
  · intro hn
    rw [List.take_append_of_le_length hn]
    exact h.viable.take n

end Leaves

/-- How the check of a stream ends. -/
inductive Checked (events : List Event) : Option Nat → Prop
  | accepted : WellPaired events → Checked events none
  | unfinished {o : Opening} {pending : List Opening} : Leaves (o :: pending) events →
      Checked events (some events.length)
  | refused {seen after : List Event} {k : Construct} {pending : List Opening} :
      events = seen ++ .closing k :: after → Leaves pending seen →
      (∀ o ∈ pending.head?, ¬SameName o k) → Checked events (some seen.length)

theorem checked_append {pending : List Opening} {seen : List Event} (h : Leaves pending seen)
    (rest : List Event) :
    Checked (seen ++ rest) (firstFault (pending.map (·.construct.name)) seen.length rest) := by
  induction rest generalizing pending seen with
  | nil =>
    rw [List.append_nil]
    cases h with
    | none h => exact .accepted h
    | opened o ha hb => exact .unfinished (.opened o ha hb)
  | cons e rest ih =>
    have hgo {pending' : List Opening} (hnext : Leaves pending' (seen ++ [e])) :
        Checked (seen ++ e :: rest)
          (firstFault (pending'.map (·.construct.name)) (seen.length + 1) rest) := by
      have hrest := ih hnext
      rwa [List.append_assoc, List.singleton_append, List.length_append] at hrest
    cases e with
    | opening o => exact hgo (.opened o h .nil)
    | single s => exact hgo (h.append (.single s .nil))
    | closing k =>
      cases pending with
      | nil => exact .refused rfl h nofun
      | cons o pending =>
        rw [List.map_cons, firstFault]
        split
        · rename_i hk
          exact hgo (h.close hk)
        · rename_i hk
          refine .refused rfl h fun o' ho' ↦ ?_
          obtain rfl := Option.some.inj ho'
          exact hk

theorem checked (events : List Event) : Checked events (nestingFault? events) :=
  checked_append (.none .nil) events

theorem nestingFault?_eq_none_iff {events : List Event} :
    nestingFault? events = none ↔ WellPaired events := by
  constructor
  · intro h
    have hchecked := checked events
    rw [h] at hchecked
    cases hchecked with
    | accepted h => exact h
  · exact Paired.nestingFault?_eq_none

/-- The check finds no fault in exactly the streams of the pair grammar. The fault that it reports
is the first event with which the stream up to it is beyond completion, and it is the end of the
stream where the stream is incomplete but can be completed. -/
theorem check_finds_first_fault (events : List Event) :
    (nestingFault? events = none ↔ WellPaired events) ∧
    (∀ i < events.length, nestingFault? events = some i ↔
      ¬Viable (events.take (i + 1)) ∧ ∀ j < i, Viable (events.take (j + 1))) ∧
    (nestingFault? events = some events.length ↔ ¬WellPaired events ∧ Viable events) := by
  refine ⟨nestingFault?_eq_none_iff, ?_⟩
  rw [← nestingFault?_eq_none_iff]
  have hchecked := checked events
  generalize nestingFault? events = result at hchecked
  cases hchecked with
  | accepted h =>
    have hviable := h.viable
    refine ⟨fun i _ ↦ ⟨nofun, fun hi ↦ absurd (hviable.take _) hi.1⟩, nofun, fun h ↦ absurd rfl h.1⟩
  | unfinished h =>
    have hviable := h.viable
    refine ⟨fun i hi ↦ ⟨fun hlength ↦ ?_, fun hi ↦ absurd (hviable.take _) hi.1⟩,
      fun _ ↦ ⟨nofun, hviable⟩, fun _ ↦ rfl⟩
    exact absurd (Option.some.inj hlength).symm (Nat.ne_of_lt hi)
  | @refused seen after k pending hevents h hk =>
    subst hevents
    have hviable := h.viable_take_iff hk after
    have hwhole : ¬Viable (seen ++ .closing k :: after) := by
      intro hwhole
      have hlong := (hviable _).1 (hwhole.take (seen.length + 1))
      omega
    refine ⟨fun i _ ↦ ?_, ?_⟩
    · simp only [hviable, Option.some.injEq]
      constructor
      · rintro rfl
        exact ⟨by omega, fun j hj ↦ hj⟩
      · rintro ⟨hdead, hbefore⟩
        rcases Nat.lt_trichotomy seen.length i with hlt | heq | hgt
        · have := hbefore _ hlt
          omega
        · exact heq
        · omega
    · refine ⟨fun hlength ↦ ?_, fun h ↦ absurd h.2 hwhole⟩
      have hlonger := Option.some.inj hlength
      simp only [List.length_append, List.length_cons] at hlonger
      omega

/-- A group that is open when the document is closed. -/
example : nestingFault? [.opening .document, .opening (.group ∅), .closing .document,
    .closing .group] = some 2 := by
  decide

end WikiStream.Event
