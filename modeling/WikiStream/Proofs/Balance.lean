import WikiStream.Proofs.Pairing

namespace WikiStream

namespace Event

/-- Single events and pairs around balanced streams. A pair is closed by the event that repeats what
its own opening event says: the level of a header, the kind of a list, the format, the id. -/
inductive Balanced : List Event → Prop
  | nil : Balanced []
  | single (s : Single) {rest : List Event} : Balanced rest → Balanced (.single s :: rest)
  | pair (o : Opening) {inside rest : List Event} : Balanced inside → Balanced rest →
      Balanced (.opening o :: (inside ++ .closing o.construct :: rest))

/-- Balanced streams without documents in which at most `n` pairs lie inside each other. -/
inductive Nested : Nat → List Event → Prop
  | nil {n : Nat} : Nested n []
  | single {n : Nat} (s : Single) {rest : List Event} : Nested n rest → Nested n (.single s :: rest)
  | pair {n : Nat} (o : Opening) {inside rest : List Event} : o ≠ .document → Nested n inside →
      Nested (n + 1) rest → Nested (n + 1) (.opening o :: (inside ++ .closing o.construct :: rest))

def construct? : Event → Option Construct
  | .opening o => some o.construct
  | .closing c => some c
  | .single _ => none

theorem construct_ne_document {o : Opening} (h : o ≠ .document) : o.construct ≠ .document := by
  cases o <;> simp_all [Opening.construct]

namespace Nested

variable {n m : Nat} {a b inside first last : List Event}

theorem mono (h : Nested n a) (hnm : n ≤ m) : Nested m a := by
  induction h generalizing m with
  | nil => exact .nil
  | single s _ ih => exact .single s (ih hnm)
  | pair o ho _ _ ihi ihr =>
    obtain ⟨m, rfl⟩ := Nat.exists_eq_add_of_le' (Nat.le_of_add_left_le hnm)
    exact .pair o ho (ihi (Nat.le_of_succ_le_succ hnm)) (ihr hnm)

theorem append (ha : Nested n a) (hb : Nested n b) : Nested n (a ++ b) := by
  induction ha with
  | nil => exact hb
  | single s _ ih => exact .single s (ih hb)
  | pair o ho hi _ _ ih =>
    simp only [List.cons_append, List.append_assoc]
    exact .pair o ho hi (ih hb)

theorem wrap (h : Nested n inside) {o : Opening} (ho : o ≠ .document) :
    Nested (n + 1) (.opening o :: (inside ++ [.closing o.construct])) :=
  .pair o ho h .nil

theorem balanced (h : Nested n a) : Balanced a := by
  induction h with
  | nil => exact .nil
  | single s _ ih => exact .single s ih
  | pair o _ _ _ ihi ihr => exact .pair o ihi ihr

theorem construct_ne (h : Nested n a) {e : Event} (he : e ∈ a) : e.construct? ≠ some .document := by
  induction h with
  | nil => cases he
  | single s _ ih =>
    rcases List.mem_cons.1 he with rfl | he
    · exact nofun
    · exact ih he
  | pair o ho _ _ ihi ihr =>
    have hne : some o.construct ≠ some Construct.document :=
      fun h ↦ construct_ne_document ho (Option.some.inj h)
    rcases List.mem_cons.1 he with rfl | he
    · exact hne
    · rcases List.mem_append.1 he with he | he
      · exact ihi he
      · rcases List.mem_cons.1 he with rfl | he
        · exact hne
        · exact ihr he

theorem singles (singles : List Single) : Nested n (singles.map .single) := by
  induction singles with
  | nil => exact .nil
  | cons s rest ih => exact .single s ih

end Nested

/-- Two stretches of events that open `k` constructs and close them again, with single events after
a construct is closed. -/
inductive Frame : Nat → List Event → List Event → Prop
  | nil : Frame 0 [] []
  | pair {k : Nat} {first last : List Event} (o : Opening) : o ≠ .document → Frame k first last →
      Frame (k + 1) (.opening o :: first) (last ++ [.closing o.construct])
  | single {k : Nat} {first last : List Event} (s : Single) : Frame k first last →
      Frame k first (last ++ [.single s])

theorem Frame.nested {k n : Nat} {first last inside : List Event} (h : Frame k first last)
    (hi : Nested n inside) : Nested (n + k) (first ++ inside ++ last) := by
  induction h with
  | nil => simpa only [List.nil_append, List.append_nil, Nat.add_zero] using hi
  | pair o ho _ ih =>
    have h := ih.wrap ho
    simpa only [List.cons_append, List.append_assoc, Nat.add_assoc] using h
  | single s _ ih =>
    have h := ih.append (.single s .nil)
    simpa only [List.append_assoc] using h

theorem Balanced.wellPaired {a : List Event} (h : Balanced a) : WellPaired a := by
  induction h with
  | nil => exact .nil
  | single s _ ih => exact .single s ih
  | pair o _ _ ihi ihr => exact .pair rfl ihi ihr

theorem Balanced.nestingFault?_eq_none {a : List Event} (h : Balanced a) :
    nestingFault? a = none := h.wellPaired.nestingFault?_eq_none

/-- How many constructs are open after some events, where `depth` are open before them. -/
def openAfter (depth : Nat) : List Event → Nat
  | [] => depth
  | .opening _ :: rest => openAfter (depth + 1) rest
  | .closing _ :: rest => openAfter (depth - 1) rest
  | .single _ :: rest => openAfter depth rest

/-- No prefix leaves more than `bound` constructs open, where `depth` are open before the stream. -/
def StaysWithin (bound depth : Nat) (events : List Event) : Prop :=
  ∀ pre, pre <+: events → openAfter depth pre ≤ bound

namespace StaysWithin

variable {bound depth : Nat} {rest : List Event}

theorem nil (h : depth ≤ bound) : StaysWithin bound depth [] := by
  intro pre hp
  rw [List.prefix_nil.1 hp]
  exact h

theorem cons {e : Event} (h : depth ≤ bound)
    (hr : StaysWithin bound (openAfter depth [e]) rest) : StaysWithin bound depth (e :: rest) := by
  intro pre hp
  rcases List.prefix_cons_iff.1 hp with rfl | ⟨tail, rfl, ht⟩
  · exact h
  · cases e <;> exact hr tail ht

theorem le (h : StaysWithin bound depth rest) : depth ≤ bound := h [] List.nil_prefix

theorem tail {e : Event} (h : StaysWithin bound depth (e :: rest)) :
    StaysWithin bound (openAfter depth [e]) rest := by
  intro pre hp
  have hpre := h (e :: pre) (List.cons_prefix_cons.2 ⟨rfl, hp⟩)
  cases e <;> exact hpre

theorem of_append {a : List Event} (h : StaysWithin bound depth (a ++ rest)) :
    StaysWithin bound depth a :=
  fun pre hp ↦ h pre (hp.trans (List.prefix_append a rest))

end StaysWithin

theorem Nested.staysWithin_append {n bound depth : Nat} {a rest : List Event} (h : Nested n a)
    (hd : depth + n ≤ bound) (hr : StaysWithin bound depth rest) :
    StaysWithin bound depth (a ++ rest) := by
  -- What follows is part of the statement: the inside of a pair is followed by its closing event.
  induction h generalizing depth rest with
  | nil => exact hr
  | single s _ ih => exact .cons (Nat.le_of_add_right_le hd) (ih hd hr)
  | @pair _ o inside after _ _ _ ihi ihr =>
    have hle : depth ≤ bound := Nat.le_of_add_right_le hd
    rw [List.cons_append, List.append_assoc]
    have hclose : StaysWithin bound (depth + 1) (.closing o.construct :: (after ++ rest)) :=
      .cons (by omega) (ihr hd hr)
    have hinside : StaysWithin bound (depth + 1)
        (inside ++ .closing o.construct :: (after ++ rest)) := ihi (by omega) hclose
    exact .cons hle hinside

end Event

end WikiStream
