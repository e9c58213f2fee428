import Mathlib.Data.Set.Card
import WikiStream.OutputFormat
import WikiStream.Proofs.Balance
import WikiStream.Proofs.FirstFault

namespace WikiStream

namespace Event

variable {fits : Opening → Construct → Prop} {a b events : List Event}

/-- The events at the places `j` and `k` are the ends of a pair. -/
def Matches (fits : Opening → Construct → Prop) (events : List Event) (j k : Nat) : Prop :=
  ∃ before o inside c after, events = before ++ .opening o :: (inside ++ .closing c :: after) ∧
    j = before.length ∧ k = before.length + inside.length + 1 ∧ fits o c ∧ Paired fits inside

/-- Where the pairs start that are around the event at the place `i`. -/
def around (fits : Opening → Construct → Prop) (events : List Event) (i : Nat) : Set Nat :=
  {j | ∃ k, Matches fits events j k ∧ j < i ∧ i < k}

namespace Matches

variable {j k : Nat}

theorem lt_length (h : Matches fits events j k) : k < events.length := by
  obtain ⟨before, o, inside, c, after, rfl, -, rfl, -⟩ := h
  simp only [List.length_append, List.length_cons]
  omega

theorem append_right (h : Matches fits a j k) (b : List Event) : Matches fits (a ++ b) j k := by
  obtain ⟨before, o, inside, c, after, rfl, hj, hk, hoc, hi⟩ := h
  exact ⟨before, o, inside, c, after ++ b, by simp, hj, hk, hoc, hi⟩

theorem append_left (h : Matches fits b j k) (a : List Event) :
    Matches fits (a ++ b) (a.length + j) (a.length + k) := by
  obtain ⟨before, o, inside, c, after, rfl, rfl, rfl, hoc, hi⟩ := h
  refine ⟨a ++ before, o, inside, c, after, by simp, by simp, ?_, hoc, hi⟩
  simp only [List.length_append]
  omega

/-- No pair has its two ends on different sides of the end of a paired stream. -/
theorem of_append (ha : Paired fits a) (h : Matches fits (a ++ b) j k) :
    Matches fits a j k ∨
      ∃ j' k', j = a.length + j' ∧ k = a.length + k' ∧ Matches fits b j' k' := by
  obtain ⟨before, o, inside, c, after, hevents, rfl, rfl, hoc, hi⟩ := h
  rcases List.append_eq_append_iff.1 hevents with ⟨t, rfl, rfl⟩ | ⟨t, rfl, ht⟩
  · refine .inr ⟨t.length, t.length + inside.length + 1, by simp, ?_, t, o, inside, c, after, rfl,
      rfl, rfl, hoc, hi⟩
    simp only [List.length_append]
    omega
  · cases t with
    | nil =>
      refine .inr ⟨0, inside.length + 1, by simp, ?_, [], o, inside, c, after, ht.symm, rfl, ?_, hoc,
        hi⟩
      · simp [Nat.add_assoc]
      · simp
    | cons e t =>
      simp only [List.cons_append, List.cons.injEq] at ht
      obtain ⟨rfl, ht⟩ := ht
      obtain ⟨within, c', last, rfl, -, hw⟩ := ha.exists_closing
      rw [List.append_assoc, List.cons_append] at ht
      obtain ⟨rfl, rfl, -⟩ := hi.append_closing_inj hw ht
      exact .inl ⟨before, o, inside, c, last, rfl, rfl, rfl, hoc, hi⟩

end Matches

theorem finite_around (i : Nat) : (around fits events i).Finite :=
  (Set.finite_lt_nat i).subset fun _ ⟨_, _, hj, _⟩ ↦ hj

theorem around_zero : around fits events 0 = ∅ := by
  ext j
  simp [around]

theorem around_last {i : Nat} (h : events.length ≤ i + 1) : around fits events i = ∅ := by
  ext j
  simp only [Set.mem_empty_iff_false, iff_false]
  rintro ⟨k, hk, -, hik⟩
  have := hk.lt_length
  omega

theorem around_append_left (ha : Paired fits a) {i : Nat} (hi : i < a.length) :
    around fits (a ++ b) i = around fits a i := by
  ext j
  constructor
  · rintro ⟨k, hk, hj, hik⟩
    rcases hk.of_append ha with hk | ⟨j', k', rfl, -, -⟩
    · exact ⟨k, hk, hj, hik⟩
    · omega
  · rintro ⟨k, hk, hj, hik⟩
    exact ⟨k, hk.append_right b, hj, hik⟩

theorem around_append_right (ha : Paired fits a) (i : Nat) :
    around fits (a ++ b) (a.length + i) = (a.length + ·) '' around fits b i := by
  ext j
  constructor
  · rintro ⟨k, hk, hj, hik⟩
    rcases hk.of_append ha with hk | ⟨j', k', rfl, rfl, hk'⟩
    · have := hk.lt_length
      omega
    · exact ⟨j', ⟨k', hk', by omega, by omega⟩, rfl⟩
  · rintro ⟨j', ⟨k', hk, hj, hik⟩, rfl⟩
    exact ⟨a.length + k', hk.append_left a, Nat.add_lt_add_left hj _, Nat.add_lt_add_left hik _⟩

theorem around_pair {o : Opening} {c : Construct} (hoc : fits o c) (ha : Paired fits a) {i : Nat}
    (hi : i < a.length) :
    around fits (.opening o :: (a ++ [.closing c])) (1 + i) =
      insert 0 ((1 + ·) '' around fits a i) := by
  ext j
  constructor
  · rintro ⟨k, ⟨before, o', inside, c', after, hevents, rfl, rfl, hoc', hi'⟩, hj, hik⟩
    cases before with
    | nil => exact .inl rfl
    | cons e before =>
      have hinside : Matches fits (a ++ [.closing c]) before.length
          (before.length + inside.length + 1) :=
        ⟨before, o', inside, c', after, (List.cons.inj hevents).2, rfl, rfl, hoc', hi'⟩
      simp only [List.length_cons] at hj hik ⊢
      rcases hinside.of_append ha with hk | ⟨j', k', hj', -, -⟩
      · exact .inr ⟨before.length, ⟨_, hk, by omega, by omega⟩, by simp [Nat.add_comm]⟩
      · omega
  · rintro (rfl | ⟨j', ⟨k', hk, hj, hik⟩, rfl⟩)
    · exact ⟨a.length + 1, ⟨[], o, a, c, [], rfl, rfl, by simp, hoc, ha⟩, by omega, by omega⟩
    · exact ⟨1 + k', (hk.append_right [.closing c]).append_left [.opening o],
        Nat.add_lt_add_left hj _, Nat.add_lt_add_left hik _⟩

theorem openAfter_append (depth : Nat) (a b : List Event) :
    openAfter depth (a ++ b) = openAfter (openAfter depth a) b := by
  fun_induction openAfter depth a with
  | case1 => rfl
  | case2 depth o rest ih => exact ih
  | case3 depth c rest ih => exact ih
  | case4 depth s rest ih => exact ih

theorem Paired.openAfter_eq (h : Paired fits a) (depth : Nat) : openAfter depth a = depth := by
  induction h generalizing depth with
  | nil => rfl
  | single s _ ih => exact ih depth
  | pair _ _ _ ihi ihr =>
    rw [openAfter, openAfter_append, ihi, openAfter, Nat.add_sub_cancel, ihr]

abbrev AnyEnd (_ : Opening) (_ : Construct) : Prop := True

/-- Where something is open, the construct that was opened last and not closed since is there. -/
theorem exists_innermost {n : Nat} (h : openAfter 0 events = n + 1) :
    ∃ before o inside, events = before ++ .opening o :: inside ∧ openAfter 0 before = n ∧
      Paired AnyEnd inside := by
  -- On the length, since a construct that is closed uncovers one that was opened long before.
  induction hl : events.length using Nat.strongRecOn generalizing events n with
  | ind length ih =>
    rcases List.eq_nil_or_concat events with rfl | ⟨init, e, rfl⟩
    · cases h
    · rw [List.concat_eq_append] at h hl ⊢
      rw [openAfter_append] at h
      simp only [List.length_append, List.length_singleton] at hl
      cases e with
      | opening o => exact ⟨init, o, [], rfl, Nat.succ.inj h, .nil⟩
      | single s =>
        obtain ⟨before, o, inside, rfl, hb, hi⟩ := ih _ (by omega) h rfl
        exact ⟨before, o, inside ++ [.single s], by simp, hb, hi.append (.single s .nil)⟩
      | closing c =>
        have hinit : openAfter 0 init = n + 1 + 1 := by
          simp only [openAfter] at h
          omega
        obtain ⟨before, o, inside, rfl, hb, hi⟩ := ih _ (by omega) hinit rfl
        simp only [List.length_append, List.length_cons] at hl
        obtain ⟨outer, o', between, rfl, ho, hbetween⟩ := ih _ (by omega) hb rfl
        exact ⟨outer, o', between ++ .opening o :: (inside ++ [.closing c]), by simp, ho,
          hbetween.append (.pair trivial hi .nil)⟩

end Event

namespace Trace

open Event

variable {fits : Opening → Construct → Prop} {a b events : List Event}

def indents (depth : Nat) : List Event → List Nat
  | [] => []
  | .opening _ :: rest => depth :: indents (depth + 1) rest
  | .closing _ :: rest => (depth - 1) :: indents (depth - 1) rest
  | .single _ :: rest => depth :: indents depth rest

theorem lines_eq_zipWith (depth : Nat) (events : List Event) :
    lines depth events = List.zipWith line (indents depth events) events := by
  fun_induction indents depth events with
  | case1 => rfl
  | case2 depth o rest ih => rw [lines, ih, List.zipWith_cons_cons]
  | case3 depth c rest ih => rw [lines, ih, List.zipWith_cons_cons]
  | case4 depth s rest ih => rw [lines, ih, List.zipWith_cons_cons]

@[simp] theorem length_indents (depth : Nat) (events : List Event) :
    (indents depth events).length = events.length := by
  fun_induction indents depth events with
  | case1 => rfl
  | case2 depth o rest ih => exact congrArg Nat.succ ih
  | case3 depth c rest ih => exact congrArg Nat.succ ih
  | case4 depth s rest ih => exact congrArg Nat.succ ih

theorem indents_append (depth : Nat) (a b : List Event) :
    indents depth (a ++ b) = indents depth a ++ indents (openAfter depth a) b := by
  fun_induction indents depth a with
  | case1 => rfl
  | case2 depth o rest ih => exact congrArg _ ih
  | case3 depth c rest ih => exact congrArg _ ih
  | case4 depth s rest ih => exact congrArg _ ih

theorem le_of_mem_indents (h : Paired fits a) {depth n : Nat} (hn : n ∈ indents depth a) :
    depth ≤ n := by
  induction h generalizing depth with
  | nil => cases hn
  | single s _ ih =>
    rcases List.mem_cons.1 hn with rfl | hn
    · exact Nat.le_refl _
    · exact ih hn
  | pair _ hi _ ihi ihr =>
    rw [indents, indents_append, hi.openAfter_eq, indents, Nat.add_sub_cancel] at hn
    rcases List.mem_cons.1 hn with rfl | hn
    · exact Nat.le_refl _
    rcases List.mem_append.1 hn with hn | hn
    · exact Nat.le_of_succ_le (ihi hn)
    rcases List.mem_cons.1 hn with rfl | hn
    · exact Nat.le_refl _
    · exact ihr hn

/-- Every line is indented by as many pairs as are around its event. -/
def Mirrors (fits : Opening → Construct → Prop) (events : List Event) : Prop :=
  ∀ depth i, i < events.length →
    (indents depth events)[i]? = some (depth + (around fits events i).ncard)

theorem ncard_image_add (n : Nat) (s : Set Nat) : ((n + ·) '' s).ncard = s.ncard :=
  Set.ncard_image_of_injective s fun _ _ ↦ Nat.add_left_cancel

theorem Mirrors.append (hp : Paired fits a) (ha : Mirrors fits a) (hb : Mirrors fits b) :
    Mirrors fits (a ++ b) := by
  intro depth i hi
  rw [indents_append, hp.openAfter_eq]
  by_cases hia : i < a.length
  · rw [List.getElem?_append_left (by rwa [length_indents]), around_append_left hp hia]
    exact ha depth i hia
  · obtain ⟨m, rfl⟩ := Nat.exists_eq_add_of_le (Nat.le_of_not_lt hia)
    rw [List.length_append] at hi
    rw [List.getElem?_append_right (by rw [length_indents]; omega), length_indents,
      Nat.add_sub_cancel_left, around_append_right hp, ncard_image_add]
    exact hb depth m (by omega)

theorem mirrors_single (s : Single) : Mirrors fits [.single s] := by
  intro depth i hi
  obtain rfl := Nat.lt_one_iff.1 hi
  simp [indents, around_zero]

theorem Mirrors.pair {o : Opening} {c : Construct} (hoc : fits o c) (hp : Paired fits a)
    (ha : Mirrors fits a) : Mirrors fits (.opening o :: (a ++ [.closing c])) := by
  intro depth i hi
  have hindents : indents depth (.opening o :: (a ++ [.closing c])) =
      depth :: (indents (depth + 1) a ++ [depth]) := by
    simp only [indents, indents_append, hp.openAfter_eq, Nat.add_sub_cancel]
  rw [hindents]
  cases i with
  | zero => simp [around_zero]
  | succ m =>
    simp only [List.length_cons, List.length_append, List.length_nil] at hi
    by_cases hm : m < a.length
    · have hzero : 0 ∉ (1 + ·) '' around fits a m := by
        rintro ⟨j, -, hj⟩
        simp at hj
      have hfinite : ((1 + ·) '' around fits a m).Finite := (finite_around m).image _
      rw [List.getElem?_cons_succ, List.getElem?_append_left (by rwa [length_indents]),
        Nat.add_comm m 1, around_pair hoc hp hm, Set.ncard_insert_of_notMem hzero hfinite,
        ncard_image_add, ha (depth + 1) m hm]
      congr 1
      omega
    · obtain rfl : m = a.length := by omega
      rw [around_last (by simp), List.getElem?_cons_succ,
        List.getElem?_append_right (by rw [length_indents])]
      simp

theorem mirrors_of_paired (h : Paired fits a) : Mirrors fits a := by
  induction h with
  | nil => exact fun _ _ hi ↦ absurd hi (Nat.not_lt_zero _)
  | single s _ ih => exact .append (.single s .nil) (mirrors_single s) ih
  | @pair o c inside rest hoc hi _ ihi ihr =>
    have hpair := Mirrors.append (.pair hoc hi .nil) (ihi.pair hoc hi) ihr
    simpa using hpair

theorem takeWhile_eventText (e : Event) (rest : List Char) :
    ((eventText e).toList ++ rest).takeWhile (· = ' ') = [] := by
  cases e with
  | opening o => simp [eventText]
  | closing c => simp [eventText]
  | single s =>
    cases s with
    | text piece => cases piece <;> simp [eventText, singleText, pieceText]
    | _ => simp [eventText, singleText]

theorem length_indentation (depth : Nat) (e : Event) :
    ((line depth e).toList.takeWhile (· = ' ')).length = 2 * depth := by
  have hspaces : (List.replicate (2 * depth) ' ').takeWhile (· = ' ') =
      List.replicate (2 * depth) ' ' := by
    simp
  simp only [line, String.toList_append, String.toList_ofList, List.append_assoc]
  rw [List.takeWhile_append, hspaces, if_pos rfl, takeWhile_eventText, List.append_nil,
    List.length_replicate]

theorem getElem?_indents (before : List Event) (e : Event) (after : List Event) :
    (indents 0 (before ++ e :: after))[before.length]? =
      (indents (openAfter 0 before) (e :: after)).head? := by
  rw [indents_append, List.getElem?_append_right (by rw [length_indents]), length_indents,
    Nat.sub_self, List.head?_eq_getElem?]

/-- The lines of a pair are indented alike and those between them deeper. -/
theorem indents_of_matches {j k : Nat} (h : Matches fits events j k) :
    ∃ n, (indents 0 events)[j]? = some n ∧ (indents 0 events)[k]? = some n ∧
      ∀ i, j < i → i < k → ∃ deeper > n, (indents 0 events)[i]? = some deeper := by
  obtain ⟨before, o, inside, c, after, rfl, rfl, rfl, -, hi⟩ := h
  have hindents : indents 0 (before ++ .opening o :: (inside ++ .closing c :: after)) =
      indents 0 before ++ openAfter 0 before ::
        (indents (openAfter 0 before + 1) inside ++ openAfter 0 before ::
          indents (openAfter 0 before) after) := by
    simp only [indents_append, indents, hi.openAfter_eq, Nat.add_sub_cancel]
  generalize openAfter 0 before = n at hindents
  have hlength : (indents 0 before).length = before.length := length_indents 0 before
  rw [hindents, ← hlength]
  refine ⟨n, ?_, ?_, fun i hj hk ↦ ?_⟩
  · simp
  · rw [Nat.add_assoc, List.getElem?_append_right (Nat.le_add_right ..), Nat.add_sub_cancel_left,
      List.getElem?_cons_succ, List.getElem?_append_right (by rw [length_indents]), length_indents,
      Nat.sub_self]
    rfl
  · obtain ⟨m, rfl⟩ := Nat.exists_eq_add_of_lt hj
    have hm : m < (indents (n + 1) inside).length := by
      rw [length_indents]
      omega
    refine ⟨(indents (n + 1) inside)[m], le_of_mem_indents hi (List.getElem_mem hm), ?_⟩
    rw [Nat.add_assoc, List.getElem?_append_right (Nat.le_add_right ..), Nat.add_sub_cancel_left,
      List.getElem?_cons_succ, List.getElem?_append_left hm, List.getElem?_eq_getElem hm]

theorem indents_of_surplus {k : Nat} {c : Construct} (hk : events[k]? = some (.closing c))
    (h : ∀ j, ¬Matches AnyEnd events j k) : (indents 0 events)[k]? = some 0 := by
  obtain ⟨hlt, hc⟩ := List.getElem?_eq_some_iff.1 hk
  have hevents : events = events.take k ++ .closing c :: events.drop (k + 1) := by
    rw [← hc, ← List.drop_eq_getElem_cons hlt, List.take_append_drop]
  have hlength : (events.take k).length = k := List.length_take_of_le (Nat.le_of_lt hlt)
  generalize events.take k = before, events.drop (k + 1) = after at hevents hlength
  obtain rfl := hlength
  cases hopen : openAfter 0 before with
  | zero => rw [hevents, getElem?_indents, hopen, indents, List.head?_cons]
  | succ n =>
    obtain ⟨outer, o, inside, rfl, -, hi⟩ := exists_innermost hopen
    refine absurd ⟨outer, o, inside, c, after, ?_, rfl, ?_, trivial, hi⟩ (h outer.length)
    · simpa using hevents
    · simp [Nat.add_assoc]

/-- The listing has the events in order, each on a line that starts with two spaces for every level
that it is indented. In a stream without a fault in its nesting, an event is indented by as many
levels as there are pairs around it. In any stream the two ends of a pair are indented alike and
what is between them deeper, where an end event is the end of what was opened last, and an end event
that finds nothing open is not indented. -/
theorem indentation_mirrors_nesting (events : List Event) :
    ∃ indent : List Nat, indent.length = events.length ∧
      OutputFormat.trace.write events = String.join (List.zipWith line indent events) ∧
      (∀ depth e, ((line depth e).toList.takeWhile (· = ' ')).length = 2 * depth) ∧
      (nestingFault? events = none → ∀ i < events.length,
        indent[i]? = some (around SameName events i).ncard) ∧
      (∀ fits j k, Matches fits events j k → ∃ n, indent[j]? = some n ∧ indent[k]? = some n ∧
        ∀ i, j < i → i < k → ∃ deeper > n, indent[i]? = some deeper) ∧
      ∀ k c, events[k]? = some (.closing c) → (∀ j, ¬Matches AnyEnd events j k) →
        indent[k]? = some 0 := by
  refine ⟨indents 0 events, length_indents 0 events, ?_, length_indentation, fun h i hi ↦ ?_,
    fun fits j k ↦ indents_of_matches, fun k c ↦ indents_of_surplus⟩
  · rw [← lines_eq_zipWith]
    rfl
  · have hmirrors := mirrors_of_paired (nestingFault?_eq_none_iff.1 h) 0 i hi
    rwa [Nat.zero_add] at hmirrors

/-- The group is closed by the end of the document, and the last event finds nothing open. -/
example : OutputFormat.trace.write [.opening (.group ∅), .closing .document, .closing .group] =
    "begin group\nend document\nend group\n" := by
  decide +kernel

end Trace

end WikiStream
