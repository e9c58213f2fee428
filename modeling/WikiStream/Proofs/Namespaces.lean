import WikiStream.Namespace

namespace WikiStream

open Text (sameIgnoringCase)

namespace Text

variable {a b c : String}

theorem sameIgnoringCase_iff : sameIgnoringCase a b ↔ foldCase a = foldCase b := decide_eq_true_iff

theorem sameIgnoringCase_trans (h : sameIgnoringCase a b) (h' : sameIgnoringCase b c) :
    sameIgnoringCase a c := by
  rw [sameIgnoringCase_iff] at h h' ⊢
  exact h.trans h'

end Text

namespace Namespace

theorem answersTo_iff {n : Namespace} {x : String} :
    n.answersTo x ↔ ∃ name ∈ n.names, sameIgnoringCase name x := List.any_eq_true

def Distinct (n : Namespace) : Prop := n.names.Pairwise fun a b ↦ sameIgnoringCase a b = false

def addName (n : Namespace) (name : String) : Namespace :=
  if n.answersTo name then n else { n with aliases := n.aliases ++ [name] }

section Names

variable (n : Namespace) (name : String)

theorem number_addName : (n.addName name).number = n.number := by
  unfold addName
  split <;> rfl

theorem name_addName : (n.addName name).name = n.name := by
  unfold addName
  split <;> rfl

theorem answersTo_addName (x : String) :
    (n.addName name).answersTo x ↔ n.answersTo x ∨ sameIgnoringCase name x := by
  unfold addName
  split
  · rename_i hn
    refine ⟨.inl, ?_⟩
    rintro (hx | hx)
    · exact hx
    · obtain ⟨old, hold, hsame⟩ := answersTo_iff.1 hn
      exact answersTo_iff.2 ⟨old, hold, Text.sameIgnoringCase_trans hsame hx⟩
  · simp only [answersTo, names, List.any_cons, List.any_append, List.any_nil, Bool.or_false,
      Bool.or_eq_true, or_assoc]

theorem distinct_addName (h : n.Distinct) : (n.addName name).Distinct := by
  unfold addName
  split
  · exact h
  · rename_i hn
    have hnew : ∀ old ∈ n.names, sameIgnoringCase old name = false := by
      intro old hold
      rw [Bool.eq_false_iff]
      exact fun hsame ↦ hn (answersTo_iff.2 ⟨old, hold, hsame⟩)
    have happend : (n.names ++ [name]).Pairwise fun a b ↦ sameIgnoringCase a b = false := by
      rw [List.pairwise_append]
      refine ⟨h, List.pairwise_singleton _ _, ?_⟩
      intro old hold new hmem
      rw [List.mem_singleton.1 hmem]
      exact hnew old hold
    exact happend

end Names

namespace Table

variable {t : Table} {key k : Int32} {n : Namespace} {name x : String}

theorem get?_addAlias (t : Table) (key : Int32) (name : String) (k : Int32) :
    (t.addAlias key name).get? k =
      if k = key then some (((t.get? key).map fun n ↦ n.addName name).getD ⟨key, name, []⟩)
      else t.get? k := by
  rw [addAlias, NumberMap.get?_alter]
  cases t.get? key <;> rfl

def namesAt (t : Table) (key : Int32) : List String := ((t.get? key).map Namespace.names).getD []

theorem isNamespace_iff :
    t.isNamespace key x ↔ ∃ name ∈ t.namesAt key, sameIgnoringCase name x := by
  unfold isNamespace namesAt
  cases t.get? key with
  | none => simp
  | some n => exact answersTo_iff

/-- Namespaces are stored under their own numbers and do not name anything twice. -/
structure WellFormed (t : Table) : Prop where
  number : ∀ {key n}, t.get? key = some n → n.number = key
  distinct : ∀ {key n}, t.get? key = some n → n.Distinct

theorem wellFormed_empty : WellFormed ∅ where
  number h := nomatch h
  distinct h := nomatch h

theorem WellFormed.addAlias (h : t.WellFormed) (key : Int32) (name : String) :
    (t.addAlias key name).WellFormed := by
  have hnew {k : Int32} {n : Namespace} (hn : (t.addAlias key name).get? k = some n) :
      n.number = k ∧ n.Distinct := by
    rw [get?_addAlias] at hn
    split at hn
    · rename_i hk
      subst hk
      cases hold : t.get? k with
      | none =>
        rw [hold] at hn
        obtain rfl := Option.some.inj hn
        exact ⟨rfl, List.pairwise_singleton _ _⟩
      | some old =>
        rw [hold] at hn
        obtain rfl := Option.some.inj hn
        exact ⟨(number_addName old name).trans (h.number hold),
          distinct_addName old name (h.distinct hold)⟩
    · exact ⟨h.number hn, h.distinct hn⟩
  exact ⟨fun hn ↦ (hnew hn).1, fun hn ↦ (hnew hn).2⟩

theorem wellFormed_standard : WellFormed standard := by
  have hentries : ∀ p ∈ standard.entries, p.2.number = p.1 ∧
      p.2.names.Pairwise fun a b ↦ sameIgnoringCase a b = false := by decide +kernel
  exact ⟨fun hn ↦ (hentries _ (NumberMap.mem_entries_iff.2 hn)).1,
    fun hn ↦ (hentries _ (NumberMap.mem_entries_iff.2 hn)).2⟩

theorem isNamespace_addAlias (t : Table) (k : Int32) (name : String) (key : Int32) (x : String) :
    (t.addAlias k name).isNamespace key x ↔
      t.isNamespace key x ∨ key = k ∧ sameIgnoringCase name x := by
  unfold isNamespace
  rw [get?_addAlias]
  split
  · rename_i hk
    subst hk
    cases t.get? key with
    | none => simp [answersTo, names]
    | some n => simpa using answersTo_addName n name x
  · rename_i hk
    simp [hk]

def addAll (t : Table) (added : List (Int32 × String)) : Table :=
  added.foldl (fun t p ↦ t.addAlias p.1 p.2) t

section History

variable {added : List (Int32 × String)}

theorem addAll_append (t : Table) (earlier later : List (Int32 × String)) :
    t.addAll (earlier ++ later) = (t.addAll earlier).addAll later := List.foldl_append

theorem WellFormed.addAll (h : t.WellFormed) (added : List (Int32 × String)) :
    (t.addAll added).WellFormed := by
  induction added generalizing t with
  | nil => exact h
  | cons p added ih => exact ih (h.addAlias p.1 p.2)

theorem isNamespace_addAll (t : Table) (added : List (Int32 × String)) (key : Int32) (x : String) :
    (t.addAll added).isNamespace key x ↔
      t.isNamespace key x ∨ ∃ name, (key, name) ∈ added ∧ sameIgnoringCase name x := by
  induction added generalizing t with
  | nil => simp [addAll]
  | cons p added ih =>
    obtain ⟨k, name⟩ := p
    have hstep := (ih (t.addAlias k name)).trans
      (or_congr_left (isNamespace_addAlias t k name key x))
    refine hstep.trans ⟨?_, ?_⟩
    · rintro ((hx | ⟨rfl, hx⟩) | ⟨new, hnew, hx⟩)
      · exact .inl hx
      · exact .inr ⟨name, List.mem_cons_self, hx⟩
      · exact .inr ⟨new, List.mem_cons_of_mem _ hnew, hx⟩
    · rintro (hx | ⟨new, hnew, hx⟩)
      · exact .inl (.inl hx)
      · obtain heq | hnew := List.mem_cons.1 hnew
        · obtain ⟨rfl, rfl⟩ := Prod.mk.inj heq
          exact .inl (.inr ⟨rfl, hx⟩)
        · exact .inr ⟨new, hnew, hx⟩

theorem exists_get?_addAll (hn : t.get? key = some n) (added : List (Int32 × String)) :
    ∃ n', (t.addAll added).get? key = some n' ∧ n'.name = n.name := by
  induction added generalizing t n with
  | nil => exact ⟨n, hn, rfl⟩
  | cons p added ih =>
    have hstep : ∃ n', (t.addAlias p.1 p.2).get? key = some n' ∧ n'.name = n.name := by
      rw [get?_addAlias]
      split
      · rename_i hk
        rw [← hk, hn]
        exact ⟨_, rfl, name_addName n p.2⟩
      · exact ⟨n, hn, rfl⟩
    obtain ⟨n', hn', hname⟩ := hstep
    obtain ⟨n'', hn'', hname'⟩ := ih hn'
    exact ⟨n'', hn'', hname'.trans hname⟩

end History

section Lookup

theorem isNamespace_iff_mem :
    t.isNamespace key x ↔ ∃ n, (key, n) ∈ t.entries ∧ n.answersTo x := by
  simp only [isNamespace, Option.any_eq_true, NumberMap.mem_entries_iff]

theorem keyOf?_eq_none_iff : t.keyOf? x = none ↔ ∀ key, t.isNamespace key x = false := by
  simp only [keyOf?, Option.map_eq_none_iff, List.find?_eq_none, Bool.eq_false_iff, Ne,
    isNamespace_iff_mem, not_exists, not_and, Prod.forall]

/-- Numbers ascend, so no namespace with a smaller number answers than the first one that does. -/
theorem WellFormed.of_keyOf? (h : t.WellFormed) (hkey : t.keyOf? x = some key) :
    (∃ n, t.get? key = some n ∧ n.answersTo x) ∧ ∀ k, t.isNamespace k x → key ≤ k := by
  obtain ⟨⟨k₀, n₀⟩, hfind, hnumber⟩ := Option.map_eq_some_iff.1 hkey
  obtain ⟨hanswers, before, after, hentries, hbefore⟩ := List.find?_eq_some_iff_append.1 hfind
  have hget : t.get? k₀ = some n₀ := by
    rw [← NumberMap.mem_entries_iff, hentries]
    exact List.mem_append_right _ List.mem_cons_self
  obtain rfl : k₀ = key := (h.number hget).symm.trans hnumber
  refine ⟨⟨n₀, hget, hanswers⟩, ?_⟩
  intro k hk
  obtain ⟨n, hmem, hn⟩ := isNamespace_iff_mem.1 hk
  have hascending := t.ascending
  rw [hentries, List.map_append, List.map_cons, List.pairwise_append, List.pairwise_cons]
    at hascending
  rw [hentries, List.mem_append, List.mem_cons] at hmem
  rcases hmem with hmem | heq | hmem
  · have hnot := hbefore _ hmem
    rw [hn] at hnot
    cases hnot
  · rw [(Prod.mk.inj heq).1]
    exact Int32.le_refl _
  · exact Int32.le_of_lt (hascending.2.1.1 k (List.mem_map_of_mem hmem))

theorem WellFormed.keyOf?_eq_some_iff (h : t.WellFormed) :
    t.keyOf? x = some key ↔ t.isNamespace key x ∧ ∀ k, t.isNamespace k x → key ≤ k := by
  constructor
  · intro hkey
    obtain ⟨⟨n, hn, hanswers⟩, hleast⟩ := h.of_keyOf? hkey
    exact ⟨isNamespace_iff_mem.2 ⟨n, NumberMap.mem_entries_iff.2 hn, hanswers⟩, hleast⟩
  · rintro ⟨hkey, hleast⟩
    cases hfound : t.keyOf? x with
    | none =>
      rw [keyOf?_eq_none_iff.1 hfound key] at hkey
      cases hkey
    | some k =>
      obtain ⟨⟨n, hn, hanswers⟩, hk⟩ := h.of_keyOf? hfound
      have hle := hleast k (isNamespace_iff_mem.2 ⟨n, NumberMap.mem_entries_iff.2 hn, hanswers⟩)
      rw [Int32.le_antisymm (hk key hkey) hle]

end Lookup

/-- Whatever aliases are added to the standard table or to none: what a number answers to is what it
answered to at first and what was added to it, numbers and names stay what they were, no name is
there twice, and of all the namespaces that answer the one with the least number is found. -/
theorem history_law {start : Table} (hstart : start = standard ∨ start = ∅)
    (added : List (Int32 × String)) :
    let t := start.addAll added
    (∀ key x, t.isNamespace key x ↔
      ∃ name, (name ∈ start.namesAt key ∨ (key, name) ∈ added) ∧ sameIgnoringCase name x) ∧
    (∀ key n, t.get? key = some n → n.number = key ∧ n.Distinct) ∧
    (∀ earlier later, earlier ++ later = added → ∀ key n, (start.addAll earlier).get? key = some n →
      ∃ n', t.get? key = some n' ∧ n'.name = n.name) ∧
    (∀ x key, t.keyOf? x = some key ↔ t.isNamespace key x ∧ ∀ k, t.isNamespace k x → key ≤ k) ∧
    (∀ x, t.keyOf? x = none ↔ ∀ key, t.isNamespace key x = false) ∧
    (∀ x key, t.keyOf? x = some key → ∃ n, t.get? key = some n ∧ t.resolve? x = some n.name) ∧
    ∀ x, t.keyOf? x = none → t.resolve? x = none := by
  intro t
  have hformed : t.WellFormed := by
    rcases hstart with rfl | rfl
    · exact wellFormed_standard.addAll added
    · exact wellFormed_empty.addAll added
  refine ⟨?_, ?_, ?_, ?_, ?_, ?_, ?_⟩
  · intro key x
    rw [isNamespace_addAll, isNamespace_iff]
    simp only [or_and_right, exists_or]
  · intro key n hn
    exact ⟨hformed.number hn, hformed.distinct hn⟩
  · rintro earlier later rfl key n hn
    obtain ⟨n', hn', hname⟩ := exists_get?_addAll hn later
    rw [← addAll_append] at hn'
    exact ⟨n', hn', hname⟩
  · intro x key
    exact hformed.keyOf?_eq_some_iff
  · intro x
    exact keyOf?_eq_none_iff
  · intro x key hkey
    obtain ⟨⟨n, hn, -⟩, -⟩ := hformed.of_keyOf? hkey
    refine ⟨n, hn, ?_⟩
    rw [resolve?, hkey, Option.bind_some, hn, Option.map_some]
  · intro x hx
    rw [resolve?, hx, Option.bind_none]

theorem history_law_portal :
    let t := standard.addAll [(6, "Файл"), (100, "Portal"), (6, "ФАЙЛ"), (100, "Image")]
    t.isNamespace 6 "файл" ∧ t.resolve? "IMAGE" = some "File" ∧
      ∃ n, t.get? 100 = some n ∧ n.name = "Portal" ∧ n.number = 100 := by
  intro t
  obtain ⟨hnames, hown, hkept, -, -, hresolve, -⟩ := history_law (.inl rfl)
    [(6, "Файл"), (100, "Portal"), (6, "ФАЙЛ"), (100, "Image")]
  have hfile : t.isNamespace 6 "файл" :=
    (hnames 6 "файл").2 ⟨"Файл", .inr List.mem_cons_self, by decide +kernel⟩
  have himage : t.keyOf? "IMAGE" = some 6 := by decide +kernel
  obtain ⟨n, hn, hname⟩ := hresolve "IMAGE" 6 himage
  obtain ⟨n', hn', hname'⟩ := hkept [] _ rfl 6 ⟨6, "File", ["Image"]⟩ (by decide +kernel)
  obtain rfl := Option.some.inj (hn.symm.trans hn')
  obtain ⟨m, hm, hportal⟩ := hkept [(6, "Файл"), (100, "Portal")] _ rfl 100 ⟨100, "Portal", []⟩
    (by decide +kernel)
  exact ⟨hfile, by rw [hname, hname'], m, hm, hportal, (hown 100 m hm).1⟩

end Table

end Namespace

end WikiStream
