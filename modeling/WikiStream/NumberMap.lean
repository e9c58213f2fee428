namespace WikiStream

structure NumberMap (ν : Type) where
  entries : List (Int32 × ν) := []
  ascending : (entries.map Prod.fst).Pairwise (· < ·) := by simp
  deriving DecidableEq, Repr

namespace NumberMap

variable {ν : Type}

instance : EmptyCollection (NumberMap ν) := ⟨⟨[], by simp⟩⟩

instance : Inhabited (NumberMap ν) := ⟨∅⟩

def get? (m : NumberMap ν) (key : Int32) : Option ν := m.entries.lookup key

def change (key : Int32) (f : Option ν → ν) : List (Int32 × ν) → List (Int32 × ν)
  | [] => [(key, f none)]
  | (k, v) :: rest =>
    if key < k then (key, f none) :: (k, v) :: rest
    else if key = k then (k, f (some v)) :: rest
    else (k, v) :: change key f rest

theorem mem_map_fst_change {key k : Int32} {f : Option ν → ν} {l : List (Int32 × ν)}
    (h : k ∈ (change key f l).map Prod.fst) : k = key ∨ k ∈ l.map Prod.fst := by
  induction l with
  | nil => simp_all [change]
  | cons p l ih =>
    simp only [change] at h
    split at h
    · simp_all
    · split at h
      · simp_all
      · simp only [List.map_cons, List.mem_cons] at h ⊢
        grind

theorem pairwise_change {key : Int32} {f : Option ν → ν} {l : List (Int32 × ν)}
    (h : (l.map Prod.fst).Pairwise (· < ·)) : ((change key f l).map Prod.fst).Pairwise (· < ·) := by
  induction l with
  | nil => simp [change]
  | cons p l ih =>
    simp only [List.map_cons, List.pairwise_cons] at h
    simp only [change]
    split
    · rename_i hk
      simp only [List.map_cons, List.pairwise_cons, List.mem_cons]
      refine ⟨?_, h.1, h.2⟩
      rintro a (rfl | ha)
      · exact hk
      · exact Int32.lt_trans hk (h.1 a ha)
    · split
      · simpa using h
      · rename_i hk hne
        simp only [List.map_cons, List.pairwise_cons]
        refine ⟨fun a ha ↦ ?_, ih h.2⟩
        rcases mem_map_fst_change ha with rfl | ha
        · exact Int32.lt_of_le_of_ne (Int32.not_lt.1 hk) fun e ↦ hne e.symm
        · exact h.1 a ha

def alter (m : NumberMap ν) (key : Int32) (f : Option ν → ν) : NumberMap ν :=
  ⟨change key f m.entries, pairwise_change m.ascending⟩

def insert (m : NumberMap ν) (key : Int32) (value : ν) : NumberMap ν := m.alter key fun _ ↦ value

theorem lookup_eq_none_of_lt {key : Int32} {l : List (Int32 × ν)}
    (h : ∀ k ∈ l.map Prod.fst, key < k) : l.lookup key = none := by
  rw [List.lookup_eq_none_iff]
  intro p hp
  have hlt : key < p.1 := h p.1 (List.mem_map_of_mem hp)
  rw [bne_iff_ne]
  rintro rfl
  exact Int32.lt_irrefl hlt

theorem lookup_cons_eq (k key : Int32) (v : ν) (l : List (Int32 × ν)) :
    ((key, v) :: l).lookup k = if k = key then some v else l.lookup k := by
  rw [List.lookup_cons]
  by_cases hk : k = key
  · simp only [hk, BEq.rfl, if_true]
  · simp only [beq_false_of_ne hk, hk, if_false]

theorem lookup_change {key : Int32} {f : Option ν → ν} {l : List (Int32 × ν)}
    (h : (l.map Prod.fst).Pairwise (· < ·)) (k : Int32) :
    (change key f l).lookup k = if k = key then some (f (l.lookup key)) else l.lookup k := by
  induction l with
  | nil => exact lookup_cons_eq ..
  | cons p l ih =>
    obtain ⟨k₀, v⟩ := p
    have hl := List.pairwise_cons.1 h
    simp only [change]
    split
    · rename_i hlt
      have hnone : ((k₀, v) :: l).lookup key = none := by
        refine lookup_eq_none_of_lt fun k hk ↦ ?_
        rw [List.map_cons, List.mem_cons] at hk
        obtain rfl | hk := hk
        · exact hlt
        · exact Int32.lt_trans hlt (hl.1 k hk)
      rw [hnone, lookup_cons_eq]
    · split
      · rename_i heq
        simp only [lookup_cons_eq, heq, if_true]
        split <;> rfl
      · rename_i hne
        simp only [lookup_cons_eq, ih hl.2, hne, if_false]
        -- The two tests of the number that is asked for come in the other order.
        by_cases hk : k = k₀
        · have hkey : k ≠ key := fun e ↦ hne (e.symm.trans hk)
          simp only [hk, if_true, if_neg (hk ▸ hkey)]
        · simp only [hk, if_false]

theorem get?_alter (m : NumberMap ν) (key : Int32) (f : Option ν → ν) (k : Int32) :
    (m.alter key f).get? k = if k = key then some (f (m.get? key)) else m.get? k :=
  lookup_change m.ascending k

theorem get?_insert (m : NumberMap ν) (key : Int32) (value : ν) (k : Int32) :
    (m.insert key value).get? k = if k = key then some value else m.get? k :=
  m.get?_alter key _ k

theorem change_of_forall_lt {key : Int32} {f : Option ν → ν} {l : List (Int32 × ν)}
    (h : ∀ k ∈ l.map Prod.fst, k < key) : change key f l = l ++ [(key, f none)] := by
  induction l with
  | nil => rfl
  | cons p l ih =>
    obtain ⟨k, v⟩ := p
    rw [List.map_cons, List.forall_mem_cons] at h
    have hk : ¬key < k := Int32.lt_asymm h.1
    have hne : key ≠ k := (Int32.ne_of_lt h.1).symm
    rw [change, if_neg hk, if_neg hne, ih h.2, List.cons_append]

theorem entries_insert_of_forall_lt {m : NumberMap ν} {key : Int32} (value : ν)
    (h : ∀ k ∈ m.entries.map Prod.fst, k < key) :
    (m.insert key value).entries = m.entries ++ [(key, value)] :=
  change_of_forall_lt h

theorem mem_entries_iff {m : NumberMap ν} {key : Int32} {value : ν} :
    (key, value) ∈ m.entries ↔ m.get? key = some value := by
  obtain ⟨l, hl⟩ := m
  simp only [get?]
  induction l with
  | nil => simp
  | cons p l ih =>
    obtain ⟨k, v⟩ := p
    rw [List.map_cons, List.pairwise_cons] at hl
    rw [List.mem_cons, lookup_cons_eq]
    by_cases hk : key = k
    · subst hk
      have hnot : (key, value) ∉ l := fun hmem ↦
        Int32.lt_irrefl (hl.1 key (List.mem_map_of_mem hmem))
      simp [hnot, eq_comm]
    · simp [hk, ih hl.2]

def ofList (l : List (Int32 × ν)) : NumberMap ν := l.foldl (fun m p ↦ m.insert p.1 p.2) ∅

end NumberMap

end WikiStream
