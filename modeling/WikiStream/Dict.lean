namespace WikiStream

structure Dict (κ ν : Type) where
  entries : List (κ × ν) := []
  nodup_keys : (entries.map Prod.fst).Nodup := by simp
  deriving DecidableEq, Repr

namespace Dict

variable {κ ν : Type}

instance : EmptyCollection (Dict κ ν) := ⟨⟨[], by simp⟩⟩

instance : Inhabited (Dict κ ν) := ⟨∅⟩

def keys (d : Dict κ ν) : List κ := d.entries.map Prod.fst

def size (d : Dict κ ν) : Nat := d.entries.length

def isEmpty (d : Dict κ ν) : Bool := d.entries.isEmpty

theorem eq_empty_of_isEmpty {d : Dict κ ν} (h : d.isEmpty) : d = ∅ := by
  obtain ⟨l, hl⟩ := d
  obtain rfl : l = [] := List.isEmpty_iff.1 h
  rfl

def filter (p : κ × ν → Bool) (d : Dict κ ν) : Dict κ ν where
  entries := d.entries.filter p
  nodup_keys := d.nodup_keys.sublist (List.filter_sublist.map _)

variable [DecidableEq κ]

def get? (d : Dict κ ν) (key : κ) : Option ν := d.entries.lookup key

def contains (d : Dict κ ν) (key : κ) : Bool := key ∈ d.keys

/-- Replaces the value at `key` in place, or adds the pair at the end. -/
def put (key : κ) (value : ν) : List (κ × ν) → List (κ × ν)
  | [] => [(key, value)]
  | (k, v) :: rest => if k = key then (k, value) :: rest else (k, v) :: put key value rest

theorem map_fst_put (key : κ) (value : ν) (l : List (κ × ν)) :
    (put key value l).map Prod.fst =
      if key ∈ l.map Prod.fst then l.map Prod.fst else l.map Prod.fst ++ [key] := by
  induction l with
  | nil => rfl
  | cons p l ih =>
    by_cases h : p.1 = key
    · simp [put, h]
    · have h' : key ≠ p.1 := fun e ↦ h e.symm
      simp only [put, h, if_false, List.map_cons, ih, List.mem_cons, h', false_or]
      split <;> simp

theorem mem_put {key : κ} {value : ν} {l : List (κ × ν)} {p : κ × ν} (h : p ∈ put key value l) :
    p = (key, value) ∨ p ∈ l := by
  induction l with
  | nil => exact .inl (List.mem_singleton.1 h)
  | cons q l ih =>
    rw [put] at h
    split at h
    · next hq =>
      rcases List.mem_cons.1 h with rfl | hp
      · exact .inl (by rw [hq])
      · exact .inr (List.mem_cons_of_mem _ hp)
    · rcases List.mem_cons.1 h with rfl | hp
      · exact .inr List.mem_cons_self
      · exact (ih hp).imp_right (List.mem_cons_of_mem _)

theorem lookup_put (key : κ) (value : ν) (l : List (κ × ν)) (k : κ) :
    (put key value l).lookup k = if k = key then some value else l.lookup k := by
  induction l with
  | nil => grind [put]
  | cons p l ih => grind [put]

def insert (d : Dict κ ν) (key : κ) (value : ν) : Dict κ ν where
  entries := put key value d.entries
  nodup_keys := by
    rw [map_fst_put]
    split
    · exact d.nodup_keys
    · exact List.nodup_append.2 ⟨d.nodup_keys, by simp, fun a ha b hb ↦ by
        rintro rfl; simp_all⟩

def erase (d : Dict κ ν) (key : κ) : Dict κ ν := d.filter fun p ↦ p.1 ≠ key

theorem mem_entries_iff {d : Dict κ ν} {key : κ} {value : ν} :
    (key, value) ∈ d.entries ↔ d.get? key = some value := by
  obtain ⟨l, hl⟩ := d
  simp only [get?]
  induction l with
  | nil => simp
  | cons p l ih =>
    rw [List.map_cons, List.nodup_cons] at hl
    grind

theorem mem_keys_iff {d : Dict κ ν} {key : κ} :
    key ∈ d.keys ↔ ∃ value, d.get? key = some value := by
  simp [keys, ← mem_entries_iff]

theorem get?_insert (d : Dict κ ν) (key : κ) (value : ν) (k : κ) :
    (d.insert key value).get? k = if k = key then some value else d.get? k :=
  lookup_put key value d.entries k

theorem keys_insert (d : Dict κ ν) (key : κ) (value : ν) :
    (d.insert key value).keys = if key ∈ d.keys then d.keys else d.keys ++ [key] :=
  map_fst_put key value d.entries

theorem get?_erase (d : Dict κ ν) (key k : κ) :
    (d.erase key).get? k = if k = key then none else d.get? k := by
  obtain ⟨l, hl⟩ := d
  simp only [get?, erase, filter]
  clear hl
  induction l with
  | nil => simp
  | cons p l ih => grind

theorem keys_erase (d : Dict κ ν) (key : κ) :
    (d.erase key).keys = d.keys.filter (· ≠ key) := by
  rw [keys, keys, List.filter_map]
  rfl

def insertAll (d : Dict κ ν) (l : List (κ × ν)) : Dict κ ν :=
  l.foldl (fun d p ↦ d.insert p.1 p.2) d

def ofList (l : List (κ × ν)) : Dict κ ν := (∅ : Dict κ ν).insertAll l

theorem put_of_notMem {key : κ} {value : ν} {l : List (κ × ν)} (h : key ∉ l.map Prod.fst) :
    put key value l = l ++ [(key, value)] := by
  induction l with
  | nil => rfl
  | cons p l ih =>
    rw [List.map_cons, List.mem_cons, not_or] at h
    simp only [put, Ne.symm h.1, if_false, ih h.2, List.cons_append]

theorem entries_insertAll {d : Dict κ ν} {l : List (κ × ν)}
    (h : ((d.entries ++ l).map Prod.fst).Nodup) : (d.insertAll l).entries = d.entries ++ l := by
  induction l generalizing d with
  | nil => exact (List.append_nil _).symm
  | cons p l ih =>
    have hkey : p.1 ∉ d.entries.map Prod.fst := by
      rw [List.map_append, List.map_cons, List.nodup_append] at h
      exact fun hp ↦ h.2.2 p.1 hp p.1 List.mem_cons_self rfl
    have hput : (d.insert p.1 p.2).entries = d.entries ++ [p] := put_of_notMem hkey
    have hnext := ih (d := d.insert p.1 p.2) (by rw [hput]; simpa using h)
    rw [hput, List.append_assoc, List.singleton_append] at hnext
    exact hnext

theorem ofList_entries (d : Dict κ ν) : ofList d.entries = d := by
  have h : (ofList d.entries).entries = d.entries := entries_insertAll d.nodup_keys
  obtain ⟨l, hl⟩ := d
  cases hd : ofList l
  simp only [hd] at h
  subst h
  rfl

end Dict

end WikiStream
