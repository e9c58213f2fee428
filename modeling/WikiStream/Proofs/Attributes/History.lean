import Mathlib.Data.Set.Card
import WikiStream.Proofs.Attributes.Reading

namespace WikiStream.Attributes

open Json

structure Holding where
  since : Nat
  value : String

structure Ledger where
  time : Nat := 0
  held : String → Option Holding := fun _ ↦ none

namespace Ledger

def value (s : Ledger) (key : String) : Option String := (s.held key).map Holding.value

def since (s : Ledger) (key : String) : Option Nat := (s.held key).map Holding.since

def put (s : Ledger) (key value : String) : Ledger where
  time := s.time + 1
  held k := if k = key then some ⟨(s.since key).getD s.time, value⟩ else s.held k

def drop (s : Ledger) (key : String) : Ledger where
  time := s.time + 1
  held k := if k = key then none else s.held k

def ofPairs (pairs : List (String × String)) : Ledger :=
  pairs.foldl (fun s p ↦ s.put p.1 p.2) {}

def Before (s : Ledger) (k k' : String) : Prop :=
  ∃ n n', s.since k = some n ∧ s.since k' = some n' ∧ n < n'

/-- Of the keys that are there and equal `key` when the case of ASCII letters is ignored, `found` has
been there for longest. -/
structure IsFirst (s : Ledger) (key found : String) : Prop where
  present : (s.value found).isSome
  same : found.toLower = key.toLower
  first : ∀ k, (s.value k).isSome → k.toLower = key.toLower → k ≠ found → s.Before found k

end Ledger

inductive Edit
  | insert (key value : String)
  | put (key value : String)
  | remove (key : String)
  | removeIgnoringCase (key : String)
  | ofPairs (pairs : List (String × String))
  | read (text : String)
  | decode (v : Value)

inductive Result
  | old (value : Option String)
  | done
  | refused
  deriving DecidableEq

def replaced (a : Attributes) : Option Attributes → Result × Attributes
  | some b => (.done, b)
  | none => (.refused, a)

def Edit.apply (a : Attributes) : Edit → Result × Attributes
  | insert key value => (a.exchange key value).map .old id
  | put key value => (.done, a.insert key value)
  | remove key => (a.take key).map .old id
  | removeIgnoringCase key => (a.takeIgnoringCase key).map .old id
  | ofPairs pairs => (.done, Dict.ofList pairs)
  | read text => a.replaced (Attributes.read text).toOption
  | decode v => a.replaced (ofValue? v)

def run : List Edit → Attributes → List Result × Attributes
  | [], a => ([], a)
  | e :: edits, a =>
    let (result, a) := e.apply a
    let (results, a) := run edits a
    (result :: results, a)

namespace Ledger

inductive Step (s : Ledger) : Edit → Result → Ledger → Prop
  | insert {key value : String} : Step s (.insert key value) (.old (s.value key)) (s.put key value)
  | put {key value : String} : Step s (.put key value) .done (s.put key value)
  | remove {key : String} : Step s (.remove key) (.old (s.value key)) (s.drop key)
  | removeFirst {key found : String} : s.IsFirst key found →
      Step s (.removeIgnoringCase key) (.old (s.value found)) (s.drop found)
  | removeNone {key : String} : (∀ k, k.toLower = key.toLower → s.value k = none) →
      Step s (.removeIgnoringCase key) (.old none) s
  | ofPairs {pairs : List (String × String)} : Step s (.ofPairs pairs) .done (ofPairs pairs)
  | read {text : String} {pairs : List (String × String)} :
      Denotes text.toList (textsObject pairs) → Step s (.read text) .done (.ofPairs pairs)
  | unread {text : String} : (∀ pairs, ¬Denotes text.toList (textsObject pairs)) →
      Step s (.read text) .refused s
  | decode {pairs : List (String × String)} :
      Step s (.decode (textsObject pairs)) .done (.ofPairs pairs)
  | undecoded {v : Value} : (∀ pairs, v ≠ textsObject pairs) → Step s (.decode v) .refused s

inductive Run : Ledger → List Edit → List Result → Ledger → Prop
  | nil {s : Ledger} : Run s [] [] s
  | cons {s t u : Ledger} {e : Edit} {edits : List Edit} {result : Result}
      {results : List Result} : Step s e result t → Run t edits results u →
      Run s (e :: edits) (result :: results) u

variable {s t u : Ledger} {a : Attributes} {key k : String}

theorem value_put (s : Ledger) (key v k : String) :
    (s.put key v).value k = if k = key then some v else s.value k := by
  simp only [value, put]
  split <;> rfl

theorem since_put (s : Ledger) (key v k : String) :
    (s.put key v).since k = if k = key then some ((s.since key).getD s.time) else s.since k := by
  simp only [since, put]
  split <;> rfl

theorem value_drop (s : Ledger) (key k : String) :
    (s.drop key).value k = if k = key then none else s.value k := by
  simp only [value, drop]
  split <;> rfl

theorem since_drop (s : Ledger) (key k : String) :
    (s.drop key).since k = if k = key then none else s.since k := by
  simp only [since, drop]
  split <;> rfl

theorem isSome_since (s : Ledger) (k : String) : (s.since k).isSome = (s.value k).isSome := by
  rw [since, value, Option.isSome_map, Option.isSome_map]

theorem Before.asymm {k k' : String} (h : s.Before k k') : ¬s.Before k' k := by
  rintro ⟨m', m, hm', hm, hlt'⟩
  obtain ⟨n, n', hn, hn', hlt⟩ := h
  obtain rfl : n = m := Option.some_inj.1 (hn.symm.trans hm)
  obtain rfl : n' = m' := Option.some_inj.1 (hn'.symm.trans hm')
  omega

theorem Before.drop {k k' : String} (h : s.Before k k') (hk : k ≠ key) (hk' : k' ≠ key) :
    (s.drop key).Before k k' := by
  obtain ⟨n, n', hn, hn', hlt⟩ := h
  refine ⟨n, n', ?_, ?_, hlt⟩
  · rw [since_drop, if_neg hk, hn]
  · rw [since_drop, if_neg hk', hn']

theorem Before.put {k k' : String} (h : s.Before k k') (key v : String) :
    (s.put key v).Before k k' := by
  have hkeep {j : String} {n : Nat} (hj : s.since j = some n) :
      (s.put key v).since j = some n := by
    rw [since_put]
    split
    · rename_i heq
      rw [← heq, hj, Option.getD_some]
    · exact hj
  obtain ⟨n, n', hn, hn', hlt⟩ := h
  exact ⟨n, n', hkeep hn, hkeep hn', hlt⟩

theorem IsFirst.unique {found found' : String} (h : s.IsFirst key found)
    (h' : s.IsFirst key found') : found = found' := by
  by_contra hne
  have hlt := h.first found' h'.present h'.same (Ne.symm hne)
  exact hlt.asymm (h'.first found h.present h.same hne)

theorem Step.unique {e : Edit} {result result' : Result} (h : Step s e result t)
    (h' : Step s e result' u) : result = result' ∧ t = u := by
  cases h with
  | insert | put | remove | ofPairs =>
    cases h'
    exact ⟨rfl, rfl⟩
  | removeFirst hfirst =>
    cases h' with
    | removeFirst hfirst' =>
      obtain rfl := hfirst.unique hfirst'
      exact ⟨rfl, rfl⟩
    | removeNone hnone =>
      have hsome := hfirst.present
      rw [hnone _ hfirst.same] at hsome
      cases hsome
  | removeNone hnone =>
    cases h' with
    | removeFirst hfirst =>
      have hsome := hfirst.present
      rw [hnone _ hfirst.same] at hsome
      cases hsome
    | removeNone _ => exact ⟨rfl, rfl⟩
  | read htext =>
    cases h' with
    | read htext' =>
      obtain rfl := textsObject_injective (htext.unique htext')
      exact ⟨rfl, rfl⟩
    | unread hnone => exact absurd htext (hnone _)
  | unread hnone =>
    cases h' with
    | read htext => exact absurd htext (hnone _)
    | unread _ => exact ⟨rfl, rfl⟩
  | @decode pairs =>
    generalize hv : textsObject pairs = v at h'
    cases h' with
    | decode =>
      obtain rfl := textsObject_injective hv
      exact ⟨rfl, rfl⟩
    | undecoded hnone => exact absurd hv.symm (hnone _)
  | undecoded hnone =>
    cases h' with
    | decode => exact absurd rfl (hnone _)
    | undecoded _ => exact ⟨rfl, rfl⟩

theorem Run.unique {edits : List Edit} {results results' : List Result} (h : Run s edits results t)
    (h' : Run s edits results' u) : results = results' ∧ t = u := by
  induction h generalizing results' u with
  | nil =>
    cases h'
    exact ⟨rfl, rfl⟩
  | cons hstep _ ih =>
    cases h' with
    | cons hstep' hrest =>
      obtain ⟨rfl, rfl⟩ := hstep.unique hstep'
      obtain ⟨rfl, rfl⟩ := ih hrest
      exact ⟨rfl, rfl⟩

/-- The invariant of a history: the values are those of the ledger, and the keys stand in the order of
its times, all of which have passed. -/
structure Keeps (s : Ledger) (a : Attributes) : Prop where
  value : ∀ key, a.get? key = s.value key
  order : a.keys.Pairwise s.Before
  past : ∀ key n, s.since key = some n → n < s.time

namespace Keeps

theorem empty : Keeps {} ∅ where
  value _ := rfl
  order := .nil
  past _ _ h := nomatch h

theorem mem_keys (h : s.Keeps a) : k ∈ a.keys ↔ (s.value k).isSome := by
  rw [Dict.mem_keys_iff, h.value, Option.isSome_iff_exists]

theorem put (h : s.Keeps a) (key v : String) : (s.put key v).Keeps (a.insert key v) where
  value k := by rw [Dict.get?_insert, value_put, h.value]
  order := by
    have hold : a.keys.Pairwise (s.put key v).Before := h.order.imp fun hb ↦ hb.put key v
    rw [Dict.keys_insert]
    split
    · exact hold
    · rename_i hkey
      refine List.pairwise_append.2 ⟨hold, List.pairwise_singleton _ _, fun k hk k' hk' ↦ ?_⟩
      obtain rfl := List.mem_singleton.1 hk'
      have hne : k ≠ k' := fun e ↦ hkey (e ▸ hk)
      have hnone : s.since k' = none := by
        rw [h.mem_keys, ← isSome_since, Bool.not_eq_true, Option.isSome_eq_false_iff] at hkey
        exact Option.isNone_iff_eq_none.1 hkey
      obtain ⟨n, hn⟩ := Option.isSome_iff_exists.1 ((isSome_since s k).trans (h.mem_keys.1 hk))
      -- The new key comes in now, and every other one has come in before.
      refine ⟨n, s.time, ?_, ?_, h.past k n hn⟩
      · rw [since_put, if_neg hne, hn]
      · rw [since_put, if_pos rfl, hnone, Option.getD_none]
  past k n hn := by
    have hle : ∀ n, s.since k = some n → n < s.time + 1 := fun n hn ↦
      Nat.lt_succ_of_lt (h.past k n hn)
    rw [since_put] at hn
    split at hn
    · rename_i heq
      obtain rfl := Option.some_inj.1 hn
      rw [← heq]
      cases hk : s.since k with
      | none => exact Nat.lt_succ_self s.time
      | some n => exact hle n hk
    · exact hle n hn

theorem drop (h : s.Keeps a) (key : String) : (s.drop key).Keeps (a.erase key) where
  value k := by rw [Dict.get?_erase, value_drop, h.value]
  order := by
    rw [Dict.keys_erase, List.pairwise_filter]
    refine h.order.imp fun hb hk hk' ↦ ?_
    exact hb.drop (of_decide_eq_true hk) (of_decide_eq_true hk')
  past k n hn := by
    rw [since_drop] at hn
    split at hn
    · cases hn
    · exact Nat.lt_succ_of_lt (h.past k n hn)

theorem insertAll (h : s.Keeps a) (pairs : List (String × String)) :
    (pairs.foldl (fun s p ↦ s.put p.1 p.2) s).Keeps (a.insertAll pairs) := by
  induction pairs generalizing s a with
  | nil => exact h
  | cons p pairs ih => exact ih (h.put p.1 p.2)

theorem ofPairs (pairs : List (String × String)) :
    (Ledger.ofPairs pairs).Keeps (Dict.ofList pairs) :=
  empty.insertAll pairs

theorem step_removeIgnoringCase (h : s.Keeps a) (key : String) :
    ∃ t, Step s (.removeIgnoringCase key) (.old (a.takeIgnoringCase key).1) t ∧
      t.Keeps (a.takeIgnoringCase key).2 := by
  rw [takeIgnoringCase, popIgnoringCase]
  cases hfind : a.entries.find? fun p ↦ p.1.toLower = key.toLower with
  | none =>
    refine ⟨s, .removeNone fun k hk ↦ ?_, h⟩
    rw [List.find?_eq_none] at hfind
    rw [← h.value, ← Option.not_isSome_iff_eq_none, Option.isSome_iff_exists]
    rintro ⟨v, hv⟩
    exact hfind (k, v) (Dict.mem_entries_iff.2 hv) (decide_eq_true hk)
  | some p =>
    obtain ⟨found, v⟩ := p
    obtain ⟨hsame, l, r, hl, hbefore⟩ := List.find?_eq_some_iff_append.1 hfind
    have hmem : (found, v) ∈ a.entries := List.mem_of_find?_eq_some hfind
    have hvalue : s.value found = some v := by rw [← h.value, Dict.mem_entries_iff.1 hmem]
    have hfirst : s.IsFirst key found := by
      refine ⟨by rw [hvalue]; rfl, of_decide_eq_true hsame, fun k hk hlower hne ↦ ?_⟩
      -- A key that matches stands behind the one that is found, since none before it matches.
      obtain ⟨w, hw⟩ := Option.isSome_iff_exists.1 hk
      have hw : (k, w) ∈ l ++ (found, v) :: r := by
        rw [← hl, Dict.mem_entries_iff, h.value, hw]
      have hlater : k ∈ r.map Prod.fst := by
        rw [List.mem_append, List.mem_cons] at hw
        obtain hw | hw | hw := hw
        · simpa [hlower] using hbefore _ hw
        · exact absurd (Prod.mk.inj hw).1 hne
        · exact List.mem_map_of_mem hw
      have horder := h.order
      rw [Dict.keys, hl, List.map_append, List.pairwise_append, List.map_cons,
        List.pairwise_cons] at horder
      exact horder.2.1.1 k hlater
    have hstep := Step.removeFirst hfirst
    rw [hvalue] at hstep
    exact ⟨s.drop found, hstep, h.drop found⟩

theorem step_replaced (h : s.Keeps a) {o : Option Attributes} {e : Edit}
    {means : List (String × String) → Prop}
    (ho : ∀ b, o = some b ↔ ∃ pairs, means pairs ∧ b = Dict.ofList pairs)
    (hdone : ∀ pairs, means pairs → Step s e .done (.ofPairs pairs))
    (hrefused : (∀ pairs, ¬means pairs) → Step s e .refused s) :
    ∃ t, Step s e (a.replaced o).1 t ∧ t.Keeps (a.replaced o).2 := by
  cases o with
  | none =>
    refine ⟨s, hrefused fun pairs hp ↦ ?_, h⟩
    cases (ho _).2 ⟨pairs, hp, rfl⟩
  | some b =>
    obtain ⟨pairs, hp, rfl⟩ := (ho b).1 rfl
    exact ⟨.ofPairs pairs, hdone pairs hp, ofPairs pairs⟩

theorem exists_step (h : s.Keeps a) (e : Edit) :
    ∃ t, Step s e (e.apply a).1 t ∧ t.Keeps (e.apply a).2 := by
  cases e with
  | insert key v =>
    have hstep : Step s (.insert key v) (.old (s.value key)) (s.put key v) := .insert
    rw [← h.value] at hstep
    exact ⟨_, hstep, h.put key v⟩
  | put key v => exact ⟨_, .put, h.put key v⟩
  | remove key =>
    have hstep : Step s (.remove key) (.old (s.value key)) (s.drop key) := .remove
    rw [← h.value] at hstep
    exact ⟨_, hstep, h.drop key⟩
  | removeIgnoringCase key => exact h.step_removeIgnoringCase key
  | ofPairs pairs => exact ⟨_, .ofPairs, ofPairs pairs⟩
  | read text =>
    refine h.step_replaced (fun b ↦ ?_) (fun pairs ↦ .read) .unread
    have hok : (Attributes.read text).toOption = some b ↔ Attributes.read text = .ok b := by
      cases Attributes.read text <;> simp [Except.toOption]
    rw [hok, read_eq_ok_iff]
    constructor
    · rintro ⟨v, hv, htext⟩
      obtain ⟨pairs, rfl, rfl⟩ := ofValue?_eq_some_iff.1 hv
      exact ⟨pairs, htext, rfl⟩
    · rintro ⟨pairs, htext, rfl⟩
      exact ⟨_, ofValue?_eq_some_iff.2 ⟨pairs, rfl, rfl⟩, htext⟩
  | decode v =>
    refine h.step_replaced (fun b ↦ ofValue?_eq_some_iff) ?_ .undecoded
    rintro pairs rfl
    exact .decode

theorem exists_run (h : s.Keeps a) (edits : List Edit) :
    ∃ t, Run s edits (run edits a).1 t ∧ t.Keeps (run edits a).2 := by
  induction edits generalizing s a with
  | nil => exact ⟨s, .nil, h⟩
  | cons e edits ih =>
    obtain ⟨t, hstep, ht⟩ := h.exists_step e
    obtain ⟨u, hrun, hu⟩ := ih ht
    exact ⟨u, .cons hstep hrun, hu⟩

theorem size_eq (h : s.Keeps a) : a.size = {key | (s.value key).isSome}.ncard := by
  have hkeys : {key | (s.value key).isSome} = (a.keys.toFinset : Set String) := by
    ext key
    rw [Set.mem_ofPred_eq, Finset.mem_coe, List.mem_toFinset, h.mem_keys]
  have hnodup : a.keys.Nodup := a.nodup_keys
  rw [hkeys, Set.ncard_coe_finset, List.toFinset_card_of_nodup hnodup]
  exact (List.length_map _).symm

end Keeps

end Ledger

/-- Whatever is done to attributes, there is one ledger of it, and they answer as that ledger does and
list their keys by its times. What is written of them is read back. -/
theorem answer_as_ledger (edits : List Edit) :
    (∃ results s, Ledger.Run {} edits results s) ∧
      ∀ results s, Ledger.Run {} edits results s →
        let a := (run edits ∅).2
        (run edits ∅).1 = results ∧ a.keys.Nodup ∧
        (∀ key, a.get? key = s.value key ∧ a.contains key = (s.value key).isSome) ∧
        a.size = {key | (s.value key).isSome}.ncard ∧
        (∀ key value, (key, value) ∈ a.entries ↔ s.value key = some value) ∧
        a.entries.Pairwise (fun p q ↦ s.Before p.1 q.1) ∧
        read a.toValue.write = .ok a ∧ ofValue? a.toValue = some a := by
  obtain ⟨t, hrun, ht⟩ := Ledger.Keeps.empty.exists_run edits
  refine ⟨⟨_, t, hrun⟩, fun results s hs ↦ ?_⟩
  obtain ⟨rfl, rfl⟩ := hrun.unique hs
  refine ⟨rfl, Dict.nodup_keys _, fun key ↦ ⟨ht.value key, ?_⟩, ht.size_eq, fun key value ↦ ?_,
    List.pairwise_map.1 ht.order, read_write _, ofValue?_toValue _⟩
  · rw [Bool.eq_iff_iff, Dict.contains, decide_eq_true_iff, ht.mem_keys]
  · rw [Dict.mem_entries_iff, ht.value]

theorem answer_as_ledger_moved :
    ∃ s, Ledger.Run {} [.insert "b" "1", .put "a" "2", .removeIgnoringCase "B", .insert "b" "3"]
        [.old none, .done, .old (some "1"), .old none] s ∧ s.Before "a" "b" ∧
      run [.insert "b" "1", .put "a" "2", .removeIgnoringCase "B", .insert "b" "3"] ∅ =
        ([.old none, .done, .old (some "1"), .old none], Dict.ofList [("a", "2"), ("b", "3")]) := by
  have hfirst : ((({} : Ledger).put "b" "1").put "a" "2").IsFirst "B" "b" := by
    refine ⟨rfl, by decide +kernel, fun k hk hlower hne ↦ ?_⟩
    rw [Ledger.value_put, Ledger.value_put, if_neg hne] at hk
    split at hk
    · rename_i ha
      rw [ha] at hlower
      exact absurd hlower (by decide +kernel)
    · cases hk
  have hrun : Ledger.Run {} [.insert "b" "1", .put "a" "2", .removeIgnoringCase "B", .insert "b" "3"]
      [.old none, .done, .old (some "1"), .old none] _ :=
    .cons .insert (.cons .put (.cons (.removeFirst hfirst) (.cons .insert .nil)))
  obtain ⟨hresults, -, -, -, -, -, -⟩ := (answer_as_ledger _).2 _ _ hrun
  refine ⟨_, hrun, ⟨1, 3, rfl, rfl, by omega⟩, Prod.ext hresults ?_⟩
  decide +kernel

end WikiStream.Attributes
