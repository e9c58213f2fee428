import Mathlib.Data.List.Nodup
import WikiStream.Options
import WikiStream.Proofs.Namespaces

namespace WikiStream

open Text (sameIgnoringCase)

namespace Options

variable {table l : List (String × List String)}

def lastFor (n : Int32) (l : List (String × List String)) : Option (List String) :=
  (l.reverse.find? fun p ↦ readKey? p.1 = some n).map Prod.snd

theorem lastFor_cons (n : Int32) (p : String × List String) (l : List (String × List String)) :
    lastFor n (p :: l) = (lastFor n l).or (if readKey? p.1 = some n then some p.2 else none) := by
  rw [lastFor, List.reverse_cons, List.find?_append, Option.map_or]
  by_cases hp : readKey? p.1 = some n <;> simp [lastFor, hp]

theorem readKeysInOrder_of_forall (h : ∀ p ∈ l, (readKey? p.1).isSome)
    (m : NumberMap (List String)) :
    ∃ m', readKeysInOrder m l = .ok m' ∧ ∀ n, m'.get? n = (lastFor n l).or (m.get? n) := by
  induction l generalizing m with
  | nil => exact ⟨m, rfl, fun n ↦ rfl⟩
  | cons p l ih =>
    obtain ⟨key, names⟩ := p
    obtain ⟨k, hk⟩ := Option.isSome_iff_exists.1 (h _ List.mem_cons_self)
    obtain ⟨m', hm', hget⟩ := ih (fun q hq ↦ h q (List.mem_cons_of_mem _ hq)) (m.insert k names)
    refine ⟨m', ?_, fun n ↦ ?_⟩
    · simp only [readKeysInOrder, hk, hm']
    · rw [hget, NumberMap.get?_insert, lastFor_cons, Option.or_assoc]
      by_cases hn : n = k
      · have hread : readKey? key = some n := hk.trans (congrArg some hn.symm)
        rw [if_pos hn, if_pos hread, Option.some_or]
      · have hread : readKey? key ≠ some n := fun h ↦ hn (Option.some.inj (h.symm.trans hk))
        rw [if_neg hn, if_neg hread, Option.none_or]

theorem readKeysInOrder_of_fault {before after : List (String × List String)}
    {p : String × List String} (hbefore : ∀ q ∈ before, (readKey? q.1).isSome)
    (hp : readKey? p.1 = none) (m : NumberMap (List String)) :
    readKeysInOrder m (before ++ p :: after) = .error (.invalidNamespaceKey p.1) := by
  induction before generalizing m with
  | nil =>
    obtain ⟨key, names⟩ := p
    simp only [List.nil_append, readKeysInOrder, hp]
  | cons q before ih =>
    obtain ⟨key, names⟩ := q
    obtain ⟨k, hk⟩ := Option.isSome_iff_exists.1 (hbefore _ List.mem_cons_self)
    simp only [List.cons_append, readKeysInOrder, hk]
    exact ih (fun q hq ↦ hbefore q (List.mem_cons_of_mem _ hq)) _

def inOrder (table : List (String × List String)) : List (String × List String) :=
  table.mergeSort fun a b ↦ a.1 ≤ b.1

theorem mem_inOrder {p : String × List String} : p ∈ inOrder table ↔ p ∈ table := List.mem_mergeSort

theorem pairwise_inOrder (table : List (String × List String)) :
    (inOrder table).Pairwise fun a b ↦ a.1 ≤ b.1 := by
  let le (a b : String × List String) : Bool := a.1 ≤ b.1
  have htrans (a b c : String × List String) (hab : le a b) (hbc : le b c) : le a c :=
    decide_eq_true (String.le_trans (of_decide_eq_true hab) (of_decide_eq_true hbc))
  have htotal (a b : String × List String) : (le a b || le b a) = true := by
    simpa [le] using String.le_total a.1 b.1
  exact (List.pairwise_mergeSort htrans htotal table).imp of_decide_eq_true

structure IsLast (table : List (String × List String)) (n : Int32) (q : String × List String) :
    Prop where
  mem : q ∈ table
  reads : readKey? q.1 = some n
  last : ∀ p ∈ table, readKey? p.1 = some n → p.1 ≤ q.1

theorem exists_isLast {n : Int32} {names : List String}
    (h : lastFor n (inOrder table) = some names) : ∃ q, IsLast table n q ∧ q.2 = names := by
  obtain ⟨q, hq, hnames⟩ := Option.map_eq_some_iff.1 h
  obtain ⟨hreads, after, before, hsplit, hafter⟩ := List.find?_eq_some_iff_append.1 hq
  have horder : inOrder table = before.reverse ++ q :: after.reverse := by
    rw [← List.reverse_reverse (inOrder table), hsplit]
    simp
  have hpairwise := pairwise_inOrder table
  rw [horder, List.pairwise_append] at hpairwise
  refine ⟨q, ⟨?_, of_decide_eq_true hreads, ?_⟩, hnames⟩
  · rw [← mem_inOrder, horder]
    exact List.mem_append_right _ List.mem_cons_self
  · intro p hp hpn
    rw [← mem_inOrder, horder, List.mem_append, List.mem_cons] at hp
    rcases hp with hp | rfl | hp
    · exact hpairwise.2.2 p hp q List.mem_cons_self
    · exact String.le_refl _
    · have hnot := hafter p (List.mem_reverse.1 hp)
      simp [hpn] at hnot

theorem lastFor_eq_some {n : Int32} {q : String × List String}
    (hkeys : (table.map Prod.fst).Nodup) (hq : IsLast table n q) :
    lastFor n (inOrder table) = some q.2 := by
  cases h : lastFor n (inOrder table) with
  | none =>
    rw [lastFor, Option.map_eq_none_iff, List.find?_eq_none] at h
    exact absurd (decide_eq_true hq.reads) (h q (List.mem_reverse.2 (mem_inOrder.2 hq.mem)))
  | some names =>
    obtain ⟨q', hq', rfl⟩ := exists_isLast h
    have hkey : q.1 = q'.1 :=
      String.le_antisymm (hq'.last q hq.mem hq.reads) (hq.last q' hq'.mem hq'.reads)
    rw [List.inj_on_of_nodup_map hkeys hq.mem hq'.mem hkey]

theorem exists_readAliases (hkeys : (table.map Prod.fst).Nodup)
    (h : ∀ p ∈ table, (readKey? p.1).isSome) :
    ∃ m, readAliases table = .ok m ∧
      ∀ n names, m.get? n = some names ↔ ∃ q, IsLast table n q ∧ q.2 = names := by
  obtain ⟨m, hm, hget⟩ := readKeysInOrder_of_forall (fun p hp ↦ h p (mem_inOrder.1 hp)) ∅
  refine ⟨m, hm, fun n names ↦ ?_⟩
  have hlast : m.get? n = lastFor n (inOrder table) := (hget n).trans (Option.or_none ..)
  rw [hlast]
  constructor
  · exact exists_isLast
  · rintro ⟨q, hq, rfl⟩
    exact lastFor_eq_some hkeys hq

end Options

namespace Namespace.Table

theorem withAliases_eq (m : NumberMap (List String)) :
    withAliases m = standard.addAll (m.entries.flatMap fun p ↦ p.2.map (p.1, ·)) := by
  simp only [withAliases, addAll, List.foldl_flatMap, List.foldl_map]

/-- The number goes by the name `x`, by its standard names or by an alias that is listed for it. -/
def Known (m : NumberMap (List String)) (key : Int32) (x : String) : Prop :=
  ∃ name, (name ∈ standard.namesAt key ∨ ∃ names, m.get? key = some names ∧ name ∈ names) ∧
    sameIgnoringCase name x

theorem isNamespace_withAliases {m : NumberMap (List String)} {key : Int32} {x : String} :
    (withAliases m).isNamespace key x ↔ Known m key x := by
  have hadded (name : String) : (key, name) ∈ m.entries.flatMap (fun p ↦ p.2.map (p.1, ·)) ↔
      ∃ names, m.get? key = some names ∧ name ∈ names := by
    simp only [List.mem_flatMap, List.mem_map, Prod.mk.injEq, Prod.exists]
    constructor
    · rintro ⟨k, names, hmem, name, hname, rfl, rfl⟩
      exact ⟨names, NumberMap.mem_entries_iff.1 hmem, hname⟩
    · rintro ⟨names, hget, hname⟩
      exact ⟨key, names, NumberMap.mem_entries_iff.2 hget, name, hname, rfl, rfl⟩
  rw [withAliases_eq, isNamespace_addAll, isNamespace_iff, Known]
  simp only [hadded, or_and_right, exists_or]

end Namespace.Table

namespace Options

open Namespace (Table)

variable {table : List (String × List String)}

theorem exists_fault {p : String × List String} (hp : p ∈ table) (hnone : readKey? p.1 = none) :
    ∃ q ∈ table, readKey? q.1 = none ∧
      readAliases table = .error (.invalidNamespaceKey q.1) ∧
      ∀ r ∈ table, readKey? r.1 = none → q.1 ≤ r.1 := by
  cases hfind : (inOrder table).find? fun p ↦ (readKey? p.1).isNone with
  | none =>
    have hsome := List.find?_eq_none.1 hfind p (mem_inOrder.2 hp)
    rw [hnone] at hsome
    exact absurd rfl hsome
  | some q =>
    obtain ⟨hq, before, after, horder, hbefore⟩ := List.find?_eq_some_iff_append.1 hfind
    have hreads : readKey? q.1 = none := Option.isNone_iff_eq_none.1 hq
    have hfault : readKeysInOrder ∅ (inOrder table) = .error (.invalidNamespaceKey q.1) := by
      rw [horder]
      exact readKeysInOrder_of_fault (fun r hr ↦ by simpa using hbefore r hr) hreads ∅
    have hpairwise := pairwise_inOrder table
    rw [horder, List.pairwise_append, List.pairwise_cons] at hpairwise
    refine ⟨q, ?_, hreads, hfault, ?_⟩
    · rw [← mem_inOrder, horder]
      exact List.mem_append_right _ List.mem_cons_self
    · intro r hr hnone
      rw [← mem_inOrder, horder, List.mem_append, List.mem_cons] at hr
      rcases hr with hr | rfl | hr
      · have hsome := hbefore r hr
        simp [hnone] at hsome
      · exact String.le_refl _
      · exact hpairwise.2.1.1 r hr

/-- Which aliases of a table are kept. Where every text stands for a number, the ones under the last
text for a number are, and others only if the number has the same name from elsewhere; where some
text stands for none, the first such text is blamed. -/
theorem alias_kept_iff (hkeys : (table.map Prod.fst).Nodup) :
    ((∀ p ∈ table, (readKey? p.1).isSome) → ∃ m, readAliases table = .ok m ∧
      ∀ p ∈ table, ∀ n, readKey? p.1 = some n → ∀ x ∈ p.2,
        ((Table.withAliases m).isNamespace n x ↔
          ∃ name, (name ∈ Table.standard.namesAt n ∨ ∃ q, IsLast table n q ∧ name ∈ q.2) ∧
            sameIgnoringCase name x)) ∧
    ∀ p ∈ table, readKey? p.1 = none → ∃ q ∈ table, readKey? q.1 = none ∧
      readAliases table = .error (.invalidNamespaceKey q.1) ∧
      ∀ r ∈ table, readKey? r.1 = none → q.1 ≤ r.1 := by
  constructor
  · intro hall
    obtain ⟨m, hm, hget⟩ := exists_readAliases hkeys hall
    refine ⟨m, hm, ?_⟩
    intro p hp n hn x hx
    rw [Table.isNamespace_withAliases, Table.Known]
    refine exists_congr fun name ↦ and_congr_left fun _ ↦ or_congr_right ?_
    constructor
    · rintro ⟨names, hnames, hname⟩
      obtain ⟨q, hq, rfl⟩ := (hget n names).1 hnames
      exact ⟨q, hq, hname⟩
    · rintro ⟨q, hq, hname⟩
      exact ⟨q.2, (hget n q.2).2 ⟨q, hq, rfl⟩, hname⟩
  · exact fun p hp ↦ exists_fault hp

/-- A number with a sign and without one: the aliases under the text with the sign are lost, unless
another name is there that equals them. -/
theorem alias_kept_iff_signed :
    let table := [("6", ["Datei", "Bild"]), ("+6", ["Fichier", "BILD"])]
    ∃ m, readAliases table = .ok m ∧ (Table.withAliases m).isNamespace 6 "BILD" ∧
      ¬(Table.withAliases m).isNamespace 6 "Fichier" := by
  intro table
  have hkeys : (table.map Prod.fst).Nodup := by decide
  obtain ⟨m, hm, hkept⟩ := (alias_kept_iff hkeys).1 (by decide +kernel)
  have hlast : IsLast table 6 ("6", ["Datei", "Bild"]) :=
    ⟨by decide, by decide +kernel, by decide +kernel⟩
  have hsigned := hkept ("+6", ["Fichier", "BILD"]) (by decide) 6 (by decide +kernel)
  refine ⟨m, hm, ?_, ?_⟩
  · exact (hsigned "BILD" (by decide)).2 ⟨"Bild", .inr ⟨_, hlast, by decide⟩, by decide +kernel⟩
  · intro h
    obtain ⟨name, hname, hsame⟩ := (hsigned "Fichier" (by decide)).1 h
    have hother : ∀ name ∈ Table.standard.namesAt 6 ++ ["Datei", "Bild"],
        sameIgnoringCase name "Fichier" = false := by decide +kernel
    have hmem : name ∈ Table.standard.namesAt 6 ++ ["Datei", "Bild"] := by
      rcases hname with hname | ⟨q, hq, hname⟩
      · exact List.mem_append_left _ hname
      · rcases List.mem_cons.1 hq.mem with rfl | hmem
        · exact List.mem_append_right _ hname
        · obtain rfl := List.mem_singleton.1 hmem
          exact absurd (hq.last _ hlast.mem hlast.reads) (by decide)
    rw [hother name hmem] at hsame
    cases hsame

end Options

end WikiStream
