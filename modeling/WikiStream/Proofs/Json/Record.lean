import Mathlib.Data.List.Perm.Basic
import Mathlib.Data.List.Nodup
import WikiStream.Json.Fields

namespace WikiStream.Json

structure Field where
  key : String
  allows : Value → Prop
  mayOmit : Prop

namespace Field

def exact (key : String) (v : Value) (mayOmit : Prop) : Field := ⟨key, (· = v), mayOmit⟩

def optional {α : Type} (key : String) (toValue : α → Value) (a : Option α) : Field :=
  .exact key ((a.map toValue).getD .null) (a = none)

def Holds (f : Field) : Option Value → Prop
  | none => f.mayOmit
  | some v => f.allows v

end Field

/-- The members of the fields in their order, less some that may be left out. -/
inductive Known : List Field → List (String × Value) → Prop
  | nil : Known [] []
  | absent {f : Field} {fields : List Field} {ms : List (String × Value)} : f.mayOmit →
      Known fields ms → Known (f :: fields) ms
  | member {f : Field} {fields : List Field} {v : Value} {ms : List (String × Value)} :
      f.allows v → Known fields ms → Known (f :: fields) ((f.key, v) :: ms)

/-- The members in any order, among others that the fields do not name. -/
def RecordMembers (fields : List Field) (ms : List (String × Value)) : Prop :=
  ∃ known foreign, Known fields known ∧ (∀ p ∈ foreign, p.1 ∉ fields.map Field.key) ∧
    ms.Perm (known ++ foreign)

def Record (fields : List Field) (v : Value) : Prop :=
  ∃ ms, v = .object ms ∧ RecordMembers fields ms

def typed (type : String) (fields : List Field) : List Field :=
  .exact "type" (.string type) False :: fields

def Variant (name : String) (inside : Value → Prop) (v : Value) : Prop :=
  ∃ w, v = .object [(name, w)] ∧ inside w

variable {fields : List Field} {known ms : List (String × Value)}

namespace Known

theorem keys_sublist (h : Known fields known) :
    (known.map Prod.fst).Sublist (fields.map Field.key) := by
  induction h with
  | nil => exact .slnil
  | absent _ _ ih => exact ih.cons _
  | member _ _ ih => exact ih.cons_cons _

theorem mayOmit (h : Known fields known) {f : Field} (hf : f ∈ fields)
    (hkey : f.key ∉ known.map Prod.fst) : f.mayOmit := by
  induction h with
  | nil => cases hf
  | absent hg _ ih =>
    obtain rfl | hf := List.mem_cons.1 hf
    · exact hg
    · exact ih hf hkey
  | member _ _ ih =>
    rw [List.map_cons, List.mem_cons, not_or] at hkey
    obtain rfl | hf := List.mem_cons.1 hf
    · exact absurd rfl hkey.1
    · exact ih hf hkey.2

theorem allows (h : Known fields known) (hn : (fields.map Field.key).Nodup) {f : Field}
    (hf : f ∈ fields) {v : Value} (hv : (f.key, v) ∈ known) : f.allows v := by
  induction h with
  | nil => cases hf
  | @absent g fields known _ hrest ih =>
    rw [List.map_cons, List.nodup_cons] at hn
    obtain rfl | hf := List.mem_cons.1 hf
    · exact absurd (hrest.keys_sublist.subset (List.mem_map_of_mem hv)) hn.1
    · exact ih hn.2 hf hv
  | @member g fields w known hw hrest ih =>
    rw [List.map_cons, List.nodup_cons] at hn
    obtain rfl | hf := List.mem_cons.1 hf
    · obtain heq | hv := List.mem_cons.1 hv
      · obtain ⟨-, rfl⟩ := Prod.mk.inj heq
        exact hw
      · exact absurd (hrest.keys_sublist.subset (List.mem_map_of_mem hv)) hn.1
    · obtain heq | hv := List.mem_cons.1 hv
      · obtain ⟨hkey, -⟩ := Prod.mk.inj heq
        exact absurd (hkey ▸ List.mem_map_of_mem hf) hn.1
      · exact ih hn.2 hf hv

section Write

variable {f : Field} {rest : List (String × Value)}

theorem cons (h : Known [f] ms) (hrest : Known fields rest) :
    Known (f :: fields) (ms ++ rest) := by
  cases h with
  | absent hf hnil =>
    cases hnil
    exact .absent hf hrest
  | member hv hnil =>
    cases hnil
    exact .member hv hrest

theorem one {key : String} {allows : Value → Prop} {mayOmit : Prop} {v : Value}
    (h : allows v) : Known [⟨key, allows, mayOmit⟩] [(key, v)] :=
  .member h .nil

theorem exact (key : String) (v : Value) (mayOmit : Prop) :
    Known [.exact key v mayOmit] [(key, v)] :=
  .one rfl

theorem record (h : Known fields ms) : Record fields (.object ms) :=
  ⟨ms, rfl, ms, [], h, nofun, by rw [List.append_nil]⟩

end Write

end Known

namespace RecordMembers

theorem holds (h : RecordMembers fields ms) (hn : (fields.map Field.key).Nodup) {f : Field}
    (hf : f ∈ fields) : f.Holds (ms.lookup f.key) := by
  obtain ⟨known, foreign, hknown, hforeign, hperm⟩ := h
  have hkey : f.key ∈ fields.map Field.key := List.mem_map_of_mem hf
  cases hm : ms.lookup f.key with
  | none =>
    refine hknown.mayOmit hf fun hmem ↦ ?_
    obtain ⟨p, hp, hpkey⟩ := List.mem_map.1 hmem
    have hpms : p ∈ ms := hperm.mem_iff.2 (List.mem_append_left _ hp)
    have hne := List.lookup_eq_none_iff.1 hm p hpms
    simp [hpkey] at hne
  | some v =>
    obtain ⟨ms₁, ms₂, hms, -⟩ := List.lookup_eq_some_iff.1 hm
    have hmem : (f.key, v) ∈ known ++ foreign := by
      rw [← hperm.mem_iff, hms]
      exact List.mem_append_right _ List.mem_cons_self
    obtain hv | hv := List.mem_append.1 hmem
    · exact hknown.allows hn hf hv
    · exact absurd hkey (hforeign _ hv)

theorem nodup_keys (h : RecordMembers fields ms) (hn : (fields.map Field.key).Nodup) :
    ((ms.map Prod.fst).filter (· ∈ fields.map Field.key)).Nodup := by
  obtain ⟨known, foreign, hknown, hforeign, hperm⟩ := h
  have hkeys := (hperm.map Prod.fst).filter (· ∈ fields.map Field.key)
  have hnone : (foreign.map Prod.fst).filter (· ∈ fields.map Field.key) = [] := by
    simpa [List.filter_eq_nil_iff] using hforeign
  rw [List.map_append, List.filter_append, hnone, List.append_nil] at hkeys
  exact hkeys.nodup_iff.2 ((hknown.keys_sublist.nodup hn).filter _)

theorem exists_type {type : String} (h : RecordMembers (typed type fields) ms)
    (htype : "type" ∉ fields.map Field.key) :
    ∃ ms₁ ms₂, ms = ms₁ ++ ("type", .string type) :: ms₂ ∧ RecordMembers fields (ms₁ ++ ms₂) ∧
      ∀ p ∈ ms₁ ++ ms₂, p.1 ≠ "type" := by
  obtain ⟨known, foreign, hknown, hforeign, hperm⟩ := h
  cases hknown with
  | absent himpossible _ => exact himpossible.elim
  | @member _ _ v known hv hrest =>
    obtain rfl : v = .string type := hv
    have hmem : ("type", Value.string type) ∈ ms := hperm.mem_iff.2 List.mem_cons_self
    obtain ⟨ms₁, ms₂, rfl⟩ := List.append_of_mem hmem
    -- No field and no foreign member is named `type`, so the others are free of it.
    have hothers : (ms₁ ++ ms₂).Perm (known ++ foreign) :=
      (List.perm_middle.symm.trans hperm).cons_inv
    refine ⟨ms₁, ms₂, rfl, ⟨known, foreign, hrest, fun p hp hkey ↦ ?_, hothers⟩, fun p hp hkey ↦ ?_⟩
    · exact hforeign p hp (List.mem_cons_of_mem _ hkey)
    · obtain hp | hp := List.mem_append.1 (hothers.mem_iff.1 hp)
      · exact htype (hkey ▸ hrest.keys_sublist.subset (List.mem_map_of_mem hp))
      · exact hforeign p hp (hkey ▸ List.mem_cons_self)

end RecordMembers

namespace Fields

variable {v : Value} {fs : Fields v}

def AreRecord (fields : List Field) (fs : Fields v) : Prop :=
  ∃ ms, fs = .named ms ∧ RecordMembers fields (ms.map fun p ↦ (p.1, p.2.1))

theorem lookup_map_val (ms : List (String × Part v)) (name : String) :
    (ms.map fun p ↦ (p.1, p.2.1)).lookup name = (ms.lookup name).map Subtype.val := by
  induction ms with
  | nil => rfl
  | cons p ms ih =>
    obtain ⟨key, w⟩ := p
    simp only [List.map_cons, List.lookup_cons, ih]
    split <;> rfl

theorem AreRecord.lookup? (h : fs.AreRecord fields) (names : List String)
    (hnames : fields.map Field.key = names) (hn : names.Nodup) :
    ∃ get, fs.lookup? names = some get ∧ ∀ f ∈ fields, f.Holds ((get f.key).map Subtype.val) := by
  subst hnames
  obtain ⟨ms, rfl, hms⟩ := h
  have hnodup := hms.nodup_keys hn
  simp only [List.map_map, Function.comp_def] at hnodup
  refine ⟨fun name ↦ ms.lookup name, if_pos hnodup, fun f hf ↦ ?_⟩
  rw [← lookup_map_val]
  exact hms.holds hn hf

theorem AreRecord.split? {τ : Type} {type : String} {t : τ}
    (h : fs.AreRecord (typed type fields)) (read : Value → Option τ)
    (htype : "type" ∉ fields.map Field.key)
    (hread : read (.string type) = some t) :
    ∃ rest, fs.split? read = some (t, rest) ∧ rest.AreRecord fields := by
  obtain ⟨ms, rfl, hms⟩ := h
  obtain ⟨ms₁, ms₂, heq, hothers, hne⟩ := hms.exists_type htype
  obtain ⟨qs₁, qs, rfl, rfl, hqs⟩ := List.map_eq_append_iff.1 heq
  obtain ⟨⟨key, w⟩, qs₂, rfl, hw, rfl⟩ := List.map_eq_cons_iff.1 hqs
  obtain ⟨rfl, hval⟩ : key = "type" ∧ w.1 = .string type := Prod.mk.inj hw
  have hnot (q : String × Part v) (hq : q ∈ qs₁ ++ qs₂) : q.1 ≠ "type" :=
    hne (q.1, q.2.1) (by rw [← List.map_append]; exact List.mem_map_of_mem hq)
  have hpartition : (qs₁ ++ ("type", w) :: qs₂).partition (fun p ↦ p.1 = "type") =
      ([("type", w)], qs₁ ++ qs₂) := by
    have hnone : (qs₁ ++ qs₂).filter (fun p ↦ p.1 = "type") = [] :=
      List.filter_eq_nil_iff.2 fun q hq ↦ by simpa using hnot q hq
    have hall : (qs₁ ++ qs₂).filter (fun p ↦ !decide (p.1 = "type")) = qs₁ ++ qs₂ :=
      List.filter_eq_self.2 fun q hq ↦ by simpa using hnot q hq
    rw [List.filter_append] at hnone hall
    obtain ⟨hnone₁, hnone₂⟩ := List.append_eq_nil_iff.1 hnone
    rw [List.partition_eq_filter_filter, List.filter_append, List.filter_append,
      List.filter_cons_of_pos (by simp), List.filter_cons_of_neg (by simp), hnone₁, hnone₂]
    exact congrArg _ hall
  refine ⟨.named (qs₁ ++ qs₂), ?_, qs₁ ++ qs₂, rfl, ?_⟩
  · simp only [Fields.split?, hpartition, hval, hread, Option.map_some]
  · rwa [List.map_append]

end Fields

theorem Record.fields? {v : Value} (h : Record fields v) :
    ∃ fs, v.fields? = some fs ∧ fs.AreRecord fields := by
  obtain ⟨ms, rfl, hms⟩ := h
  have hbare : (ms.attach.map fun p ↦ (p.1.1, p.1.2)) = ms := List.attach_map_subtype_val ms
  refine ⟨_, rfl, _, rfl, ?_⟩
  rw [List.map_map]
  exact hbare.symm ▸ hms

theorem Record.lookup? {v : Value} (h : Record fields v) (names : List String)
    (hnames : fields.map Field.key = names) (hn : names.Nodup) :
    ∃ fs get, v.fields? = some fs ∧ fs.lookup? names = some get ∧
      ∀ f ∈ fields, f.Holds ((get f.key).map Subtype.val) := by
  obtain ⟨fs, hfs, hrecord⟩ := h.fields?
  obtain ⟨get, hget, hholds⟩ := hrecord.lookup? names hnames hn
  exact ⟨fs, get, hfs, hget, hholds⟩

section Read

variable {α : Type} {v : Value} {f : Field} {o : Option (Part v)} {read : Value → Option α} {a : α}

theorem required?_of_holds (h : f.Holds (o.map Subtype.val)) (hf : ¬f.mayOmit)
    (hread : ∀ w, f.allows w → read w = some a) : required? read o = some a := by
  cases o with
  | none => exact absurd h hf
  | some w => exact hread w.1 h

theorem required?_of_exact {key : String} {w : Value}
    (h : (Field.exact key w False).Holds (o.map Subtype.val)) : required? read o = read w := by
  cases o with
  | none => exact h.elim
  | some u =>
    obtain rfl : u.1 = w := h
    rfl

theorem defaulted?_of_holds {default : α} (h : f.Holds (o.map Subtype.val))
    (hf : f.mayOmit → default = a) (hread : ∀ w, f.allows w → read w = some a) :
    defaulted? default read o = some a := by
  cases o with
  | none => exact congrArg some (hf h)
  | some w => exact hread w.1 h

theorem cases_of_holds (h : f.Holds (o.map Subtype.val))
    (hread : ∀ w, f.allows w → read w = some a) :
    (o = none ∧ f.mayOmit) ∨ ∃ w, o = some w ∧ read w.1 = some a := by
  cases o with
  | none => exact .inl ⟨rfl, h⟩
  | some w => exact .inr ⟨w, rfl, hread w.1 h⟩

theorem optional?_of_ne_null {w : Value} (hw : w ≠ .null) :
    Value.optional? read w = (read w).map some := by
  fun_cases Value.optional? read w with
  | case1 => exact absurd rfl hw
  | case2 => rfl

theorem optional?_of_holds {key : String} {toValue : α → Value} {a : Option α}
    (h : (Field.optional key toValue a).Holds (o.map Subtype.val))
    (hread : ∀ x, read (toValue x) = some x) (hnull : ∀ x, toValue x ≠ .null) :
    defaulted? none (Value.optional? read) o = some a := by
  refine defaulted?_of_holds h Eq.symm fun w hw ↦ ?_
  obtain rfl : w = (a.map toValue).getD .null := hw
  cases a with
  | none => rfl
  | some x =>
    rw [Option.map_some, Option.getD_some, optional?_of_ne_null (hnull x), hread, Option.map_some]

end Read

end WikiStream.Json
