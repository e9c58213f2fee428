import WikiStream.Options.Json
import WikiStream.Proofs.Json.Written
import WikiStream.Reference.Json

namespace WikiStream

open Json Reader

def Json.Value.without (names : List String) : Value → Value
  | .object members => .object (members.filter fun m ↦ m.1 ∉ names)
  | v => v

theorem Json.Value.without_nil (v : Value) : v.without [] = v := by
  cases v with
  | object members =>
    have hmembers : members.filter (fun m ↦ m.1 ∉ []) = members :=
      List.filter_eq_self.2 fun _ _ ↦ by simp
    rw [without, hmembers]
  | _ => rfl

theorem Policy.named?_name (p : Policy) : Policy.named? p.name = some p := by
  cases p <;> rfl

namespace Options

/-- The options with the default in the fields of some names. -/
def defaulted (o : Options) (names : List String) : Options where
  policy := if "reference_type" ∈ names then .structured else o.policy
  aliases := if "custom_namespaces" ∈ names then ∅ else o.aliases
  noToc := if "no_toc" ∈ names then false else o.noToc
  templatePrefix := if "template_macro_prefix" ∈ names then "" else o.templatePrefix
  maxDepth := if "max_depth" ∈ names then 32 else o.maxDepth

def aliasMembers (entries : List (Int32 × List String)) : List (String × Value) :=
  entries.map fun p ↦ (String.ofList (Text.decimalInt p.1.toInt), .array (p.2.map .string))

def fieldValue (o : Options) : String → Value
  | "reference_type" => .string o.policy.name
  | "custom_namespaces" => .object (aliasMembers o.aliases.entries)
  | "no_toc" => .bool o.noToc
  | "template_macro_prefix" => .string o.templatePrefix
  | "max_depth" => .number (.whole o.maxDepth.toNat)
  | _ => .null

def takeField (o d : Options) : String → Options
  | "reference_type" => { d with policy := o.policy }
  | "custom_namespaces" => { d with aliases := o.aliases }
  | "no_toc" => { d with noToc := o.noToc }
  | "template_macro_prefix" => { d with templatePrefix := o.templatePrefix }
  | "max_depth" => { d with maxDepth := o.maxDepth }
  | _ => d

theorem leads_aliases {m all : NumberMap (List String)} {rest : List (Int32 × List String)}
    (h : m.entries ++ rest = all.entries) :
    Leads numberKey (fun m key ↦ .ok ((Reader.array Reader.string).map fun names ↦
      m.insert key names)) m (aliasMembers rest) all := by
  induction rest generalizing m with
  | nil =>
    obtain rfl : m = all := by
      cases m
      cases all
      simpa using h
    exact .nil
  | cons p rest ih =>
    obtain ⟨key, names⟩ := p
    have hlast : ∀ k ∈ m.entries.map Prod.fst, k < key := by
      intro k hk
      have hascending := all.ascending
      rw [← h, List.map_append, List.pairwise_append] at hascending
      exact hascending.2.2 k hk key List.mem_cons_self
    have hinsert := NumberMap.entries_insert_of_forall_lt names hlast
    refine .cons (reads_numberKey key) rfl ((readsBack_strings names).map _) (ih ?_)
    rw [hinsert, List.append_assoc, List.singleton_append, h]

theorem readsBack_aliases (m : NumberMap (List String)) :
    ReadsBack aliasesReader (.object (aliasMembers m.entries)) m :=
  (leads_aliases (m := ∅) rfl).readsBack

theorem readsBack_maxDepth (depth : UInt64) :
    ReadsBack (Reader.integer 0 0xFFFFFFFFFFFFFFFF) (.number (.whole depth.toNat)) depth.toNat := by
  have hdepth : depth.toNat < UInt64.size := depth.toNat_lt
  apply readsBack_integer
  · simp only [UInt64.size] at hdepth
    omega
  · rw [Int64.toInt_minValue]
    omega
  · exact Int.ofNat_lt.2 hdepth

theorem readsBack_field (o d : Options) {name : String} (h : name ∈ Draft.names) :
    ReadsBack (Draft.fieldReader d name) (o.fieldValue name) (o.takeField d name) := by
  simp only [Draft.names, List.mem_cons, List.not_mem_nil, or_false] at h
  obtain rfl | rfl | rfl | rfl | rfl := h
  · exact (readsBack_name (Policy.named?_name o.policy)).map _
  · exact (readsBack_aliases o.aliases).map _
  · exact (readsBack_boolean o.noToc).map _
  · exact (readsBack_string o.templatePrefix).map _
  · have hdepth := (readsBack_maxDepth o.maxDepth).map fun n ↦
      { d with maxDepth := .ofNat n.toNat }
    rwa [Int.toNat_natCast, UInt64.ofNat_toNat] at hdepth

/-- Fields are taken one after the other, in whatever order they stand. -/
theorem leads_fields (o : Options) {names : List String} (hknown : ∀ n ∈ names, n ∈ Draft.names)
    (hnodup : names.Nodup) {d : Draft} (hseen : ∀ n ∈ names, n ∉ d.seen) :
    Leads (stringBody .keep) Draft.member d (names.map fun n ↦ (n, o.fieldValue n))
      ⟨names.foldl o.takeField d.options, names.reverse ++ d.seen⟩ := by
  induction names generalizing d with
  | nil => exact .nil
  | cons name names ih =>
    obtain ⟨hname, hnames⟩ := List.forall_mem_cons.1 hknown
    obtain ⟨hnew, hrest⟩ := List.forall_mem_cons.1 hseen
    obtain ⟨hnot, hnodup⟩ := List.nodup_cons.1 hnodup
    have hmember : Draft.member d name = .ok ((Draft.fieldReader d.options name).map fun o ↦
        ⟨o, name :: d.seen⟩) := by
      rw [Draft.member, if_neg hnew]
      simp only [hname, if_true]
    have htail := ih hnames hnodup (d := ⟨o.takeField d.options name, name :: d.seen⟩) <| by
      intro n hn hmem
      obtain rfl | hmem := List.mem_cons.1 hmem
      · exact hnot hn
      · exact hrest n hn hmem
    rw [List.reverse_cons, List.append_assoc]
    exact .cons (reads_key name) hmember ((readsBack_field o d.options hname).map _) htail

theorem foldl_takeField (o : Options) (left : List String) :
    (Draft.names.filter fun n ↦ n ∉ left).foldl o.takeField {} = o.defaulted left := by
  unfold defaulted
  simp only [Draft.names, List.filter_cons, List.filter_nil, decide_eq_true_eq]
  split_ifs <;> rfl

theorem toValue_without (o : Options) (left : List String) :
    o.toValue.without left =
      .object ((Draft.names.filter fun n ↦ n ∉ left).map fun n ↦ (n, o.fieldValue n)) := by
  have hvalue : o.toValue = .object (Draft.names.map fun n ↦ (n, o.fieldValue n)) := rfl
  rw [hvalue, Value.without, List.filter_map]
  rfl

theorem read_without (o : Options) (left : List String) :
    read (o.toValue.without left).write = .ok (o.defaulted left) := by
  have hnames : Draft.names.Nodup := by decide
  have hleads := leads_fields o (d := {}) (fun n hn ↦ List.mem_of_mem_filter hn)
    (hnames.filter fun n ↦ n ∉ left) (fun _ _ ↦ List.not_mem_nil)
  have hread := ((hleads.readsBack_record Draft.names).map Draft.options).run_eq
  rw [toValue_without, ← foldl_takeField]
  exact hread

theorem read_toValue (o : Options) : read o.toValue.write = .ok o := by
  have hread := o.read_without []
  rwa [Value.without_nil] at hread

end Options

namespace Reference

def defaulted (r : Reference) (names : List String) : Reference where
  kind := r.kind
  text := r.text
  anchor := if "anchor" ∈ names then none else r.anchor
  typed := if "typed" ∈ names then false else r.typed

theorem Kind.ofName?_name (k : Kind) : Kind.ofName? k.name = some k := by
  cases k <;> rfl

theorem leads_kind {d : Draft} (h : d.kind = none) (k : Kind) :
    Leads (stringBody .keep) Draft.member d [("kind", .string k.name)]
      { d with kind := some k } := by
  have hmember : Draft.member d "kind" = .ok ((Reader.name Kind.ofName?).map fun k ↦
      { d with kind := some k }) := by
    simp [Draft.member, h]
  exact .single hmember ((readsBack_name (Kind.ofName?_name k)).map _)

theorem leads_text {d : Draft} (h : d.text = none) (text : String) :
    Leads (stringBody .keep) Draft.member d [("reference", .string text)]
      { d with text := some text } := by
  have hmember : Draft.member d "reference" = .ok (Reader.string.map fun s ↦
      { d with text := some s }) := by
    simp [Draft.member, h]
  exact .single hmember ((readsBack_string text).map _)

theorem leads_anchor {d : Draft} (h : d.anchor = none) (anchor : Option String) :
    Leads (stringBody .keep) Draft.member d (anchor.toList.map fun a ↦ ("anchor", .string a))
      { d with anchor := anchor.map some } := by
  have hmember : Draft.member d "anchor" = .ok (Reader.optionalString.map fun a ↦
      { d with anchor := some a }) := by
    simp [Draft.member, h]
  cases anchor with
  | none =>
    rw [Option.map_none, ← h]
    exact .nil
  | some a => exact .single hmember ((readsBack_optionalString a).map _)

theorem leads_typed {d : Draft} (h : d.typed = none) (typed : Option Bool) :
    Leads (stringBody .keep) Draft.member d (typed.toList.map fun b ↦ ("typed", .bool b))
      { d with typed := typed } := by
  have hmember : Draft.member d "typed" = .ok (Reader.boolean.map fun b ↦
      { d with typed := some b }) := by
    simp [Draft.member, h]
  cases typed with
  | none =>
    rw [Option.toList_none, ← h]
    exact .nil
  | some b => exact .single hmember ((readsBack_boolean b).map _)

def drafted (r : Reference) (left : List String) : Draft where
  kind := some r.kind
  text := some r.text
  anchor := (r.defaulted left).anchor.map some
  typed := if "typed" ∈ left then none else some r.typed

theorem finish?_drafted (r : Reference) (left : List String) :
    (r.drafted left).finish? = some (r.defaulted left) := by
  unfold drafted defaulted Draft.finish?
  cases r.anchor <;> split_ifs <;> rfl

theorem toValue_without (r : Reference) {left : List String} (h : left ⊆ ["anchor", "typed"]) :
    r.toValue.without left =
      .object ([("kind", .string r.kind.name)] ++ ([("reference", .string r.text)] ++
        ((r.defaulted left).anchor.toList.map (fun a ↦ ("anchor", .string a)) ++
          (r.drafted left).typed.toList.map fun b ↦ ("typed", .bool b)))) := by
  have hkind : "kind" ∉ left := fun hmem ↦ absurd (h hmem) (by decide)
  have hreference : "reference" ∉ left := fun hmem ↦ absurd (h hmem) (by decide)
  have hanchor : (r.anchor.toList.map fun a ↦ ("anchor", Value.string a)).filter
      (fun m ↦ m.1 ∉ left) =
        (r.defaulted left).anchor.toList.map fun a ↦ ("anchor", .string a) := by
    unfold defaulted
    cases r.anchor <;> by_cases hleft : "anchor" ∈ left <;> simp [hleft]
  have htyped : [("typed", Value.bool r.typed)].filter (fun m ↦ m.1 ∉ left) =
      (r.drafted left).typed.toList.map fun b ↦ ("typed", .bool b) := by
    by_cases hleft : "typed" ∈ left <;> simp [drafted, hleft]
  rw [toValue, Value.without, List.filter_append, List.filter_append, hanchor, htyped]
  simp [hkind, hreference]

theorem read_without (r : Reference) {left : List String} (h : left ⊆ ["anchor", "typed"]) :
    read (r.toValue.without left).write = .ok (r.defaulted left) := by
  have hleads : Leads (stringBody .keep) Draft.member {} _ (r.drafted left) :=
    (leads_kind rfl r.kind).append <| (leads_text rfl r.text).append <|
      (leads_anchor rfl _).append (leads_typed rfl _)
  rw [toValue_without r h]
  exact ((hleads.readsBack_record _).accept (finish?_drafted r left)).run_eq

theorem read_toValue (r : Reference) : read r.toValue.write = .ok r := by
  have hread := r.read_without (List.nil_subset ["anchor", "typed"])
  rwa [Value.without_nil] at hread

end Reference

/-- Options and references are read back from their texts, and from their texts without some of
the fields that have a default as they are with the default in these fields. -/
theorem records_read_back :
    (∀ o : Options, Options.read o.toValue.write = .ok o) ∧
    (∀ r : Reference, Reference.read r.toValue.write = .ok r) ∧
    (∀ (o : Options) (left : List String),
      Options.read (o.toValue.without left).write = .ok (o.defaulted left)) ∧
    ∀ (r : Reference) (left : List String), left ⊆ ["anchor", "typed"] →
      Reference.read (r.toValue.without left).write = .ok (r.defaulted left) :=
  ⟨Options.read_toValue, Reference.read_toValue, Options.read_without,
    fun r _ hleft ↦ r.read_without hleft⟩

theorem records_read_back_untyped :
    Options.read
        "\x7b\"custom_namespaces\":\x7b\"-3\":[\"a\"]\x7d,\"max_depth\":18446744073709551615\x7d" =
      .ok { aliases := .insert ∅ (-3) ["a"], maxDepth := 18446744073709551615 } ∧
    ["typed"] ⊆ ["anchor", "typed"] ∧
    Reference.read "\x7b\"kind\":\"document\",\"reference\":\"a\",\"anchor\":\"b\"\x7d" =
      .ok ⟨.document, "a", some "b", false⟩ := by
  have hleft : ["typed"] ⊆ ["anchor", "typed"] := by decide
  have hoptions := records_read_back.2.2.1
    { aliases := .insert ∅ (-3) ["a"], maxDepth := 18446744073709551615 }
    ["reference_type", "no_toc", "template_macro_prefix"]
  have hreference := records_read_back.2.2.2 ⟨.document, "a", some "b", true⟩ ["typed"] hleft
  refine ⟨?_, hleft, ?_⟩
  · convert hoptions using 2
    · decide +kernel
    · rfl
  · convert hreference using 2
    · decide +kernel
    · rfl

end WikiStream
