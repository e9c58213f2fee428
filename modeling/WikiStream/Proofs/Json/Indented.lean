import WikiStream.Proofs.Json.Grammar

namespace WikiStream.Json

/-- However deep the value stands, its indented text is a text of it. -/
def Value.Indentable (v : Value) : Prop := ∀ depth, Spells (v.indentChars depth) v

variable {vs : List Value} {ms : List (String × Value)}

theorem blanks_newLine (depth : Nat) : Blanks (Value.newLine depth) := by
  intro c hc
  obtain rfl | hc := List.mem_cons.1 hc
  · rfl
  · rw [List.eq_of_mem_replicate hc]
    rfl

theorem Opener.comma_newLine (depth : Nat) : Opener false (',' :: Value.newLine depth) :=
  .next blanks_nil (blanks_newLine depth)

@[simp] theorem indentable_null : Value.null.Indentable := fun _ ↦ .null

@[simp] theorem indentable_bool (b : Bool) : (Value.bool b).Indentable := by
  intro depth
  cases b with
  | false => exact .no
  | true => exact .yes

@[simp] theorem indentable_string (s : String) : (Value.string s).Indentable := fun _ ↦
  spells_writeString s

theorem items_indentItems (h : ∀ v ∈ vs, v.Indentable) (depth outer : Nat) :
    Items false (Value.indentItems depth vs ++ (Value.newLine outer ++ [']'])) vs := by
  induction vs with
  | nil => exact .close (blanks_newLine outer)
  | cons v vs ih =>
    obtain ⟨hv, hvs⟩ := List.forall_mem_cons.1 h
    have hitem := Items.item (Opener.comma_newLine depth) (hv depth) (ih hvs)
    simpa only [Value.indentItems, List.append_assoc, List.cons_append] using hitem

theorem indentable_array (h : ∀ v ∈ vs, v.Indentable) : (Value.array vs).Indentable := by
  intro depth
  cases vs with
  | nil => exact .array (.close blanks_nil)
  | cons v vs =>
    obtain ⟨hv, hvs⟩ := List.forall_mem_cons.1 h
    have hitem := Items.item (.first (blanks_newLine (depth + 1))) (hv (depth + 1))
      (items_indentItems hvs (depth + 1) depth)
    simpa only [Value.indentChars, List.append_assoc] using Spells.array hitem

theorem members_member (key : String) {first : Bool} {o s t : List Char} {v : Value}
    (ho : Opener first o) (hv : Spells s v) (ht : Members false t ms) :
    Members first (o ++ (writeString key ++ ':' :: ' ' :: (s ++ t))) ((key, v) :: ms) := by
  have hspace : Blanks [' '] := by decide
  have hm := Members.member ho (stringText_flatMap key.toList) blanks_nil hspace hv ht
  rw [String.ofList_toList] at hm
  simpa [writeString] using hm

theorem members_indentMembers (h : ∀ p ∈ ms, p.2.Indentable) (depth outer : Nat) :
    Members false (Value.indentMembers depth ms ++ (Value.newLine outer ++ ['\x7d'])) ms := by
  induction ms with
  | nil => exact .close (blanks_newLine outer)
  | cons p ms ih =>
    obtain ⟨key, v⟩ := p
    obtain ⟨hv, hms⟩ := List.forall_mem_cons.1 h
    have hmember := members_member key (Opener.comma_newLine depth) (hv depth) (ih hms)
    simpa only [Value.indentMembers, List.append_assoc, List.cons_append] using hmember

theorem indentable_object (h : ∀ p ∈ ms, p.2.Indentable) : (Value.object ms).Indentable := by
  intro depth
  cases ms with
  | nil => exact .object (.close blanks_nil)
  | cons p ms =>
    obtain ⟨key, v⟩ := p
    obtain ⟨hv, hms⟩ := List.forall_mem_cons.1 h
    have hmember := members_member key (.first (blanks_newLine (depth + 1))) (hv (depth + 1))
      (members_indentMembers hms (depth + 1) depth)
    simpa only [Value.indentChars, List.append_assoc, List.cons_append] using Spells.object hmember

theorem Value.Indentable.denotes {v : Value} (h : v.Indentable) :
    Denotes v.writeIndented.toList v := by
  refine ⟨[], v.indentChars 0, [], blanks_nil, h 0, blanks_nil, ?_⟩
  rw [writeIndented, String.toList_ofList, List.nil_append, List.append_nil]

end WikiStream.Json
