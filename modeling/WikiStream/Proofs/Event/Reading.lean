import WikiStream.OutputFormat
import WikiStream.Proofs.Json.Indented
import WikiStream.Proofs.Json.Meaning
import WikiStream.Proofs.Token.Values

namespace WikiStream

open Json

def Level.ofValue? : Value → Option Level
  | .number (.whole n) => ofNat? n.toNat
  | _ => none

def ListKind.ofName? : String → Option ListKind
  | "bulleted" => some .bulleted
  | "numbered" => some .numbered
  | _ => none

def Format.ofName? : String → Option Format
  | "none" => some .none
  | "bold" => some .bold
  | "italic" => some .italic
  | "underlined" => some .underlined
  | "strikedout" => some .strikedout
  | "superscript" => some .superscript
  | "subscript" => some .subscript
  | "monospace" => some .monospace
  | _ => none

def Reference.ofValue? : Value → Option Reference
  | .object [(_, .string kind), (_, .string text), (_, .bool typed)] =>
    (Kind.ofName? kind).map fun k ↦ ⟨k, text, none, typed⟩
  | .object [(_, .string kind), (_, .string text), (_, .string anchor), (_, .bool typed)] =>
    (Kind.ofName? kind).map fun k ↦ ⟨k, text, some anchor, typed⟩
  | _ => none

def Opening.ofValues? (name : String) (values : List Value) : Option Opening :=
  match name, values with
  | "document", [] => some .document
  | "definition_term", [] => some .definitionTerm
  | "definition_description", [] => some .definitionDescription
  | "figure_caption", [] => some .figureCaption
  | "header", [level, id, a] => do
    return .header (← Level.ofValue? level) (← id.optional? Value.string?) (← Attributes.ofValue? a)
  | "list", [.string kind, a] => do
    return .list (← ListKind.ofName? kind) (← Attributes.ofValue? a)
  | "format", [.string span, a] => do
    return .format (← Format.ofName? span) (← Attributes.ofValue? a)
  | "link", [reference, .bool freestanding, a] => do
    return .link (← Reference.ofValue? reference) freestanding (← Attributes.ofValue? a)
  | "unknown", [.string id, a] => (Attributes.ofValue? a).map (.unknown id)
  | "paragraph", [a] => (Attributes.ofValue? a).map .paragraph
  | "list_item", [a] => (Attributes.ofValue? a).map .listItem
  | "definition_list", [a] => (Attributes.ofValue? a).map .definitionList
  | "table", [a] => (Attributes.ofValue? a).map .table
  | "table_row", [a] => (Attributes.ofValue? a).map .tableRow
  | "table_cell", [a] => (Attributes.ofValue? a).map .tableCell
  | "table_head_cell", [a] => (Attributes.ofValue? a).map .tableHeadCell
  | "group", [a] => (Attributes.ofValue? a).map .group
  | "figure", [a] => (Attributes.ofValue? a).map .figure
  | _, _ => none

def Construct.ofValues? (name : String) (values : List Value) : Option Construct :=
  match name, values with
  | "header", [level] => (Level.ofValue? level).map .header
  | "list", [.string kind] => (ListKind.ofName? kind).map .list
  | "format", [.string span] => (Format.ofName? span).map .format
  | "unknown", [.string id] => some (.unknown id)
  | "document", [] => some .document
  | "paragraph", [] => some .paragraph
  | "list_item", [] => some .listItem
  | "definition_list", [] => some .definitionList
  | "definition_term", [] => some .definitionTerm
  | "definition_description", [] => some .definitionDescription
  | "table", [] => some .table
  | "table_row", [] => some .tableRow
  | "table_cell", [] => some .tableCell
  | "table_head_cell", [] => some .tableHeadCell
  | "link", [] => some .link
  | "group", [] => some .group
  | "figure", [] => some .figure
  | "figure_caption", [] => some .figureCaption
  | _, _ => none

def Single.ofValues? (name : String) (values : List Value) : Option Single :=
  match name, values with
  | "unknown", [.string id, a] => (Attributes.ofValue? a).map (.unknown id)
  | "image", [reference, .bool freestanding, a] => do
    return .image (← Reference.ofValue? reference) freestanding (← Attributes.ofValue? a)
  | "verbatim", [.string content, .bool inline, a] =>
    (Attributes.ofValue? a).map (.verbatim content inline)
  | "macro", [.string id, a, content, .bool inline] => do
    return .macroCall id (← Attributes.ofValue? a) (← content.optional? Value.string?) inline
  | "horizontal_line", [a] => (Attributes.ofValue? a).map .horizontalLine
  | "word", [.string word] => some (.text (.word word))
  | "space", [] => some (.text .space)
  | "new_line", [] => some (.text .newLine)
  | "special_symbol", [.string symbol] => symbol.toList.head?.map fun c ↦ .text (.symbol c)
  | _, _ => none

namespace Event

def ofValues? (name : List Char) (values : List Value) : Option Event :=
  match name with
  | 's' :: 't' :: 'a' :: 'r' :: 't' :: '_' :: construct =>
    (Opening.ofValues? (String.ofList construct) values).map .opening
  | 'e' :: 'n' :: 'd' :: '_' :: construct =>
    (Construct.ofValues? (String.ofList construct) values).map .closing
  | name => (Single.ofValues? (String.ofList name) values).map .single

def ofValue? : Value → Option Event
  | .object ((_, .string name) :: members) => ofValues? name.toList (members.map Prod.snd)
  | _ => none

def parse? (text : String) : Option (List Event) :=
  match Reader.run Reader.any text with
  | .ok (.array values) => values.mapM ofValue?
  | _ => none

end Event

theorem Level.ofValue?_val (level : Level) :
    ofValue? (.number (.whole level.val)) = some level := by
  obtain ⟨n, h1, h6⟩ := level
  exact dif_pos ⟨h1, h6⟩

theorem ListKind.ofName?_name (kind : ListKind) : ofName? kind.name = some kind := by
  cases kind <;> rfl

theorem Format.ofName?_name (format : Format) : ofName? format.name = some format := by
  cases format <;> rfl

theorem Reference.ofValue?_toValue (r : Reference) : ofValue? r.toValue = some r := by
  obtain ⟨kind, text, anchor, typed⟩ := r
  cases kind <;> cases anchor <;> rfl

namespace Event

theorem optional?_nullable (text : Option String) :
    (nullable text).optional? Value.string? = some text := by
  cases text <;> rfl

theorem ofValues?_openingMembers (o : Opening) :
    Opening.ofValues? o.construct.name ((openingMembers o).map Prod.snd) = some o := by
  cases o <;>
    simp [openingMembers, Opening.construct, Construct.name, Opening.ofValues?, parametersMember,
      Attributes.ofValue?_toValue, Level.ofValue?_val, ListKind.ofName?_name, Format.ofName?_name,
      Reference.ofValue?_toValue, optional?_nullable]

theorem ofValues?_closingMembers (c : Construct) :
    Construct.ofValues? c.name ((closingMembers c).map Prod.snd) = some c := by
  cases c <;>
    simp [closingMembers, Construct.name, Construct.ofValues?, Level.ofValue?_val,
      ListKind.ofName?_name, Format.ofName?_name]

theorem ofValue?_singleValue (s : Single) : ofValue? (singleValue s) = some (.single s) := by
  cases s with
  | text piece =>
    cases piece <;> simp [singleValue, pieceValue, tagged, ofValue?, ofValues?, Single.ofValues?]
  | _ =>
    simp [singleValue, tagged, ofValue?, ofValues?, Single.ofValues?, parametersMember,
      Attributes.ofValue?_toValue, Reference.ofValue?_toValue, optional?_nullable]

theorem ofValue?_toValue (e : Event) : ofValue? e.toValue = some e := by
  cases e with
  | opening o =>
    have ho := ofValues?_openingMembers o
    simp [toValue, tagged, ofValue?, ofValues?, ho]
  | closing c =>
    have hc := ofValues?_closingMembers c
    simp [toValue, tagged, ofValue?, ofValues?, hc]
  | single s => exact ofValue?_singleValue s

theorem mapM_ofValue?_toValue (events : List Event) :
    (events.map toValue).mapM ofValue? = some events := by
  induction events with
  | nil => rfl
  | cons e events ih =>
    rw [List.map_cons, List.mapM_cons, ofValue?_toValue, ih]
    rfl

@[simp] theorem indentable_parameters (a : Attributes) : a.toValue.Indentable := by
  refine indentable_object fun p hp ↦ ?_
  obtain ⟨q, -, rfl⟩ := List.mem_map.1 hp
  exact indentable_string q.2

@[simp] theorem indentable_level (level : Level) :
    (Value.number (.whole level.val)).Indentable := by
  intro depth
  obtain ⟨n, h1, h6⟩ := level
  have hread : readNumber .keep false (Text.decimalInt n) = .ok (.whole n, []) := by
    obtain rfl | rfl | rfl | rfl | rfl | rfl :
      n = 1 ∨ n = 2 ∨ n = 3 ∨ n = 4 ∨ n = 5 ∨ n = 6 := by omega
    all_goals rfl
  exact .positive hread

@[simp] theorem indentable_nullable (text : Option String) : (nullable text).Indentable := by
  cases text with
  | none => exact indentable_null
  | some text => exact indentable_string text

@[simp] theorem indentable_reference (r : Reference) : r.toValue.Indentable := by
  obtain ⟨kind, text, anchor, typed⟩ := r
  refine indentable_object ?_
  cases anchor <;> simp

theorem indentable_tagged {name : String} {members : List (String × Value)}
    (h : ∀ p ∈ members, p.2.Indentable) : (tagged name members).Indentable :=
  indentable_object (List.forall_mem_cons.2 ⟨indentable_string name, h⟩)

theorem indentable_toValue (e : Event) : e.toValue.Indentable := by
  cases e with
  | opening o =>
    apply indentable_tagged
    cases o <;> simp [openingMembers, parametersMember]
  | closing c =>
    apply indentable_tagged
    cases c <;> simp [closingMembers]
  | single s =>
    cases s with
    | text piece =>
      cases piece <;> exact indentable_tagged (by simp)
    | _ =>
      apply indentable_tagged
      simp [parametersMember]

theorem parse?_write (events : List Event) :
    parse? (OutputFormat.json.write events) = some events := by
  have hall : (Value.array (events.map toValue)).Indentable := by
    refine indentable_array fun v hv ↦ ?_
    obtain ⟨e, -, rfl⟩ := List.mem_map.1 hv
    exact indentable_toValue e
  have hread : Reader.run Reader.any (OutputFormat.json.write events) =
      .ok (.array (events.map toValue)) :=
    (Reader.run_any_eq_ok_iff _ _).2 hall.denotes
  rw [parse?, hread]
  exact mapM_ofValue?_toValue events

end Event

/-- Streams that are written the same are the same, with all that their events carry. -/
theorem OutputFormat.write_json_eq_iff (xs ys : List Event) :
    json.write xs = json.write ys ↔ xs = ys := by
  constructor
  · intro h
    have hread := congrArg Event.parse? h
    rw [Event.parse?_write, Event.parse?_write] at hread
    exact Option.some.inj hread
  · rintro rfl
    rfl

end WikiStream
