import WikiStream.Attributes
import WikiStream.Inline
import WikiStream.Reference

namespace WikiStream

structure Level where
  val : Nat
  one_le : 1 ≤ val
  le_six : val ≤ 6
  deriving DecidableEq, Repr

namespace Level

def ofNat? (n : Nat) : Option Level :=
  if h : 1 ≤ n ∧ n ≤ 6 then some ⟨n, h.1, h.2⟩ else none

def clamp (n : Nat) : Level := ⟨max 1 (min n 6), by omega, by omega⟩

end Level

inductive ListKind
  | bulleted
  | numbered
  deriving DecidableEq, Repr

def ListKind.name : ListKind → String
  | bulleted => "bulleted"
  | numbered => "numbered"

inductive Format
  | none
  | bold
  | italic
  | underlined
  | strikedout
  | superscript
  | subscript
  | monospace
  deriving DecidableEq, Repr

def Format.name : Format → String
  | none => "none"
  | bold => "bold"
  | italic => "italic"
  | underlined => "underlined"
  | strikedout => "strikedout"
  | superscript => "superscript"
  | subscript => "subscript"
  | monospace => "monospace"

/-- What both events of a pair say. -/
inductive Construct
  | document
  | header (level : Level)
  | paragraph
  | list (kind : ListKind)
  | listItem
  | definitionList
  | definitionTerm
  | definitionDescription
  | table
  | tableRow
  | tableCell
  | tableHeadCell
  | link
  | group
  | format (format : Format)
  | figure
  | figureCaption
  | unknown (id : String)
  deriving DecidableEq, Repr

def Construct.name : Construct → String
  | document => "document"
  | header _ => "header"
  | paragraph => "paragraph"
  | list _ => "list"
  | listItem => "list_item"
  | definitionList => "definition_list"
  | definitionTerm => "definition_term"
  | definitionDescription => "definition_description"
  | table => "table"
  | tableRow => "table_row"
  | tableCell => "table_cell"
  | tableHeadCell => "table_head_cell"
  | link => "link"
  | group => "group"
  | format _ => "format"
  | figure => "figure"
  | figureCaption => "figure_caption"
  | unknown _ => "unknown"

inductive Opening
  | document
  | header (level : Level) (id : Option String) (parameters : Attributes)
  | paragraph (parameters : Attributes)
  | list (kind : ListKind) (parameters : Attributes)
  | listItem (parameters : Attributes)
  | definitionList (parameters : Attributes)
  | definitionTerm
  | definitionDescription
  | table (parameters : Attributes)
  | tableRow (parameters : Attributes)
  | tableCell (parameters : Attributes)
  | tableHeadCell (parameters : Attributes)
  | link (reference : Reference) (freestanding : Bool) (parameters : Attributes)
  | group (parameters : Attributes)
  | format (format : Format) (parameters : Attributes)
  | figure (parameters : Attributes)
  | figureCaption
  | unknown (id : String) (parameters : Attributes)
  deriving DecidableEq, Repr

def Opening.construct : Opening → Construct
  | document => .document
  | header level _ _ => .header level
  | paragraph _ => .paragraph
  | list k _ => .list k
  | listItem _ => .listItem
  | definitionList _ => .definitionList
  | definitionTerm => .definitionTerm
  | definitionDescription => .definitionDescription
  | table _ => .table
  | tableRow _ => .tableRow
  | tableCell _ => .tableCell
  | tableHeadCell _ => .tableHeadCell
  | link _ _ _ => .link
  | group _ => .group
  | format f _ => .format f
  | figure _ => .figure
  | figureCaption => .figureCaption
  | unknown id _ => .unknown id

inductive Single
  | unknown (id : String) (parameters : Attributes)
  | image (reference : Reference) (freestanding : Bool) (parameters : Attributes)
  | verbatim (content : String) (inline : Bool) (parameters : Attributes)
  | macroCall (id : String) (parameters : Attributes) (content : Option String) (inline : Bool)
  | horizontalLine (parameters : Attributes)
  | text (piece : Inline)
  deriving DecidableEq, Repr

inductive Event
  | opening (opening : Opening)
  | closing (construct : Construct)
  | single (single : Single)
  deriving DecidableEq, Repr

namespace Event

/-- Reads a stream with the names in `pending` open, innermost first, and finds the first event that
closes another name than the innermost one; where none does, the end of a stream that leaves a
name open. -/
def firstFault (pending : List String) (index : Nat) : List Event → Option Nat
  | [] => if pending = [] then none else some index
  | .opening o :: rest => firstFault (o.construct.name :: pending) (index + 1) rest
  | .single _ :: rest => firstFault pending (index + 1) rest
  | .closing c :: rest =>
    match pending with
    | [] => some index
    | name :: pending => if name = c.name then firstFault pending (index + 1) rest else some index

def nestingFault? (events : List Event) : Option Nat := firstFault [] 0 events

end Event

end WikiStream
