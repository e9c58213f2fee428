import WikiStream.Event

namespace WikiStream

inductive Block
  | format (format : Format)
  | group
  | figure
  | figureCaption
  | list (kind : ListKind)
  | listItem
  | definitionList
  | definitionTerm
  | definitionDescription
  | table
  | tableRow
  | tableCell
  | tableHeadCell
  deriving DecidableEq, Repr

namespace Block

/-- Captions of figures and the parts of a definition list have no parameters. -/
def opening (parameters : Attributes) : Block → Opening
  | format f => .format f parameters
  | group => .group parameters
  | figure => .figure parameters
  | figureCaption => .figureCaption
  | list kind => .list kind parameters
  | listItem => .listItem parameters
  | definitionList => .definitionList parameters
  | definitionTerm => .definitionTerm
  | definitionDescription => .definitionDescription
  | table => .table parameters
  | tableRow => .tableRow parameters
  | tableCell => .tableCell parameters
  | tableHeadCell => .tableHeadCell parameters

def construct : Block → Construct
  | format f => .format f
  | group => .group
  | figure => .figure
  | figureCaption => .figureCaption
  | list kind => .list kind
  | listItem => .listItem
  | definitionList => .definitionList
  | definitionTerm => .definitionTerm
  | definitionDescription => .definitionDescription
  | table => .table
  | tableRow => .tableRow
  | tableCell => .tableCell
  | tableHeadCell => .tableHeadCell

def start (b : Block) (parameters : Attributes) : Event := .opening (b.opening parameters)

def stop (b : Block) : Event := .closing b.construct

def label (b : Block) : String := b.construct.name

def container (marker : Char) : Block :=
  if marker = '*' then .list .bulleted
  else if marker = '#' then .list .numbered
  else .definitionList

def item (marker : Char) : Block :=
  if marker = ';' then .definitionTerm
  else if marker = ':' then .definitionDescription
  else .listItem

end Block

end WikiStream
