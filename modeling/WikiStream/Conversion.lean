import WikiStream.Plan
import WikiStream.Text.Normal
import WikiStream.Token.Cleanup

namespace WikiStream

structure Report where
  truncated : Nat := 0
  skipped : Nat := 0
  deriving DecidableEq, Repr

def Report.isLossless (r : Report) : Bool := r.truncated = 0 && r.skipped = 0

structure Traversal where
  /-- How many lists of tokens are being walked, each inside the one before. -/
  depth : Nat := 0
  events : Array Event := #[]
  report : Report := {}

abbrev Walk := StateM Traversal

namespace Walk

def emit (events : List Event) : Walk Unit := modify fun t ↦ { t with events := t.events ++ events }

def truncate : Walk Unit :=
  modify fun t ↦ { t with report := { t.report with truncated := t.report.truncated + 1 } }

def skip : Walk Unit :=
  modify fun t ↦ { t with report := { t.report with skipped := t.report.skipped + 1 } }

def descend : Walk Unit := modify fun t ↦ { t with depth := t.depth + 1 }

def ascend : Walk Unit := modify fun t ↦ { t with depth := t.depth - 1 }

def text (parse : Inline.Parser) (text : String) : Walk Unit :=
  let text := Text.normalize text
  if text = "" then pure ()
  else match parse text with
    | .ok pieces => emit (pieces.map fun p ↦ .single (.text p))
    | .error _ => skip

end Walk

namespace Converter

open Walk

def itemMarker (sequence : String) : Char := sequence.toList.getLastD '*'

variable (c : Converter)

mutual

def visit : Token → Walk Unit
  | .content text => Walk.text c.inline text
  | .tag t => follow (c.planFor t) t

def follow : Plan → Tag → Walk Unit
  | .leaf events, _ => emit events
  | .around first last, ⟨_, _, children, _, _, _⟩ => do
    emit first
    traverse children
    emit last
  | .hoist first last, ⟨_, _, .tag ⟨_, _, inside, _, _, _⟩ :: _, _, _, _⟩ => do
    emit first
    traverse inside
    emit last
  | .lines parameters, ⟨_, _, _, _, .list nodes, _⟩ => visitLines parameters nodes
  | .rows, ⟨_, _, _, _, .table table, _⟩ => visitTable table
  | _, _ => pure ()

/-- Walks a list of tokens one level deeper. Past the ceiling the list is left out. -/
def traverse : List Token → Walk Unit
  | [] => pure ()
  | token :: rest => do
    descend
    if (← get).depth > c.options.maxDepth.toNat then truncate
    else do
      visit token
      visitAll rest
    ascend

def visitAll : List Token → Walk Unit
  | [] => pure ()
  | token :: rest => do
    visit token
    visitAll rest

def visitLines (parameters : Attributes) : List ListNode → Walk Unit
  | [] => pure ()
  | .run marker nodes :: rest => do
    emit [(Block.container marker).start parameters, (Block.item marker).start ∅]
    visitItems parameters marker false nodes
    emit [(Block.container marker).stop]
    visitLines parameters rest
  | .line _ tokens :: rest => do
    traverse tokens
    visitLines parameters rest

/-- The rest of a run whose open item is that of the marker `current`, and `used` once a line has
gone into it. Every later line closes the open item and opens one of its own last marker. -/
def visitItems (parameters : Attributes) (current : Char) (used : Bool) :
    List ListNode → Walk Unit
  | [] => emit [(Block.item current).stop]
  | .run marker nodes :: rest => do
    emit [(Block.container marker).start parameters, (Block.item marker).start ∅]
    visitItems parameters marker false nodes
    emit [(Block.container marker).stop]
    visitItems parameters current used rest
  | .line sequence tokens :: rest =>
    if used then do
      emit [(Block.item current).stop, (Block.item (itemMarker sequence)).start ∅]
      traverse tokens
      visitItems parameters (itemMarker sequence) true rest
    else do
      traverse tokens
      visitItems parameters current true rest

/-- A caption that the table starts with comes before it, in a group of its own. Another group is
around both. -/
def visitTable : Table → Walk Unit
  | ⟨parameters, ⟨ofRow, ⟨.caption, _, caption⟩ :: cells⟩ :: rows⟩ => do
    emit [.opening (.group ∅), .opening (.group ∅)]
    traverse caption
    emit [.closing .group, .opening (.table parameters), .opening (.tableRow ofRow)]
    visitCells cells
    emit [.closing .tableRow]
    visitRows rows
    emit [.closing .table, .closing .group]
  | ⟨parameters, rows⟩ => do
    emit [.opening (.table parameters)]
    visitRows rows
    emit [.closing .table]

def visitRows : List Row → Walk Unit
  | [] => pure ()
  | ⟨parameters, cells⟩ :: rest => do
    emit [.opening (.tableRow parameters)]
    visitCells cells
    emit [.closing .tableRow]
    visitRows rest

def visitCells : List Cell → Walk Unit
  | [] => pure ()
  | ⟨.header, parameters, tokens⟩ :: rest => do
    emit [.opening (.tableHeadCell parameters)]
    traverse tokens
    emit [.closing .tableHeadCell]
    visitCells rest
  | ⟨_, parameters, tokens⟩ :: rest => do
    emit [.opening (.tableCell parameters)]
    traverse tokens
    emit [.closing .tableCell]
    visitCells rest

end

def appendFragment (recorded : Array Event) (tokens : List Token) : Array Event × Report :=
  let t := ((traverse c (Token.cleanAll tokens)).run { events := recorded }).2
  (t.events, t.report)

def appendDocument (recorded : Array Event) (tokens : List Token) : Array Event × Report :=
  let (events, report) := c.appendFragment (recorded.push (.opening .document)) tokens
  (events.push (.closing .document), report)

end Converter

structure Rendering where
  events : List Event := []
  report : Report := {}
  deriving DecidableEq

namespace Converter

variable (c : Converter)

def fragment (tokens : List Token) : Rendering :=
  let (events, report) := c.appendFragment #[] tokens
  ⟨events.toList, report⟩

def document (tokens : List Token) : Rendering :=
  let (events, report) := c.appendDocument #[] tokens
  ⟨events.toList, report⟩

end Converter

end WikiStream
