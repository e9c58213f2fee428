import Mathlib.Logic.Basic
import WikiStream.Conversion

namespace WikiStream

instance : Add Report := ⟨fun a b ↦ ⟨a.truncated + b.truncated, a.skipped + b.skipped⟩⟩

namespace Rendering

instance : EmptyCollection Rendering := ⟨{}⟩

instance : Append Rendering := ⟨fun a b ↦ ⟨a.events ++ b.events, a.report + b.report⟩⟩

def ofEvents (events : List Event) : Rendering := ⟨events, {}⟩

def truncated : Rendering := ⟨[], ⟨1, 0⟩⟩

def skipped : Rendering := ⟨[], ⟨0, 1⟩⟩

def ofText (parse : Inline.Parser) (text : String) : Rendering :=
  let text := Text.normalize text
  if text = "" then ∅
  else match parse text with
    | .ok pieces => ofEvents (pieces.map fun p ↦ .single (.text p))
    | .error _ => skipped

def between (first last : List Event) (r : Rendering) : Rendering :=
  ofEvents first ++ r ++ ofEvents last

def join (renderings : List Rendering) : Rendering := renderings.foldr (· ++ ·) ∅

variable (a b d : Rendering)

@[simp] theorem events_empty : (∅ : Rendering).events = [] := rfl

@[simp] theorem events_append : (a ++ b).events = a.events ++ b.events := rfl

@[simp] theorem events_ofEvents (events : List Event) : (ofEvents events).events = events := rfl

@[simp] theorem events_between (first last : List Event) (r : Rendering) :
    (between first last r).events = first ++ r.events ++ last := rfl

@[simp] theorem truncated_append :
    (a ++ b).report.truncated = a.report.truncated + b.report.truncated := rfl

@[simp] theorem truncated_ofEvents (events : List Event) :
    (ofEvents events).report.truncated = 0 := rfl

@[simp] theorem truncated_between (first last : List Event) (r : Rendering) :
    (between first last r).report.truncated = r.report.truncated := by
  simp [between]

@[simp] theorem skipped_append :
    (a ++ b).report.skipped = a.report.skipped + b.report.skipped := rfl

@[simp] theorem skipped_ofEvents (events : List Event) :
    (ofEvents events).report.skipped = 0 := rfl

@[simp] theorem skipped_between (first last : List Event) (r : Rendering) :
    (between first last r).report.skipped = r.report.skipped := by
  simp [between]

theorem report_between (first last : List Event) (r : Rendering) :
    (between first last r).report = r.report :=
  congrArg₂ Report.mk (truncated_between first last r) (skipped_between first last r)

@[ext] theorem ext {a b : Rendering} (he : a.events = b.events)
    (ht : a.report.truncated = b.report.truncated) (hs : a.report.skipped = b.report.skipped) :
    a = b := by
  obtain ⟨_, _, _⟩ := a
  obtain ⟨_, _, _⟩ := b
  simp_all

theorem append_assoc : a ++ b ++ d = a ++ (b ++ d) := by
  ext1
  · exact List.append_assoc ..
  · exact Nat.add_assoc ..
  · exact Nat.add_assoc ..

@[simp] theorem append_empty : a ++ ∅ = a := by
  ext1
  · exact List.append_nil _
  · rfl
  · rfl

@[simp] theorem empty_append : ∅ ++ a = a := by
  ext1
  · rfl
  · exact Nat.zero_add _
  · exact Nat.zero_add _

theorem exists_of_mem_ofText {parse : Inline.Parser} {text : String} {e : Event}
    (h : e ∈ (ofText parse text).events) : ∃ piece, e = .single (.text piece) := by
  unfold ofText at h
  dsimp only at h
  split at h
  · cases h
  · split at h
    · obtain ⟨piece, -, rfl⟩ := List.mem_map.1 h
      exact ⟨piece, rfl⟩
    · cases h

theorem truncated_ofText (parse : Inline.Parser) (text : String) :
    (ofText parse text).report.truncated = 0 := by
  unfold ofText
  dsimp only
  split
  · rfl
  · split <;> rfl

theorem ofEvents_cons_cons (e e' : Event) (rest : List Event) :
    ofEvents (e :: e' :: rest) = ofEvents [e] ++ ofEvents (e' :: rest) := rfl

theorem between_append (first last : List Event) :
    between first last a ++ b = ofEvents first ++ (a ++ (ofEvents last ++ b)) := by
  simp only [between, append_assoc]

@[simp] theorem join_nil : join [] = ∅ := rfl

@[simp] theorem join_cons (rest : List Rendering) : join (a :: rest) = a ++ join rest := rfl

theorem join_append (renderings rest : List Rendering) :
    join (renderings ++ rest) = join renderings ++ join rest := by
  induction renderings with
  | nil => exact (empty_append _).symm
  | cons r renderings ih =>
    simp only [List.cons_append, join_cons, ih]
    exact (append_assoc ..).symm

theorem events_join (renderings : List Rendering) :
    (join renderings).events = renderings.flatMap (·.events) := by
  induction renderings with
  | nil => rfl
  | cons r rest ih => rw [join_cons, events_append, ih, List.flatMap_cons]

variable (inner : List Token → Rendering)

/-- The rest of a run: `current` is the marker of the open item, which `used` says whether a line
has gone into. -/
def items (parameters : Attributes) (current : Char) (used : Bool) : List ListNode → Rendering
  | [] => ofEvents [(Block.item current).stop]
  | .run marker nodes :: rest =>
    between [(Block.container marker).start parameters, (Block.item marker).start ∅]
      [(Block.container marker).stop] (items parameters marker false nodes) ++
      items parameters current used rest
  | .line sequence tokens :: rest =>
    if used then
      ofEvents [(Block.item current).stop, (Block.item (Converter.itemMarker sequence)).start ∅] ++
        (inner tokens ++ items parameters (Converter.itemMarker sequence) true rest)
    else inner tokens ++ items parameters current true rest

def run (parameters : Attributes) (marker : Char) (nodes : List ListNode) : Rendering :=
  between [(Block.container marker).start parameters, (Block.item marker).start ∅]
    [(Block.container marker).stop] (items inner parameters marker false nodes)

def line (parameters : Attributes) : ListNode → Rendering
  | .run marker nodes => run inner parameters marker nodes
  | .line _ tokens => inner tokens

def lines (parameters : Attributes) (nodes : List ListNode) : Rendering :=
  join (nodes.map (line inner parameters))

theorem lines_cons (parameters : Attributes) (node : ListNode) (rest : List ListNode) :
    lines inner parameters (node :: rest) =
      line inner parameters node ++ lines inner parameters rest := rfl

def cell : Cell → Rendering
  | ⟨.header, parameters, tokens⟩ =>
    between [.opening (.tableHeadCell parameters)] [.closing .tableHeadCell] (inner tokens)
  | ⟨_, parameters, tokens⟩ =>
    between [.opening (.tableCell parameters)] [.closing .tableCell] (inner tokens)

def row (r : Row) : Rendering :=
  between [.opening (.tableRow r.attributes)] [.closing .tableRow] (join (r.cells.map (cell inner)))

def grid (parameters : Attributes) (rows : List Row) : Rendering :=
  between [.opening (.table parameters)] [.closing .table] (join (rows.map (row inner)))

def grouped (r : Rendering) : Rendering := between [.opening (.group ∅)] [.closing .group] r

def table : Table → Rendering
  | ⟨parameters, ⟨ofRow, ⟨.caption, _, caption⟩ :: cells⟩ :: rows⟩ =>
    grouped (grouped (inner caption) ++ grid inner parameters (⟨ofRow, cells⟩ :: rows))
  | ⟨parameters, rows⟩ => grid inner parameters rows

def ofPlan : Plan → Tag → Rendering
  | .leaf events, _ => ofEvents events
  | .around first last, t => between first last (inner t.children)
  | .hoist first last, ⟨_, _, .tag anchor :: _, _, _, _⟩ =>
    between first last (inner anchor.children)
  | .lines parameters, ⟨_, _, _, _, .list nodes, _⟩ => lines inner parameters nodes
  | .rows, ⟨_, _, _, _, .table t, _⟩ => table inner t
  | _, _ => ∅

end Rendering

namespace Converter

open Rendering

theorem planFor_congr {c c' : Converter} (hregistry : c'.registry = c.registry)
    (hresolver : c'.resolver = c.resolver) (hnoToc : c'.options.noToc = c.options.noToc)
    (hname : c'.options.templatePrefix = c.options.templatePrefix)
    (hunknown : c'.keepsUnknown = c.keepsUnknown) (t : Tag) : c'.planFor t = c.planFor t := by
  have hrule : c'.ruleFor t = c.ruleFor t := by simp only [ruleFor, hregistry]
  rw [planFor, planFor, hrule]
  cases c.ruleFor t <;> simp only [Rule.plan, hresolver, hnoToc, hname, hunknown]

variable (c : Converter)

def renderToken (inner : List Token → Rendering) : Token → Rendering
  | .content text => ofText c.inline text
  | .tag t => ofPlan inner (c.planFor t) t

/-- What a list of tokens shows where `room` lists may lie inside each other. -/
def render : Nat → List Token → Rendering
  | _, [] => ∅
  | 0, _ :: _ => truncated
  | room + 1, tokens => join (tokens.map (c.renderToken (render room)))

@[simp] theorem render_nil (room : Nat) : c.render room [] = ∅ := by
  cases room <;> rfl

@[simp] theorem render_zero_cons (token : Token) (rest : List Token) :
    c.render 0 (token :: rest) = truncated := rfl

theorem render_succ (room : Nat) (tokens : List Token) :
    c.render (room + 1) tokens = join (tokens.map (c.renderToken (c.render room))) := by
  cases tokens <;> rfl

end Converter

end WikiStream
