import WikiStream.Proofs.Nesting
import WikiStream.Proofs.Segments

namespace WikiStream

open Event

def Cell.opening (k : Cell) : Opening :=
  match k.kind with
  | .header => .tableHeadCell k.attributes
  | .body | .caption => .tableCell k.attributes

namespace Table

def caption? (t : Table) : Option Cell :=
  (t.rows.head?.bind (·.cells.head?)).filter (·.kind = .caption)

def bodyRows (t : Table) : List Row :=
  if t.caption?.isSome then t.rows.modifyHead fun r ↦ ⟨r.attributes, r.cells.tail⟩ else t.rows

structure Layout where
  caption : Option (List Event)
  attributes : Attributes
  rows : List (Attributes × List (Opening × List Event))

def layout (told : List Token → List Event) (t : Table) : Layout where
  caption := t.caption?.map (told ·.content)
  attributes := t.attributes
  rows := t.bodyRows.map fun r ↦ (r.attributes, r.cells.map fun k ↦ (k.opening, told k.content))

namespace Layout

def grid (l : Layout) : List Event :=
  pair (.table l.attributes) (pairs (l.rows.map fun r ↦ (.tableRow r.1, pairs r.2)))

def events (l : Layout) : List Event :=
  match l.caption with
  | some caption => pair (.group ∅) (pair (.group ∅) caption ++ l.grid)
  | none => l.grid

structure WellPaired (l : Layout) : Prop where
  caption : ∀ events ∈ l.caption, Event.WellPaired events
  cells : ∀ r ∈ l.rows, ∀ k ∈ r.2, Event.WellPaired k.2

variable {l m : Layout}

theorem WellPaired.rows (h : l.WellPaired) :
    ∀ p ∈ l.rows.map fun r ↦ (Opening.tableRow r.1, pairs r.2), Event.WellPaired p.2 := by
  intro p hp
  obtain ⟨r, hr, rfl⟩ := List.mem_map.1 hp
  exact wellPaired_pairs (h.cells r hr)

theorem WellPaired.grid (h : l.WellPaired) : Event.WellPaired l.grid :=
  wellPaired_pair (wellPaired_pairs h.rows)

theorem rows_inj {rows rows' : List (Attributes × List (Opening × List Event))}
    (h : ∀ r ∈ rows, ∀ k ∈ r.2, Event.WellPaired k.2)
    (h' : ∀ r ∈ rows', ∀ k ∈ r.2, Event.WellPaired k.2)
    (he : rows.map (fun r ↦ (Opening.tableRow r.1, pairs r.2)) =
      rows'.map (fun r ↦ (Opening.tableRow r.1, pairs r.2))) : rows = rows' := by
  induction rows generalizing rows' with
  | nil => exact (List.map_eq_nil_iff.1 he.symm).symm
  | cons r rows ih =>
    obtain ⟨r', rest, rfl, hr, hrest⟩ := List.map_eq_cons_iff.1 he.symm
    rw [List.forall_mem_cons] at h h'
    obtain ⟨hattributes, hcells⟩ := Prod.mk.inj hr
    rw [Prod.ext (Opening.tableRow.inj hattributes).symm (pairs_inj h.1 h'.1 hcells.symm),
      ih h.2 h'.2 hrest.symm]

theorem grid_inj (hl : l.WellPaired) (hm : m.WellPaired) (h : l.grid = m.grid) :
    l.attributes = m.attributes ∧ l.rows = m.rows := by
  obtain ⟨hattributes, hrows⟩ :=
    pair_inj (wellPaired_pairs hl.rows) (wellPaired_pairs hm.rows) h
  have hmap := pairs_inj hl.rows hm.rows hrows
  exact ⟨Opening.table.inj hattributes, rows_inj hl.cells hm.cells hmap⟩

/-- Everything in a layout can be got back from its events. -/
theorem events_inj (hl : l.WellPaired) (hm : m.WellPaired) (h : l.events = m.events) : l = m := by
  obtain ⟨_ | caption, attributes, rows⟩ := l <;> obtain ⟨_ | caption', attributes', rows'⟩ := m
  · obtain ⟨rfl, rfl⟩ := grid_inj hl hm h
    rfl
  · simp [events, grid, pair] at h
  · simp [events, grid, pair] at h
  · have hcaption := hl.caption caption rfl
    have hcaption' := hm.caption caption' rfl
    obtain ⟨-, hinside⟩ := pair_inj ((wellPaired_pair hcaption).append hl.grid)
      ((wellPaired_pair hcaption').append hm.grid) h
    obtain ⟨-, rfl, hgrid⟩ := pair_append_inj hcaption hcaption' hinside
    obtain ⟨rfl, rfl⟩ := grid_inj hl hm hgrid
    rfl

end Layout

variable (t : Table)

theorem caption_cases :
    (∃ attributes k cells rest, k.kind = .caption ∧ t.rows = ⟨attributes, k :: cells⟩ :: rest ∧
      t.caption? = some k ∧ t.bodyRows = ⟨attributes, cells⟩ :: rest) ∨
    (t.caption? = none ∧ t.bodyRows = t.rows) := by
  cases hcaption : t.caption? with
  | none => exact .inr ⟨rfl, by simp [bodyRows, hcaption]⟩
  | some k =>
    obtain ⟨parameters, _ | ⟨⟨attributes, _ | ⟨first, cells⟩⟩, rest⟩⟩ := t
    · cases hcaption
    · cases hcaption
    · obtain ⟨hfirst, hk⟩ := Option.filter_eq_some_iff.1 hcaption
      obtain rfl := Option.some.inj hfirst
      exact .inl ⟨attributes, first, cells, rest, of_decide_eq_true hk, rfl, rfl,
        by simp [bodyRows, hcaption]⟩

theorem cells_bodyRows :
    t.caption?.toList ++ t.bodyRows.flatMap Row.cells = t.rows.flatMap Row.cells := by
  rcases t.caption_cases with ⟨attributes, k, cells, rest, -, hrows, hk, hbody⟩ | ⟨hk, hbody⟩
  · simp [hrows, hk, hbody]
  · simp [hk, hbody]

theorem attributes_bodyRows : t.bodyRows.map Row.attributes = t.rows.map Row.attributes := by
  rcases t.caption_cases with ⟨attributes, k, cells, rest, -, hrows, hk, hbody⟩ | ⟨hk, hbody⟩
  · simp [hrows, hbody]
  · rw [hbody]

theorem tail_bodyRows : t.bodyRows.tail = t.rows.tail := by
  rcases t.caption_cases with ⟨attributes, k, cells, rest, -, hrows, hk, hbody⟩ | ⟨hk, hbody⟩
  · simp [hrows, hbody]
  · rw [hbody]

theorem wellPaired_layout {told : List Token → List Event}
    (h : ∀ tokens, Event.WellPaired (told tokens)) : (t.layout told).WellPaired where
  caption events he := by
    obtain ⟨k, -, rfl⟩ := Option.map_eq_some_iff.1 he
    exact h _
  cells r hr k hk := by
    obtain ⟨row, -, rfl⟩ := List.mem_map.1 hr
    obtain ⟨cell, -, rfl⟩ := List.mem_map.1 hk
    exact h _

end Table

namespace Rendering

variable (inner : List Token → Rendering)

theorem events_cell (k : Cell) :
    (cell inner k).events = pair k.opening (inner k.content).events := by
  obtain ⟨_ | _ | _, parameters, tokens⟩ := k <;> rfl

theorem events_row (r : Row) : (row inner r).events = pair (.tableRow r.attributes)
    (pairs (r.cells.map fun k ↦ (k.opening, (inner k.content).events))) := by
  rw [row, events_between, events_join, List.flatMap_map, pairs, List.flatMap_map]
  simp only [events_cell]
  rfl

theorem events_grid (parameters : Attributes) (rows : List Row) :
    (grid inner parameters rows).events = pair (.table parameters) (pairs (rows.map fun r ↦
      (.tableRow r.attributes,
        pairs (r.cells.map fun k ↦ (k.opening, (inner k.content).events))))) := by
  rw [grid, events_between, events_join, List.flatMap_map, pairs, List.flatMap_map]
  simp only [events_row]
  rfl

theorem events_table (t : Table) :
    (table inner t).events = (t.layout fun tokens ↦ (inner tokens).events).events := by
  rcases t.caption_cases with ⟨attributes, k, cells, rest, hkind, hrows, hk, hbody⟩ | ⟨hk, hbody⟩
  · obtain ⟨parameters, rows⟩ := t
    obtain ⟨kind, ofCell, content⟩ := k
    obtain rfl : kind = .caption := hkind
    obtain rfl : rows = _ := hrows
    rw [table, grouped, events_between, events_append, events_grid, Table.Layout.events,
      Table.layout, hk, Table.Layout.grid, hbody, List.map_map]
    rfl
  · unfold table
    split
    · simp [Table.caption?] at hk
    · rw [events_grid, Table.Layout.events, Table.layout, hk, Table.Layout.grid, hbody,
        List.map_map]
      rfl

end Rendering

namespace Converter

open Rendering

variable (c : Converter)

/-- What a table tells is its layout, with what its cells tell at this depth: every cell has its
place in it once, the caption that the table starts with in front of the table and any other cell in
its own row. Two tables that tell the same events have the same layout. -/
theorem table_laid_out (t : Table) (s : Traversal) :
    let told (tokens : List Token) := ((c.traverse tokens).told s.depth).events
    (c.visitTable t).run s = ((), s.extend ((c.visitTable t).told s.depth)) ∧
      ((c.visitTable t).told s.depth).events = (t.layout told).events ∧
      t.caption?.toList ++ t.bodyRows.flatMap Row.cells = t.rows.flatMap Row.cells ∧
      t.bodyRows.map Row.attributes = t.rows.map Row.attributes ∧
      t.bodyRows.tail = t.rows.tail ∧
      ∀ t' : Table, ((c.visitTable t').told s.depth).events =
        ((c.visitTable t).told s.depth).events ↔ t'.layout told = t.layout told := by
  intro told
  have htold (tokens : List Token) : told tokens = (c.renderBelow s.depth tokens).events := by
    simp only [told, (c.traverse_tells tokens).told_eq]
  have hevents (t : Table) : ((c.visitTable t).told s.depth).events = (t.layout told).events := by
    rw [(c.visitTable_tells t).told_eq, events_table, funext htold]
  have hpaired (tokens : List Token) : Event.WellPaired (told tokens) := by
    obtain ⟨n, hn⟩ := c.exists_nested_render (c.options.maxDepth.toNat - s.depth) tokens
    rw [htold]
    exact hn.balanced.wellPaired
  refine ⟨?_, hevents t, t.cells_bodyRows, t.attributes_bodyRows, t.tail_bodyRows, fun t' ↦ ?_⟩
  · rw [(c.visitTable_tells t).told_eq]
    exact c.visitTable_tells t s
  · rw [hevents, hevents]
    constructor
    · exact Table.Layout.events_inj (t'.wellPaired_layout hpaired) (t.wellPaired_layout hpaired)
    · intro h
      rw [h]

end Converter

end WikiStream
