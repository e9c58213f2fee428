import WikiStream.Proofs.Traversal

namespace WikiStream

open Rendering Walk

def Walk.inHeader (level : Level) (id : String) (parameters : Attributes) (m : Walk Unit) :
    Walk Unit := do
  emit [.opening (.header level (some id) parameters)]
  m
  emit [.closing (.header level)]

theorem Walk.Tells.inHeader {m : Walk Unit} {f : Nat → Rendering} (hm : Tells m f) (level : Level)
    (id : String) (parameters : Attributes) :
    Tells (Walk.inHeader level id parameters m) fun d ↦
      Rendering.between [.opening (.header level (some id) parameters)] [.closing (.header level)]
        (f d) :=
  hm.between _ _

namespace Converter

variable (c : Converter) {t anchor : Tag} {level : Level} {id : String} {rest : List Token}

theorem visit_of_leadingAnchor (hrule : c.ruleFor t = .header level)
    (hc : t.children = .tag anchor :: rest) (hname : anchor.name = "span")
    (hid : anchor.attributes.get? "id" = some id) :
    c.visit (.tag t) = Walk.inHeader level id t.attributes (c.traverse anchor.children) := by
  have hanchor : Plan.leadingAnchor? t.children = some id := by
    simp only [hc, Plan.leadingAnchor?, hname, if_true, hid]
  have hplan : c.planFor t = .hoist [.opening (.header level (some id) t.attributes)]
      [.closing (.header level)] := by
    simp only [planFor, hrule, Rule.plan, Plan.header, hanchor]
    simp only [hc, List.isEmpty_cons, Bool.false_eq_true, if_false]
  simp only [visit, hplan]
  obtain ⟨_, attributes, _, _, _, _⟩ := t
  obtain ⟨_, _, inside, _, _, _⟩ := anchor
  obtain rfl : _ = Token.tag ⟨_, _, inside, _, _, _⟩ :: rest := hc
  rfl

/-- A header that starts with an anchor tells the inside of the anchor alone, and its report is that
of the inside. The children after the anchor have their events before the end of the header exactly
where they have no events. -/
theorem hoisting_tells_rest_iff (hrule : c.ruleFor t = .header level)
    (hc : t.children = .tag anchor :: rest) (hname : anchor.name = "span")
    (hid : anchor.attributes.get? "id" = some id) (s : Traversal) :
    let told := ((c.visit (.tag t)).run s).2
    let header := Walk.inHeader level id t.attributes
    told = ((header (c.traverse anchor.children)).run s).2 ∧
      told.report = ((c.traverse anchor.children).run s).2.report ∧
      (told.events = ((header (do c.traverse anchor.children; c.traverse rest)).run s).2.events ↔
        ((c.traverse rest).run s).2.events = s.events) := by
  intro told header
  have hinside := c.traverse_tells anchor.children
  have hrest := c.traverse_tells rest
  have htold : told = ((header (c.traverse anchor.children)).run s).2 := by
    simp only [told, header, c.visit_of_leadingAnchor hrule hc hname hid]
  have hreport : told.report = ((c.traverse anchor.children).run s).2.report := by
    rw [htold, hinside.inHeader level id t.attributes s, hinside s]
    simp only [Traversal.report_extend, report_between]
  refine ⟨htold, hreport, ?_⟩
  -- Both streams have the same header around the inside, so they differ in the rest alone.
  rw [htold, hinside.inHeader level id t.attributes s,
    (hinside.bind hrest).inHeader level id t.attributes s, hrest s]
  simp only [Traversal.events_extend, events_between, events_append, ← Array.toList_inj,
    Array.toList_appendList, List.append_assoc, List.append_cancel_left_eq]
  simp

/-- The title of a heading is lost after an empty anchor, and the report does not say so. -/
theorem hoisting_loses_title :
    let c : Converter := {}
    let anchor := (Tag.named "span").withAttribute "id" "a"
    let heading := (Tag.named "h2").withChildren [.tag anchor, .content "Title"]
    let told := ((c.visit (.tag heading)).run {}).2
    let header := Walk.inHeader (.clamp 2) "a" ∅
    told.events = #[.opening (.header (.clamp 2) (some "a") ∅), .closing (.header (.clamp 2))] ∧
      told.report.isLossless ∧
      told.events ≠ ((header (do
        c.traverse anchor.children
        c.traverse [.content "Title"])).run {}).2.events := by
  intro c anchor heading told header
  have hrule : c.ruleFor heading = .header (.clamp 2) := rfl
  have hc : heading.children = .tag anchor :: [.content "Title"] := rfl
  obtain ⟨htold, hreport, hiff⟩ := c.hoisting_tells_rest_iff hrule hc rfl rfl {}
  have htitle : ((c.traverse [.content "Title"]).run {}).2.events ≠ #[] := by decide +kernel
  refine ⟨congrArg Traversal.events htold, ?_, fun h ↦ htitle (hiff.1 h)⟩
  exact congrArg Report.isLossless hreport

end Converter

end WikiStream
