import WikiStream.Listener
import WikiStream.Proofs.Trail

namespace WikiStream

open Rendering

namespace Event

def isUnknown : Event → Bool
  | .opening (.unknown _ _) | .closing (.unknown _) | .single (.unknown _ _) => true
  | _ => false

def known (events : List Event) : List Event := events.filter (!·.isUnknown)

theorem known_append (events rest : List Event) :
    known (events ++ rest) = known events ++ known rest :=
  List.filter_append ..

theorem known_eq_self {events : List Event} (h : ∀ e ∈ events, e.isUnknown = false) :
    known events = events := by
  refine List.filter_eq_self.2 fun e he ↦ ?_
  rw [h e he]
  rfl

end Event

namespace Block

variable (b : Block) (parameters : Attributes)

theorem isUnknown_start : (b.start parameters).isUnknown = false := by
  cases b <;> rfl

theorem isUnknown_stop : b.stop.isUnknown = false := by
  cases b <;> rfl

end Block

theorem Plan.writes_linked (target : Option Reference) (freestanding : Bool) (a : Attributes) :
    (Plan.linked target freestanding a).Writes fun e ↦ e.isUnknown = false := by
  cases target with
  | none => simp [Plan.linked, Plan.Writes]
  | some reference => simp [Plan.linked, Plan.Writes, Event.isUnknown]

/-- Only the rule for unknown tags writes events of unknown tags. -/
theorem Rule.writes_known (c : Converter) (t : Tag) {r : Rule} (hr : r ≠ .unknown) :
    (r.plan c t).Writes fun e ↦ e.isUnknown = false := by
  cases r with
  | block b parameters => simp [Rule.plan, Plan.Writes, Block.isUnknown_start, Block.isUnknown_stop]
  | paragraph =>
    simp only [Rule.plan, Plan.paragraph]
    split <;> simp [Plan.Writes, Event.isUnknown]
  | header level =>
    simp only [Rule.plan, Plan.header]
    split
    · simp [Plan.Writes]
    · split <;> simp [Plan.Writes, Event.isUnknown]
  | anchorLink =>
    simp only [Rule.plan, Plan.anchorLink]
    split <;> exact Plan.writes_linked ..
  | wikiLink =>
    simp only [Rule.plan, Plan.wikiLink]
    split <;> exact Plan.writes_linked ..
  | image =>
    simp only [Rule.plan]
    split
    · rename_i f _
      rcases c.resolver.embed f with ⟨reference, _ | link, parameters⟩ | reference <;>
        simp [Plan.embedding, Plan.Writes, Event.isUnknown]
    · simp [Plan.Writes]
  | gallery =>
    simp only [Rule.plan, Plan.single, Plan.Writes, Macro.gallery, Macro.ofTag]
    simp [Event.isUnknown]
  | tableOfContents =>
    simp only [Rule.plan, Macro.tableOfContents, Plan.Writes]
    split <;> split <;> simp [Event.isUnknown]
  | wikiList | wikiTable =>
    simp only [Rule.plan]
    split <;> simp [Plan.Writes]
  | unknown => exact absurd rfl hr
  | boldItalic | font => simp [Rule.plan, Plan.boldItalic, Plan.font, Plan.Writes, Event.isUnknown]
  | newLine | horizontalLine | verbatim inline | source | macroCall id inline | template =>
    simp [Rule.plan, Plan.single, Plan.Writes, Macro.verbatim, Macro.source, Macro.ofTag,
      Macro.template, Event.isUnknown]

inductive Step.Declined : Step → Step → Prop
  | wrote (t : Tag) (events : List Event) : Declined (.wrote t events) (.wrote t (Event.known events))
  | read (text : String) : Declined (.read text) (.read text)
  | cut : Declined .cut .cut

namespace Converter

variable (c : Converter)

def loud : Converter := { c with keepsUnknown := true }

def quiet : Converter := { c with keepsUnknown := false }

theorem declined_portions_of_writes {plan : Plan} (h : plan.Writes fun e ↦ e.isUnknown = false)
    (t : Tag) :
    List.Forall₂ (Portion.Twin Step.Declined t) (plan.portions t) (plan.portions t) := by
  refine Portion.twin_self fun events hp ↦ ?_
  have hknown : ∀ e ∈ events, e.isUnknown = false := fun e he ↦
    Portion.owns_portions Block.isUnknown_start Block.isUnknown_stop h t e (Portion.mem_owns hp he)
  have hstep := Step.Declined.wrote t events
  rwa [Event.known_eq_self hknown] at hstep

theorem declined_portions (t : Tag) :
    List.Forall₂ (Portion.Twin Step.Declined t) ((c.loud.planFor t).portions t)
      ((c.quiet.planFor t).portions t) := by
  have hrule : c.quiet.ruleFor t = c.loud.ruleFor t := rfl
  simp only [planFor, hrule]
  generalize c.loud.ruleFor t = r
  by_cases hr : r = .unknown
  · subst hr
    simp only [Rule.plan, Plan.unknown, loud, quiet]
    cases t.children with
    | nil => exact .cons (.own (.wrote t _)) (.cons (.inside _) (.cons (.own (.wrote t _)) .nil))
    | cons child rest =>
      exact .cons (.own (.wrote t _)) (.cons (.inside _) (.cons (.own (.wrote t _)) .nil))
  · have hplan : r.plan c.quiet t = r.plan c.loud t := by
      cases r with
      | unknown => exact absurd rfl hr
      | _ => rfl
    rw [hplan]
    exact declined_portions_of_writes (Rule.writes_known c.loud t hr) t

theorem fragment_quiet (tokens : List Token) :
    (c.quiet.fragment tokens).events = Event.known (c.loud.fragment tokens).events ∧
      (c.quiet.fragment tokens).report = (c.loud.fragment tokens).report := by
  have hsteps : List.Forall₂ Step.Declined (c.loud.steps tokens) (c.quiet.steps tokens) :=
    forall₂_trail .cut .read c.declined_portions _ _
  rw [← told_steps, ← told_steps]
  refine related_told (R := fun a b ↦ b.events = Event.known a.events ∧ b.report = a.report)
    ⟨rfl, rfl⟩ ?_ ?_ hsteps
  · intro a b a' b' h h'
    refine ⟨?_, congrArg₂ (· + ·) h.2 h'.2⟩
    simp only [events_append, h.1, h'.1, Event.known_append]
  · intro s s' h
    cases h with
    | wrote t events => exact ⟨rfl, rfl⟩
    | cut => exact ⟨rfl, rfl⟩
    | read text =>
      refine ⟨(Event.known_eq_self fun e he ↦ ?_).symm, rfl⟩
      obtain ⟨piece, rfl⟩ := exists_of_mem_ofText he
      rfl

theorem document_quiet (tokens : List Token) :
    (c.quiet.document tokens).events = Event.known (c.loud.document tokens).events ∧
      (c.quiet.document tokens).report = (c.loud.document tokens).report := by
  obtain ⟨hevents, hreport⟩ := c.fragment_quiet tokens
  simp only [document_eq, report_between, events_between, hevents, hreport, Event.known_append,
    and_true]
  rfl

theorem events_tell_recorder (wantsUnknown : Bool) (tokens : List Token) :
    (c.tell (.recorder wantsUnknown) #[] tokens).1.toList =
      ((c.heardBy (.recorder wantsUnknown)).document tokens).events := by
  simp only [tell, Listener.recorder, List.foldl_push_eq_append', Array.toList_append]
  rfl

theorem report_tell {σ : Type} (l : Listener σ) (before : σ) (tokens : List Token) :
    (c.tell l before tokens).2 = (c.loud.document tokens).report := by
  obtain ⟨-, hreport⟩ := c.document_quiet tokens
  cases hl : l.hearsUnknown with
  | true => simp only [tell, heardBy, hl, loud]
  | false =>
    simp only [tell, heardBy, hl]
    exact hreport

/-- A recorder that declines events of unknown tags keeps what any other keeps but for those, and
what is left out is the same for both and for a listener that hears nothing. -/
theorem unknown_channel_filters (tokens : List Token) :
    let all := c.tell (.recorder true) #[] tokens
    let known := c.tell (.recorder false) #[] tokens
    let silent := c.tell .silent () tokens
    known.1.toList = all.1.toList.filter (fun e ↦ !e.isUnknown) ∧
      known.2 = all.2 ∧ silent.2 = all.2 := by
  intro all known silent
  have hreport : all.2 = (c.loud.document tokens).report := c.report_tell ..
  refine ⟨?_, (c.report_tell ..).trans hreport.symm, (c.report_tell ..).trans hreport.symm⟩
  simp only [known, all, events_tell_recorder]
  exact (c.document_quiet tokens).1

end Converter

end WikiStream
