import WikiStream.Proofs.Tags
import WikiStream.Proofs.Traversal

namespace WikiStream.Converter

open Rendering

variable (c : Converter)

theorem render_append (room : Nat) (xs ys : List Token) :
    c.render (room + 1) (xs ++ ys) = c.render (room + 1) xs ++ c.render (room + 1) ys := by
  simp only [render_succ, List.map_append, join_append]

theorem render_zero (tokens : List Token) :
    (c.render 0 tokens).events = [] ∧ (c.render 0 tokens).report.skipped = 0 := by
  cases tokens with
  | nil => exact ⟨rfl, rfl⟩
  | cons token rest => exact ⟨rfl, rfl⟩

/-- Two lists of tokens tell together what they tell apart, also for a recorder that goes on from the
first to the second. Their reports add up, except that without any room the two are left out as one
list. -/
theorem fragment_append (xs ys : List Token) :
    let both := c.fragment (xs ++ ys)
    let first := c.fragment xs
    let second := c.fragment ys
    both.events = first.events ++ second.events ∧
      both.report.skipped = first.report.skipped + second.report.skipped ∧
      (1 ≤ c.options.maxDepth →
        both.report.truncated = first.report.truncated + second.report.truncated) ∧
      ∀ recorded : Array Event, (c.appendFragment recorded (xs ++ ys)).1 =
        (c.appendFragment (c.appendFragment recorded xs).1 ys).1 := by
  intro both first second
  have htrim : Token.trimAll (xs ++ ys) = Token.trimAll xs ++ Token.trimAll ys := by
    simp only [Token.trimAll_eq_map, List.map_append]
  have htogether : both.events = first.events ++ second.events ∧
      both.report.skipped = first.report.skipped + second.report.skipped ∧
      (1 ≤ c.options.maxDepth →
        both.report.truncated = first.report.truncated + second.report.truncated) := by
    simp only [both, first, second, fragment_eq, htrim]
    cases hd : c.options.maxDepth.toNat with
    | zero =>
      obtain ⟨hboth, hskipped⟩ := c.render_zero (Token.trimAll xs ++ Token.trimAll ys)
      obtain ⟨hxs, hxs'⟩ := c.render_zero (Token.trimAll xs)
      obtain ⟨hys, hys'⟩ := c.render_zero (Token.trimAll ys)
      refine ⟨by rw [hboth, hxs, hys]; rfl, by rw [hskipped, hxs', hys'], fun h ↦ ?_⟩
      have hpos : 1 ≤ c.options.maxDepth.toNat := UInt64.le_iff_toNat_le.1 h
      omega
    | succ room =>
      rw [render_append]
      exact ⟨rfl, rfl, fun _ ↦ rfl⟩
  refine ⟨htogether.1, htogether.2.1, htogether.2.2, fun recorded ↦ ?_⟩
  have hevents : both.events = first.events ++ second.events := htogether.1
  simp only [appendFragment_eq]
  apply Array.ext'
  simp only [Array.toList_appendList, List.append_assoc]
  exact congrArg _ hevents

/-- A refused text and a list past the ceiling come before a text that is told in full. -/
theorem fragment_append_after_losses :
    let c : Converter :=
      { options := { maxDepth := 1 }, inline := Inline.refusing fun text ↦
          if text = "!" then some "bang" else none }
    let lost : List Token := [.content "!", .tag ((Tag.named "div").withText "x")]
    (1 : UInt64) ≤ c.options.maxDepth ∧
      (c.fragment (lost ++ [.content "y"])).events =
        (c.fragment lost).events ++ (c.fragment [.content "y"]).events ∧
      (c.fragment (lost ++ [.content "y"])).report.truncated = 1 ∧
      (c.fragment (lost ++ [.content "y"])).report.skipped = 1 := by
  intro c lost
  have hroom : (1 : UInt64) ≤ c.options.maxDepth := by decide
  obtain ⟨hevents, hskipped, htruncated, -⟩ := c.fragment_append lost [.content "y"]
  have hlost : (c.fragment lost).report = ⟨1, 1⟩ := by decide +kernel
  have htold : (c.fragment [.content "y"]).report = ⟨0, 0⟩ := by decide +kernel
  refine ⟨hroom, hevents, ?_, ?_⟩
  · simp only [htruncated hroom, hlost, htold]
  · simp only [hskipped, hlost, htold]

end WikiStream.Converter
