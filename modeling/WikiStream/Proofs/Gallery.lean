import Mathlib.Data.List.Forall2
import Mathlib.Data.List.TakeWhile
import WikiStream.Macro
import WikiStream.Proofs.Files

namespace WikiStream

namespace Text

variable {s line : String} {c : Char}

theorem trim_eq_empty_iff : trim s = "" ↔ s.toList.all isBlank := by
  have htail : (∀ c ∈ dropTail isBlank s.toList, isBlank c) ↔ ∀ c ∈ s.toList, isBlank c := by
    simp only [dropTail, List.mem_reverse]
    constructor
    · intro h c hc
      have hsplit : s.toList.reverse.takeWhile isBlank ++ s.toList.reverse.dropWhile isBlank =
          s.toList.reverse := List.takeWhile_append_dropWhile
      rw [← List.mem_reverse, ← hsplit, List.mem_append] at hc
      exact hc.elim List.mem_takeWhile_imp (h c)
    · intro h c hc
      exact h c (List.mem_reverse.1 ((List.dropWhile_sublist _).subset hc))
  rw [List.all_eq_true, ← htail, ← List.dropWhile_eq_nil_iff, trim, trimLeft, trimRight,
    String.toList_ofList]
  exact String.ofList_eq_empty_iff

theorem mem_of_mem_trim (h : c ∈ (trim s).toList) : c ∈ s.toList := by
  simp only [trim, trimLeft, trimRight, String.toList_ofList, dropTail] at h
  have hreverse := List.mem_reverse.1 ((List.dropWhile_sublist _).subset h)
  exact List.mem_reverse.1 ((List.dropWhile_sublist _).subset hreverse)

theorem subset_of_dropTail? {tail l rest : List Char} (h : dropTail? tail l = some rest) :
    rest ⊆ l := by
  unfold dropTail? at h
  split at h
  · rw [← Option.some.inj h]
    exact List.take_subset _ _
  · cases h

theorem lineFeed_notMem_of_mem_lines (h : line ∈ lines s) : '\n' ∉ line.toList := by
  simp only [lines, List.mem_map, List.mem_append] at h
  obtain ⟨l, hl, rfl⟩ := h
  rw [String.toList_ofList]
  have hpieces : ∀ piece ∈ splitOn '\n' s.toList, '\n' ∉ piece := fun _ ↦ notMem_of_mem_splitOn
  rcases hl with ⟨piece, hpiece, rfl⟩ | hlast
  · have hfree := hpieces piece (List.dropLast_subset _ hpiece)
    cases hcut : dropTail? ['\r'] piece with
    | none => exact hfree
    | some rest => exact fun hmem ↦ hfree (subset_of_dropTail? hcut hmem)
  · rw [List.getLastD_eq_getLast?] at hlast
    cases hpiece : (splitOn '\n' s.toList).getLast? with
    | none => simp [hpiece] at hlast
    | some piece =>
      have hl : l = piece := by
        rw [hpiece, Option.getD_some] at hlast
        split at hlast
        · cases hlast
        · exact List.mem_singleton.1 hlast
      exact hl ▸ hpieces piece (List.mem_of_getLast? hpiece)

structure FitsLine (s : String) : Prop where
  ne_empty : s ≠ ""
  noFeed : '\n' ∉ s.toList
  noReturn : ¬['\r'] <:+ s.toList

theorem FitsLine.dropTail?_eq_none (h : FitsLine s) : dropTail? ['\r'] s.toList = none := by
  have hsuffix : ['\r'].isSuffixOf s.toList = false := by
    rw [Bool.eq_false_iff, Ne, List.isSuffixOf_iff_suffix]
    exact h.noReturn
  rw [dropTail?, hsuffix]
  rfl

theorem splitOn_intercalate {l : List String} (hl : l ≠ []) (h : ∀ s ∈ l, '\n' ∉ s.toList) :
    splitOn '\n' ("\n".intercalate l).toList = l.map String.toList := by
  match l with
  | [] => exact absurd rfl hl
  | [s] =>
    rw [String.intercalate_singleton, splitOn_of_notMem (h s List.mem_cons_self)]
    rfl
  | s :: t :: rest =>
    obtain ⟨hs, hrest⟩ := List.forall_mem_cons.1 h
    have hbreak : (s ++ "\n" ++ "\n".intercalate (t :: rest)).toList =
        s.toList ++ '\n' :: ("\n".intercalate (t :: rest)).toList := by
      simp
    rw [String.intercalate_cons_cons, hbreak, splitOn_append hs,
      splitOn_intercalate (List.cons_ne_nil _ _) hrest]
    rfl

theorem lines_intercalate {l : List String} (h : ∀ s ∈ l, FitsLine s) :
    lines ("\n".intercalate l) = l := by
  rcases List.eq_nil_or_concat' l with rfl | ⟨first, last, rfl⟩
  · rfl
  · have hsplit := splitOn_intercalate (List.concat_ne_nil last first) fun s hs ↦ (h s hs).noFeed
    have hfirst : (first.map String.toList).map (fun l ↦ (dropTail? ['\r'] l).getD l) =
        first.map String.toList := by
      rw [List.map_map]
      refine List.map_congr_left fun s hs ↦ ?_
      rw [Function.comp_apply, (h s (List.mem_append_left _ hs)).dropTail?_eq_none]
      rfl
    have hlast : last.toList.isEmpty = false := by
      have hne := (h last (List.mem_append_right _ (List.mem_singleton_self _))).ne_empty
      simpa using hne
    simp only [lines, hsplit, List.map_append, List.map_singleton, List.dropLast_concat, hfirst,
      List.getLastD_concat, hlast]
    simp

end Text

namespace Namespace.Table

variable {aliases : NumberMap (List String)} {t : Table} {line name : String}

/-- The line starts with a name of the namespace of direct links to media that the namespace of
files does not have. -/
def NamesMediaAlone (aliases : NumberMap (List String)) (line : String) : Prop :=
  ∃ space name, split? line = some (space, name) ∧ Known aliases media space ∧
    ¬Known aliases file space

/-- The target is the file that the line names behind a namespace, or else the one that all of the
line is the name of. -/
structure SameFile (t : Table) (line target : String) : Prop where
  named : ∀ name, t.fileName? line = some name → t.fileName? target = some name
  unnamed : t.fileName? line = none → t.fileName? target = some line

/-- What stands behind `File` is the name of a file, whatever aliases there are. -/
theorem fileName?_file (aliases : NumberMap (List String)) (name : String) :
    (withAliases aliases).fileName? ("File:" ++ name) = some name := by
  have hsplit : split? ("File:" ++ name) = some ("File", name) :=
    split?_eq_some_iff.2 ⟨rfl, 'F', ['i', 'l', 'e'], rfl, by decide⟩
  have hknown : Known aliases file "File" := ⟨"File", .inl (by decide +kernel), by decide +kernel⟩
  exact fileName?_eq_some_iff.2 ⟨"File", hsplit, isFile_withAliases_iff.2 (.inl hknown)⟩

theorem ne_of_fileName?_eq_some (h : t.fileName? line = some name) : line ≠ name := by
  obtain ⟨space, hsplit, -⟩ := fileName?_eq_some_iff.1 h
  obtain ⟨rfl, c, cs, hspace, -⟩ := split?_eq_some_iff.1 hsplit
  intro hself
  have hlength := congrArg String.length hself
  simp only [String.length_append] at hlength
  have hcolon : ":".length = 1 := rfl
  omega

end Namespace.Table

namespace Macro

open Namespace.Table

variable {aliases : NumberMap (List String)} {line : String}

def galleryTarget (table : Namespace.Table) (line : String) : String :=
  if (Namespace.split? line).any fun p ↦ table.isNamespace Namespace.file p.1 then line
    else "File:" ++ line

theorem galleryLine_eq (table : Namespace.Table) (line : String) :
    galleryLine table line = "[[" ++ galleryTarget table line ++ "]]" := by
  unfold galleryLine galleryTarget
  split
  · rfl
  · rw [← String.append_assoc]
    rfl

/-- A line with a name of the namespace of files in front stays as it is, and all of any other line
is taken for the name of a file. -/
theorem galleryTarget_cases (aliases : NumberMap (List String)) (line : String) :
    let table := withAliases aliases
    let target := galleryTarget table line
    (target = line ∧ ¬NamesMediaAlone aliases line ∧ ∃ name, table.fileName? line = some name) ∨
      (table.fileName? target = some line ∧
        (NamesMediaAlone aliases line ↔ ∃ name, table.fileName? line = some name)) := by
  intro table target
  by_cases hnamed : (Namespace.split? line).any fun p ↦ table.isNamespace Namespace.file p.1
  · obtain ⟨⟨space, name⟩, hsplit, hspace⟩ := (Option.any_eq_true _ _).1 hnamed
    have hknown : Known aliases Namespace.file space := isNamespace_withAliases.1 hspace
    refine .inl ⟨if_pos hnamed, ?_, name, ?_⟩
    · rintro ⟨space', name', hsplit', -, hnot⟩
      obtain ⟨rfl, rfl⟩ := Prod.mk.inj (Option.some.inj (hsplit.symm.trans hsplit'))
      exact hnot hknown
    · exact fileName?_eq_some_iff.2 ⟨space, hsplit, isFile_withAliases_iff.2 (.inl hknown)⟩
  · refine .inr ⟨?_, ?_⟩
    · rw [show target = "File:" ++ line from if_neg hnamed]
      exact fileName?_file aliases line
    · simp only [fileName?_eq_some_iff, table, isFile_withAliases_iff]
      constructor
      · rintro ⟨space, name, hsplit, hmedia, -⟩
        exact ⟨name, space, hsplit, .inr hmedia⟩
      · rintro ⟨name, space, hsplit, hfile⟩
        have hnot : ¬Known aliases Namespace.file space := fun hknown ↦
          hnamed ((Option.any_eq_true _ _).2 ⟨_, hsplit, isNamespace_withAliases.2 hknown⟩)
        exact ⟨space, name, hsplit, hfile.resolve_left hnot, hnot⟩

theorem sameFile_galleryTarget_iff :
    SameFile (withAliases aliases) line (galleryTarget (withAliases aliases) line) ↔
      ¬NamesMediaAlone aliases line := by
  rcases galleryTarget_cases aliases line with ⟨htarget, hnot, name, hname⟩ | ⟨htarget, hiff⟩
  · rw [htarget]
    refine iff_of_true ⟨fun _ ↦ id, fun hnone ↦ ?_⟩ hnot
    rw [hname] at hnone
    cases hnone
  · rw [hiff]
    constructor
    · rintro hsame ⟨name, hname⟩
      have hboth := hsame.named name hname
      rw [htarget] at hboth
      exact ne_of_fileName?_eq_some hname (Option.some.inj hboth)
    · intro hnone
      exact ⟨fun name hname ↦ absurd ⟨name, hname⟩ hnone, fun _ ↦ htarget⟩

theorem fitsLine_galleryLine (table : Namespace.Table) (h : '\n' ∉ line.toList) :
    Text.FitsLine (galleryLine table line) := by
  have htarget : '\n' ∉ (galleryTarget table line).toList := by
    unfold galleryTarget
    split
    · exact h
    · simpa using h
  rw [galleryLine_eq]
  refine ⟨?_, ?_, ?_⟩
  · intro hempty
    have hchars := congrArg String.toList hempty
    simp at hchars
  · simpa using htarget
  · rintro ⟨rest, hrest⟩
    have hclosed : ("[[" ++ galleryTarget table line ++ "]]").toList =
        ("[[" ++ galleryTarget table line ++ "]").toList ++ [']'] := by simp
    have hlast : ['\r'] = [']'] := (List.append_inj' (hrest.trans hclosed) rfl).2
    exact absurd hlast (by decide)

theorem lines_galleryContent (table : Namespace.Table) (source : String) :
    Text.lines (galleryContent table source) =
      ((Text.lines source).filter fun line ↦ !line.toList.all Text.isBlank).map
        (galleryLine table ∘ Text.trim) := by
  have hshown : ((Text.lines source).map Text.trim).filter (· ≠ "") =
      ((Text.lines source).filter fun line ↦ !line.toList.all Text.isBlank).map Text.trim := by
    rw [List.filter_map]
    refine congrArg (List.map Text.trim) (List.filter_congr fun line _ ↦ ?_)
    rw [Function.comp_apply, Bool.eq_iff_iff, decide_eq_true_iff, Ne, Text.trim_eq_empty_iff]
    simp
  rw [galleryContent, hshown, List.map_map]
  refine Text.lines_intercalate fun out hout ↦ ?_
  obtain ⟨line, hline, rfl⟩ := List.mem_map.1 hout
  have hfree : '\n' ∉ line.toList :=
    Text.lineFeed_notMem_of_mem_lines (List.mem_of_mem_filter hline)
  rw [Function.comp_apply]
  exact fitsLine_galleryLine table fun h ↦ hfree (Text.mem_of_mem_trim h)

/-- A gallery has one link for every line that is not blank, in order. The link goes to the file
that the line names, unless the line starts with a name of the namespace of direct links to media
alone: then all of the line is taken for the name of the file. -/
theorem gallery_keeps_file_iff (aliases : NumberMap (List String)) (source : String) :
    let table := withAliases aliases
    List.Forall₂ (fun line out ↦ ∃ target, out = "[[" ++ target ++ "]]" ∧
        (SameFile table (Text.trim line) target ↔ ¬NamesMediaAlone aliases (Text.trim line)) ∧
        (NamesMediaAlone aliases (Text.trim line) →
          table.fileName? target = some (Text.trim line)))
      ((Text.lines source).filter fun line ↦ !line.toList.all Text.isBlank)
      (Text.lines (galleryContent table source)) := by
  intro table
  rw [lines_galleryContent, List.forall₂_map_right_iff, List.forall₂_same]
  intro line _
  rw [Function.comp_apply]
  refine ⟨galleryTarget table (Text.trim line), galleryLine_eq .., sameFile_galleryTarget_iff, ?_⟩
  intro hmedia
  rcases galleryTarget_cases aliases (Text.trim line) with ⟨-, hnot, -⟩ | ⟨htarget, -⟩
  · exact absurd hmedia hnot
  · exact htarget

/-- A direct link to a picture becomes a link to a file with another name. -/
theorem gallery_renames_media :
    let table := withAliases ∅
    ∃ target, Text.lines (galleryContent table "Media:a.png") = ["[[" ++ target ++ "]]"] ∧
      table.fileName? "Media:a.png" = some "a.png" ∧
      table.fileName? target = some "Media:a.png" := by
  intro table
  have hshown : (Text.lines "Media:a.png").filter (fun line ↦ !line.toList.all Text.isBlank) =
      ["Media:a.png"] := by decide +kernel
  have htrim : Text.trim "Media:a.png" = "Media:a.png" := by decide +kernel
  have hmedia : NamesMediaAlone ∅ "Media:a.png" := by
    refine ⟨"Media", "a.png", by decide +kernel, ?_, ?_⟩
    · rw [← isNamespace_withAliases]
      decide +kernel
    · rw [← isNamespace_withAliases]
      decide +kernel
  have hlinks : List.Forall₂ _ _ _ := gallery_keeps_file_iff ∅ "Media:a.png"
  rw [hshown, List.forall₂_cons_left_iff] at hlinks
  obtain ⟨out, rest, ⟨target, rfl, -, hnamed⟩, hrest, hlines⟩ := hlinks
  obtain rfl := List.forall₂_nil_left_iff.1 hrest
  rw [htrim] at hnamed
  exact ⟨target, hlines, by decide +kernel, hnamed hmedia⟩

end Macro

end WikiStream
