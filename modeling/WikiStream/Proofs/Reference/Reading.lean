import WikiStream.Reference

namespace WikiStream.Reference

variable {raw rest word s t p : List Char} {kind : Kind} {r : Reference}

theorem prefix_append_cons_iff {c : Char} (hc : c ∉ p) : p <+: s ++ c :: t ↔ p <+: s := by
  refine ⟨?_, fun h ↦ h.trans (List.prefix_append s _)⟩
  induction p generalizing s with
  | nil => exact fun _ ↦ List.nil_prefix
  | cons d p ih =>
    rw [List.mem_cons, not_or] at hc
    cases s with
    | nil => exact fun h ↦ absurd (List.cons_prefix_cons.1 h).1.symm hc.1
    | cons x s =>
      rw [List.cons_append, List.cons_prefix_cons, List.cons_prefix_cons]
      exact fun h ↦ ⟨h.1, ih hc.2 h.2⟩

/-- Two slashes at the start, which make what stands before the colon a scheme of another sort. -/
def Slashes (rest : List Char) : Prop := "//".toList <+: rest

instance (rest : List Char) : Decidable (Slashes rest) := inferInstanceAs (Decidable (_ <+: _))

theorem slashes_mark_iff : Slashes (s ++ '#' :: t) ↔ Slashes s := prefix_append_cons_iff (by decide)

theorem letters_of_kindOfScheme? (h : kindOfScheme? (String.ofList word) = some kind) :
    ':' ∉ word ∧ '#' ∉ word := by
  have hword : String.ofList word ∈ ["doc", "page", "attach", "url", "mailto", "path"] := by
    unfold kindOfScheme? at h
    split at h <;> simp_all
  have hletters : ∀ w ∈ ["doc", "page", "attach", "url", "mailto", "path"],
      ':' ∉ w.toList ∧ '#' ∉ w.toList := by decide
  simpa only [String.toList_ofList] using hletters _ hword

theorem kindOfScheme?_scheme (kind : Kind) : kindOfScheme? kind.scheme = some kind := by
  cases kind <;> rfl

theorem typedHead?_eq_some_iff :
    typedHead? raw = some (kind, rest) ↔ ∃ word, raw = word ++ ':' :: rest ∧
      kindOfScheme? (String.ofList word) = some kind ∧ ¬Slashes rest := by
  have hslashes (l : List Char) : "//".toList.isPrefixOf l = true ↔ Slashes l :=
    List.isPrefixOf_iff_prefix
  unfold typedHead?
  constructor
  · intro h
    obtain ⟨⟨word, rest'⟩, hsplit, h⟩ := Option.bind_eq_some_iff.1 h
    split at h
    · cases h
    · rename_i hnot
      obtain ⟨kind', hkind, h⟩ := Option.map_eq_some_iff.1 h
      obtain ⟨rfl, rfl⟩ := Prod.mk.inj h
      exact ⟨word, (Text.splitAt?_eq_some_iff.1 hsplit).1, hkind, fun h ↦ hnot ((hslashes _).2 h)⟩
  · rintro ⟨word, rfl, hkind, hnot⟩
    have hsplit : Text.splitAt? ':' (word ++ ':' :: rest) = some (word, rest) :=
      Text.splitAt?_eq_some_iff.2 ⟨rfl, (letters_of_kindOfScheme? hkind).1⟩
    rw [hsplit, Option.bind_some, if_neg (fun h ↦ hnot ((hslashes _).1 h)), hkind, Option.map_some]

theorem typedHead?_scheme (h : ¬Slashes rest) :
    typedHead? (kind.scheme.toList ++ ':' :: rest) = some (kind, rest) := by
  refine typedHead?_eq_some_iff.2 ⟨_, rfl, ?_, h⟩
  rw [String.ofList_toList]
  exact kindOfScheme?_scheme kind

theorem typedHead?_mark (s t : List Char) :
    typedHead? (s ++ '#' :: t) = (typedHead? s).map fun p ↦ (p.1, p.2 ++ '#' :: t) := by
  refine Option.ext fun ⟨kind, rest⟩ ↦ ?_
  rw [typedHead?_eq_some_iff, Option.map_eq_some_iff]
  constructor
  · rintro ⟨word, hword, hkind, hnot⟩
    -- The word and the colon have no number sign in them, so they stand before it.
    have hmark : '#' ∉ word ++ [':'] := by
      simpa using (letters_of_kindOfScheme? hkind).2
    have hprefix : word ++ [':'] <+: s ++ '#' :: t := ⟨rest, by simp [hword]⟩
    obtain ⟨rest', rfl⟩ := (prefix_append_cons_iff hmark).1 hprefix
    obtain rfl : rest' ++ '#' :: t = rest := by simpa using hword
    exact ⟨(kind, rest'), typedHead?_eq_some_iff.2
      ⟨word, by simp, hkind, fun h ↦ hnot (slashes_mark_iff.2 h)⟩, rfl⟩
  · rintro ⟨⟨kind', rest'⟩, hhead, h⟩
    obtain ⟨rfl, rfl⟩ := Prod.mk.inj h
    obtain ⟨word, rfl, hkind, hnot⟩ := typedHead?_eq_some_iff.1 hhead
    exact ⟨word, by simp, hkind, fun h ↦ hnot (slashes_mark_iff.1 h)⟩

theorem hasScheme_iff {target : String} : hasScheme target ↔
    ∃ scheme, (∀ c ∈ scheme, isSchemeChar c) ∧ scheme ++ "://".toList <+: target.toList := by
  unfold hasScheme
  rw [List.isPrefixOf_iff_prefix]
  constructor
  · rintro ⟨rest, hrest⟩
    refine ⟨target.toList.takeWhile isSchemeChar, fun c hc ↦ ?_, rest, ?_⟩
    · exact List.all_eq_true.1 List.all_takeWhile c hc
    · rw [List.append_assoc, hrest, List.takeWhile_append_dropWhile]
  · rintro ⟨scheme, hscheme, rest, hrest⟩
    have hcolon : isSchemeChar ':' = false := by decide
    refine ⟨rest, ?_⟩
    rw [← hrest, List.append_assoc, List.dropWhile_append_of_pos hscheme]
    simp [hcolon]

theorem toList_mark (s t : String) : (s ++ "#" ++ t).toList = s.toList ++ '#' :: t.toList := by
  simp

theorem hasScheme_mark (s t : String) : hasScheme (s ++ "#" ++ t) = hasScheme s := by
  have hmark {scheme : List Char} (h : ∀ c ∈ scheme, isSchemeChar c) :
      '#' ∉ scheme ++ "://".toList := by
    rw [List.mem_append, not_or]
    exact ⟨fun hmem ↦ absurd (h _ hmem) (by decide), by decide⟩
  rw [Bool.eq_iff_iff, hasScheme_iff, hasScheme_iff, toList_mark]
  constructor
  · rintro ⟨scheme, hscheme, h⟩
    exact ⟨scheme, hscheme, (prefix_append_cons_iff (hmark hscheme)).1 h⟩
  · rintro ⟨scheme, hscheme, h⟩
    exact ⟨scheme, hscheme, (prefix_append_cons_iff (hmark hscheme)).2 h⟩

/-- A page as it is written: its anchor stands behind the first number sign, and an empty anchor is
none. -/
inductive PageText : List Char → Reference → Prop
  | plain {page : List Char} (h : '#' ∉ page) : PageText page (document (String.ofList page))
  | marked {page : List Char} (h : '#' ∉ page) :
      PageText (page ++ ['#']) (document (String.ofList page))
  | anchored {page anchor : List Char} (h : '#' ∉ page) (hanchor : anchor ≠ []) :
      PageText (page ++ '#' :: anchor)
        ((document (String.ofList page)).withAnchor (String.ofList anchor))

theorem parsePage_eq_iff : parsePage raw = r ↔ PageText raw r := by
  constructor
  · rintro rfl
    unfold parsePage
    cases hsplit : Text.splitAt? '#' raw with
    | none => exact .plain (Text.splitAt?_eq_none_iff.1 hsplit)
    | some p =>
      obtain ⟨page, anchor⟩ := p
      obtain ⟨rfl, hnot⟩ := Text.splitAt?_eq_some_iff.1 hsplit
      cases anchor with
      | nil => exact .marked hnot
      | cons c anchor => exact .anchored hnot (List.cons_ne_nil c anchor)
  · intro h
    cases h with
    | plain h => rw [parsePage, Text.splitAt?_eq_none_iff.2 h]
    | marked h => rw [parsePage, Text.splitAt?_eq_some_iff.2 ⟨rfl, h⟩]
    | @anchored page anchor h hanchor =>
      rw [parsePage, Text.splitAt?_eq_some_iff.2 ⟨rfl, h⟩]
      cases anchor with
      | nil => exact absurd rfl hanchor
      | cons c anchor => rfl

inductive Written (raw : String) : Reference → Prop
  | page {rest : List Char} {r : Reference} (hhead : typedHead? raw.toList = some (.document, rest))
      (hpage : PageText rest r) : Written raw r
  | typed {kind : Kind} {rest : List Char} (hhead : typedHead? raw.toList = some (kind, rest))
      (hkind : kind ≠ .document) : Written raw ⟨kind, String.ofList rest, none, true⟩
  | address (hhead : typedHead? raw.toList = none) (hscheme : hasScheme raw) :
      Written raw (url raw).untyped
  | bare {r : Reference} (hhead : typedHead? raw.toList = none) (hscheme : hasScheme raw = false)
      (hpage : PageText raw.toList r) : Written raw r.untyped

theorem parse_eq_iff {raw : String} : parse raw = r ↔ Written raw r := by
  constructor
  · rintro rfl
    unfold parse
    split
    · rename_i hhead
      exact .page hhead (parsePage_eq_iff.1 rfl)
    · rename_i hkind hhead
      exact .typed hhead hkind
    · rename_i hhead
      cases hscheme : hasScheme raw with
      | true => exact .address hhead hscheme
      | false => exact .bare hhead hscheme (parsePage_eq_iff.1 rfl)
  · intro h
    cases h with
    | page hhead hpage =>
      rw [parse, hhead]
      exact parsePage_eq_iff.2 hpage
    | @typed kind rest hhead hkind =>
      rw [parse, hhead]
      cases kind <;> first | rfl | exact absurd rfl hkind
    | address hhead hscheme => rw [parse, hhead, if_pos hscheme]
    | bare hhead hscheme hpage =>
      rw [parse, hhead, hscheme, parsePage_eq_iff.2 hpage]
      rfl

def body (r : Reference) : List Char := r.text.toList ++ r.anchor.elim [] fun a ↦ '#' :: a.toList

theorem toList_display (r : Reference) : r.display.toList =
    if r.typed then r.kind.scheme.toList ++ ':' :: r.body else r.body := by
  obtain ⟨kind, text, anchor, typed⟩ := r
  cases anchor <;> cases typed <;> simp [display, body]

/-- What a typed reference needs to be read back: its text does not start with two slashes, and only a
page has an anchor, which is not empty and the only place with a number sign. -/
structure Legible (r : Reference) : Prop where
  slashes : ¬Slashes r.text.toList
  page : r.kind = .document → '#' ∉ r.text.toList ∧ r.anchor ≠ some ""
  other : r.kind ≠ .document → r.anchor = none

theorem slashes_body_iff : Slashes r.body ↔ Slashes r.text.toList := by
  unfold body
  cases r.anchor with
  | none => rw [Option.elim_none, List.append_nil]
  | some a => exact slashes_mark_iff

/-- A page is written as it was read, but for a number sign at the end with nothing behind it. -/
theorem PageText.eq_body (h : PageText raw r) : raw = r.body ∨ raw = r.body ++ ['#'] := by
  cases h with
  | plain => exact .inl (by simp [body, document])
  | marked => exact .inr (by simp [body, document])
  | anchored => exact .inl (by simp [body, document, withAnchor])

theorem PageText.slashes_iff (h : PageText raw r) : Slashes raw ↔ Slashes r.text.toList := by
  rw [← slashes_body_iff]
  rcases h.eq_body with hraw | hraw
  · rw [hraw]
  · rw [hraw]
    exact slashes_mark_iff

theorem PageText.parts (h : PageText raw r) :
    r.kind = .document ∧ r.typed ∧ '#' ∉ r.text.toList ∧ r.anchor ≠ some "" := by
  cases h with
  | plain h => simp [document, h]
  | marked h => simp [document, h]
  | anchored h hanchor => simp [document, withAnchor, h, hanchor]

theorem pageText_body (hkind : r.kind = .document) (htyped : r.typed)
    (htext : '#' ∉ r.text.toList) (hanchor : r.anchor ≠ some "") : PageText r.body r := by
  obtain ⟨kind, text, anchor, typed⟩ := r
  obtain rfl : kind = .document := hkind
  obtain rfl : typed = true := htyped
  cases anchor with
  | none =>
    have hplain := PageText.plain htext
    rwa [String.ofList_toList, ← List.append_nil text.toList] at hplain
  | some a =>
    have hne : a.toList ≠ [] := fun h ↦ hanchor (by rw [String.toList_eq_nil_iff.1 h])
    have hanchored := PageText.anchored htext hne
    rwa [String.ofList_toList, String.ofList_toList] at hanchored

theorem Legible.written (htyped : r.typed) (h : r.Legible) : Written r.display r := by
  have hhead : typedHead? r.display.toList = some (r.kind, r.body) := by
    rw [toList_display, if_pos htyped]
    exact typedHead?_scheme fun hs ↦ h.slashes (slashes_body_iff.1 hs)
  by_cases hkind : r.kind = .document
  · obtain ⟨htext, hanchor⟩ := h.page hkind
    rw [hkind] at hhead
    exact .page hhead (pageText_body hkind htyped htext hanchor)
  · have hwritten := Written.typed hhead hkind
    have hr : ⟨r.kind, String.ofList r.body, none, true⟩ = r := by
      rw [body, h.other hkind, Option.elim_none, List.append_nil, String.ofList_toList,
        ← h.other hkind, ← htyped]
    rwa [hr] at hwritten

theorem Written.legible {raw : String} (h : Written raw r) (htyped : r.typed) : r.Legible := by
  cases h with
  | page hhead hpage =>
    obtain ⟨hkind, -, hparts⟩ := hpage.parts
    obtain ⟨-, -, -, hslashes⟩ := typedHead?_eq_some_iff.1 hhead
    exact ⟨fun hs ↦ hslashes (hpage.slashes_iff.2 hs), fun _ ↦ hparts, fun hne ↦ absurd hkind hne⟩
  | typed hhead hkind =>
    obtain ⟨-, -, -, hslashes⟩ := typedHead?_eq_some_iff.1 hhead
    exact ⟨by rwa [String.toList_ofList], fun h ↦ absurd h hkind, fun _ ↦ rfl⟩
  | address => cases htyped
  | bare => cases htyped

theorem Written.display_of_untyped {raw : String} (h : Written raw r) (huntyped : r.typed = false) :
    Written r.display r := by
  cases h with
  | page hhead hpage => exact absurd hpage.parts.2.1 (by simp [huntyped])
  | typed => cases huntyped
  | address hhead hscheme =>
    have hdisplay : (url raw).untyped.display = raw := by simp [display, url, untyped]
    rw [hdisplay]
    exact .address hhead hscheme
  | @bare r hhead hscheme hpage =>
    obtain ⟨hkind, htyped, htext, hanchor⟩ := hpage.parts
    have hagain := pageText_body hkind htyped htext hanchor
    have hraw := hpage.eq_body
    have hdisplay : r.untyped.display.toList = r.body := toList_display r.untyped
    rw [← hdisplay] at hagain hraw
    rcases hraw with hraw | hraw
    · rw [← String.toList_injective hraw]
      rw [← hraw] at hagain
      exact .bare hhead hscheme hagain
    · -- The number sign at the end is gone, which changes neither the head nor the scheme.
      rw [hraw, typedHead?_mark, Option.map_eq_none_iff] at hhead
      obtain rfl : raw = r.untyped.display ++ "#" ++ "" := by
        rw [← String.toList_inj, toList_mark, hraw]
        rfl
      rw [hasScheme_mark] at hscheme
      exact .bare hhead hscheme hagain

/-- Reading and writing references. What is written for a reference that has been read is read as
that reference, and a typed reference is read back exactly if its text does not start with two
slashes and it is a page with an anchor that is not empty, or none, and no number sign elsewhere, or
something else without an anchor. -/
theorem parse_display : (∀ raw, parse (parse raw).display = parse raw) ∧
    ∀ r : Reference, r.typed → (parse r.display = r ↔ r.Legible) := by
  constructor
  · intro raw
    have hwritten : Written raw (parse raw) := parse_eq_iff.1 rfl
    rw [parse_eq_iff]
    cases htyped : (parse raw).typed with
    | true => exact (hwritten.legible htyped).written htyped
    | false => exact hwritten.display_of_untyped htyped
  · intro r htyped
    rw [parse_eq_iff]
    exact ⟨fun h ↦ h.legible htyped, Legible.written htyped⟩

/-- The slashes of an anchor are no slashes at the start, and of two number signs the first counts. -/
theorem parse_display_slash :
    let r := (document "/").withAnchor "/#b:c"
    r.typed ∧ parse r.display = r ∧ r.display = "doc:/#/#b:c" := by
  intro r
  have hlegible : r.Legible := ⟨by decide, fun _ ↦ by decide, fun h ↦ absurd rfl h⟩
  exact ⟨rfl, (parse_display.2 r rfl).2 hlegible, by decide⟩

end WikiStream.Reference
