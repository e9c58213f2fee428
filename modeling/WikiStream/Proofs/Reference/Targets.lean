import WikiStream.Proofs.Files
import WikiStream.Proofs.Reference.Reading
import WikiStream.Reference.Resolver

namespace WikiStream

namespace Reference

/-- The same reference with an anchor behind its text. -/
structure Anchored (plain : Reference) (a : String) (r : Reference) : Prop where
  kind : r.kind = plain.kind
  typed : r.typed = plain.typed
  display : r.display = plain.display ++ "#" ++ a

theorem anchored_path (target a : String) : (path target).Anchored a (path (target ++ "#" ++ a)) where
  kind := rfl
  typed := rfl
  display := by simp [display, path, Kind.scheme, String.append_assoc]

variable {r : Reference} {a : String}

theorem anchored_withAnchor (h : r.anchor = none) : r.Anchored a (r.withAnchor a) where
  kind := rfl
  typed := rfl
  display := by
    simp only [display, withAnchor, h, String.append_empty, String.append_assoc]
    rfl

theorem anchored_text (h : r.anchor = none) :
    r.Anchored a { r with text := r.text ++ "#" ++ a } where
  kind := rfl
  typed := rfl
  display := by simp [display, h, String.append_assoc]

theorem Written.mark {raw : String} (h : Written raw r) (hkind : r.kind ≠ .document) (a : String) :
    r.anchor = none ∧ Written (raw ++ "#" ++ a) { r with text := r.text ++ "#" ++ a } := by
  cases h with
  | page hhead hpage => exact absurd hpage.parts.1 hkind
  | @typed kind rest hhead hkind =>
    have hmarked : typedHead? (raw ++ "#" ++ a).toList = some (kind, rest ++ '#' :: a.toList) := by
      rw [toList_mark, typedHead?_mark, hhead, Option.map_some]
    have htext : String.ofList (rest ++ '#' :: a.toList) = String.ofList rest ++ "#" ++ a :=
      String.toList_injective (by rw [toList_mark, String.toList_ofList, String.toList_ofList])
    refine ⟨rfl, ?_⟩
    rw [← htext]
    exact .typed hmarked hkind
  | address hhead hscheme =>
    have hmarked : typedHead? (raw ++ "#" ++ a).toList = none := by
      rw [toList_mark, typedHead?_mark, hhead, Option.map_none]
    exact ⟨rfl, .address hmarked ((hasScheme_mark raw a).trans hscheme)⟩
  | bare hhead hscheme hpage => exact absurd hpage.parts.1 hkind

theorem anchored_parse {raw : String} (h : (parse raw).kind ≠ .document) (a : String) :
    (parse raw).Anchored a (parse (raw ++ "#" ++ a)) := by
  obtain ⟨hanchor, hwritten⟩ := Written.mark (parse_eq_iff.1 rfl) h a
  rw [parse_eq_iff.2 hwritten]
  exact anchored_text hanchor

theorem image_eq_untyped_iff {name : String} :
    Parser.standard.image name = (attachment name).untyped ↔
      typedHead? name.toList = none ∧ hasScheme name = false := by
  have himage : Parser.standard.image name =
      if (parse name).kind = .document ∧ (parse name).typed = false then (attachment name).untyped
      else parse name := rfl
  have hwritten : Written name (parse name) := parse_eq_iff.1 rfl
  rw [himage]
  generalize parse name = r at hwritten
  cases hwritten with
  | page hhead hpage =>
    obtain ⟨hkind, htyped, -⟩ := hpage.parts
    rw [if_neg (by simp [htyped]), hhead]
    refine iff_of_false (fun h ↦ ?_) (by simp)
    rw [h] at htyped
    cases htyped
  | typed hhead hkind =>
    rw [if_neg (by simp), hhead]
    exact iff_of_false (by simp [attachment, untyped]) (by simp)
  | address hhead hscheme =>
    rw [if_neg (by simp [url, untyped]), hscheme]
    exact iff_of_false (by simp [attachment, url, untyped]) (by simp)
  | bare hhead hscheme hpage =>
    rw [if_pos ⟨hpage.parts.1, rfl⟩]
    exact iff_of_true rfl ⟨hhead, hscheme⟩

end Reference

namespace Resolver

open Reference (Anchored document attachment typedHead? hasScheme)

variable {r : Resolver} {target anchor : String}

theorem page_of_kind (h : (r.page target).kind ≠ .document) :
    r.page target = r.parser.link target := by
  unfold page at h ⊢
  split
  · rfl
  · rename_i hpolicy
    rw [if_neg hpolicy] at h
    exact absurd rfl h

/-- A page takes the anchor, and all else is read again with the anchor at its end. -/
theorem page_anchored (hparser : r.parser = .standard) (hown : (r.page target).anchor = none)
    (a : String) : (r.page target).Anchored a
      (if (r.page target).kind = .document then (r.page target).withAnchor a
        else r.parser.link (target ++ "#" ++ a)) := by
  split
  · exact Reference.anchored_withAnchor hown
  · rename_i hkind
    have hparsed : r.page target = Reference.parse target := by
      rw [page_of_kind hkind, hparser]
      rfl
    rw [hparsed] at hkind ⊢
    rw [hparser]
    exact Reference.anchored_parse hkind a

/-- Attaching an anchor, whatever the policy: if nothing is interpreted, or the target is no file,
and the target has no anchor of its own, then the reference is the one without the anchor, and its
text has the anchor behind it. -/
theorem resolve_anchored (hparser : r.parser = .standard) (hanchor : anchor ≠ "")
    (hfile : r.policy = .none ∨ target = "" ∨ r.namespaces.fileName? target = none)
    (hown : (r.resolve target none).anchor = none) :
    (r.resolve target none).Anchored (Anchor.encode anchor) (r.resolve target (some anchor)) := by
  have hasked : ((some anchor).filter (· ≠ "")).map Anchor.encode = some (Anchor.encode anchor) := by
    rw [Option.filter_some, if_pos (decide_eq_true hanchor), Option.map_some]
  by_cases hopaque : r.policy = .none ∨ target = ""
  · have hplain : r.resolve target none = .path target := by
      rw [resolve, if_pos hopaque]
      rfl
    have hfull : r.resolve target (some anchor) =
        .path (target ++ "#" ++ Anchor.encode anchor) := by
      rw [resolve, if_pos hopaque, hasked]
    rw [hplain, hfull]
    exact Reference.anchored_path target _
  · have hname : r.namespaces.fileName? target = none := by
      rcases hfile with h | h | h
      · exact absurd (.inl h) hopaque
      · exact absurd (.inr h) hopaque
      · exact h
    have hplain : r.resolve target none = r.page target := by
      rw [resolve, if_neg hopaque, hname]
      rfl
    rw [hplain] at hown ⊢
    rw [resolve, if_neg hopaque, hname, hasked]
    exact page_anchored hparser hown _

/-- An address that is marked as one, read again with the anchor at its end. -/
theorem resolve_anchored_address :
    let r : Resolver := ⟨.structured, .withAliases (.ofList [(6, ["Файл"])]), .standard, Media.detect⟩
    r.namespaces.fileName? "url:Файл:a/b" = none ∧
      r.resolve "url:Файл:a/b" none = .url "Файл:a/b" ∧
      (r.resolve "url:Файл:a/b" (some "see: é")).kind = .url ∧
      (r.resolve "url:Файл:a/b" (some "see: é")).display = "url:Файл:a/b#see:_.C3.A9" := by
  intro r
  have hfile : r.namespaces.fileName? "url:Файл:a/b" = none := by decide +kernel
  have hplain : r.resolve "url:Файл:a/b" none = .url "Файл:a/b" := by decide +kernel
  have hown : (r.resolve "url:Файл:a/b" none).anchor = none := by rw [hplain]; rfl
  have hanchored : (r.resolve "url:Файл:a/b" none).Anchored (Anchor.encode "see: é")
      (r.resolve "url:Файл:a/b" (some "see: é")) :=
    resolve_anchored rfl (by decide) (.inr (.inr hfile)) hown
  rw [hplain] at hanchored
  exact ⟨hfile, hplain, hanchored.kind, hanchored.display.trans (by decide +kernel)⟩

theorem resolve_file {space : String} (hpolicy : r.policy ≠ .none) (hspace : space ≠ "")
    (hcolon : ':' ∉ space.toList) (hfile : r.namespaces.isFile space) (name : String)
    (anchor : Option String) :
    r.resolve (space ++ ":" ++ name) anchor = attachment (r.clean name) := by
  obtain ⟨c, cs, hchars⟩ := List.exists_cons_of_ne_nil
    (fun h ↦ hspace (String.toList_eq_nil_iff.1 h) : space.toList ≠ [])
  have hsplit : Namespace.split? (space ++ ":" ++ name) = some (space, name) := by
    refine Namespace.split?_eq_some_iff.2 ⟨rfl, c, cs, hchars, fun h ↦ hcolon ?_⟩
    rw [hchars]
    exact List.mem_cons_of_mem c h
  have hname := Namespace.Table.fileName?_eq_some_iff.2 ⟨space, hsplit, hfile⟩
  have hopaque : ¬(r.policy = .none ∨ space ++ ":" ++ name = "") := by
    rw [not_or]
    refine ⟨hpolicy, fun h ↦ ?_⟩
    have hlength := congrArg String.length h
    simp at hlength
  rw [resolve, if_neg hopaque, hname]

/-- An image without a link of its own. It leads to the file of its name and is that file itself, with
the same text in both places, exactly if references are native or its name cannot be read as anything
but a page. -/
theorem embed_same_file_iff {f : EmbeddedFile} (himage : Media.isImage (r.mediaType f.name))
    (hlink : f.link = none) (hspace : f.space ≠ "") (hcolon : ':' ∉ f.space.toList)
    (hfile : r.namespaces.isFile f.space)
    (hpolicy : r.policy = .native ∨ r.policy = .structured ∧ r.parser = .standard) :
    r.embed f = .image (attachment (r.clean f.name)).untyped (some (attachment (r.clean f.name)))
        f.parameters ↔
      (r.policy = .structured → typedHead? f.name.toList = none ∧ hasScheme f.name = false) := by
  have hleads : r.imageLink f = some (attachment (r.clean f.name)) := by
    rw [imageLink, hlink]
    dsimp only
    rw [resolve_file (by rcases hpolicy with h | ⟨h, -⟩ <;> simp [h]) hspace hcolon hfile]
  rw [embed, if_pos himage, hleads]
  simp only [Embedding.image.injEq, and_true]
  rcases hpolicy with hnative | ⟨hstructured, hparser⟩
  · rw [hnative, if_neg (by simp)]
    exact iff_of_true rfl (fun h ↦ nomatch h)
  · have hclean : r.clean f.name = f.name := by
      rw [clean, hstructured, if_neg (by simp)]
    rw [hstructured, if_pos rfl, hparser, hclean, Reference.image_eq_untyped_iff]
    exact ⟨fun h _ ↦ h, fun h ↦ h rfl⟩

/-- A name with a colon, a number sign, a space and a small letter at its start, in a namespace by a
name of its own in other letters. -/
theorem embed_same_file_iff_native :
    let r : Resolver := ⟨.native, .withAliases (.ofList [(6, ["Файл"])]), .standard, Media.detect⟩
    let f : EmbeddedFile := { name := "url:ёж #1.png", space := "ФАЙЛ" }
    Media.isImage (r.mediaType f.name) ∧ r.namespaces.isFile f.space ∧
      r.embed f = .image (attachment "Url:ёж_#1.png").untyped (some (attachment "Url:ёж_#1.png")) ∅ := by
  intro r f
  have himage : Media.isImage (r.mediaType f.name) := by decide +kernel
  have hfile : r.namespaces.isFile f.space := by decide +kernel
  have hclean : r.clean f.name = "Url:ёж_#1.png" := by decide +kernel
  have hsame := (embed_same_file_iff himage rfl (by decide) (by decide) hfile (.inl rfl)).2
    (fun h ↦ nomatch h)
  rw [hclean] at hsame
  exact ⟨himage, hfile, hsame⟩

end Resolver

end WikiStream
