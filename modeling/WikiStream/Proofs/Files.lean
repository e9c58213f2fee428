import WikiStream.Proofs.Aliases

namespace WikiStream.Namespace

theorem split?_eq_some_iff {title space rest : String} : split? title = some (space, rest) ↔
    title = space ++ ":" ++ rest ∧ ∃ c cs, space.toList = c :: cs ∧ ':' ∉ cs := by
  unfold split?
  constructor
  · intro h
    split at h
    · cases h
    · rename_i c chars hchars
      obtain ⟨⟨cs, rest'⟩, hsplit, h⟩ := Option.map_eq_some_iff.1 h
      obtain ⟨rfl, rfl⟩ := Prod.mk.inj h
      obtain ⟨rfl, hnot⟩ := Text.splitAt?_eq_some_iff.1 hsplit
      refine ⟨String.toList_injective ?_, c, cs, String.toList_ofList, hnot⟩
      simp [hchars]
  · rintro ⟨rfl, c, cs, hspace, hnot⟩
    have hchars : (space ++ ":" ++ rest).toList = c :: (cs ++ ':' :: rest.toList) := by
      simp [hspace]
    rw [hchars]
    dsimp only
    rw [Text.splitAt?_eq_some_iff.2 ⟨rfl, hnot⟩, Option.map_some, ← hspace, String.ofList_toList,
      String.ofList_toList]

namespace Table

variable {t : Table} {aliases : NumberMap (List String)} {title rest x : String} {key : Int32}

theorem isFile_iff : t.isFile x ↔ t.isNamespace file x ∨ t.isNamespace media x := by
  rw [isFile, Bool.or_eq_true]

theorem fileName?_eq_some_iff : t.fileName? title = some rest ↔
    ∃ space, split? title = some (space, rest) ∧ t.isFile space := by
  simp only [fileName?, Option.bind_eq_some_iff, Prod.exists, Option.ite_none_right_eq_some,
    Option.some.injEq]
  constructor
  · rintro ⟨space, _, hsplit, hfile, rfl⟩
    exact ⟨space, hsplit, hfile⟩
  · rintro ⟨space, hsplit, hfile⟩
    exact ⟨space, rest, hsplit, hfile, rfl⟩

/-- The name of a namespace of files that another namespace has too, with a number smaller than that
of any namespace of files with the name. -/
def Overtaken (aliases : NumberMap (List String)) (x : String) : Prop :=
  (Known aliases file x ∨ Known aliases media x) ∧ ∃ key, Known aliases key x ∧
    (Known aliases file x → key < file) ∧ (Known aliases media x → key < media)

theorem wellFormed_withAliases (aliases : NumberMap (List String)) :
    (withAliases aliases).WellFormed := by
  rw [withAliases_eq]
  exact wellFormed_standard.addAll _

theorem keyOf?_withAliases_eq_some_iff : (withAliases aliases).keyOf? x = some key ↔
    Known aliases key x ∧ ∀ k, Known aliases k x → key ≤ k := by
  simp only [(wellFormed_withAliases aliases).keyOf?_eq_some_iff, isNamespace_withAliases]

theorem exists_keyOf?_withAliases (h : Known aliases key x) :
    ∃ k, (withAliases aliases).keyOf? x = some k := by
  cases hkey : (withAliases aliases).keyOf? x with
  | some k => exact ⟨k, rfl⟩
  | none =>
    have hnot := keyOf?_eq_none_iff.1 hkey key
    rw [isNamespace_withAliases.2 h] at hnot
    cases hnot

theorem isFile_withAliases_iff : (withAliases aliases).isFile x ↔
    Known aliases file x ∨ Known aliases media x := by
  rw [isFile_iff, isNamespace_withAliases, isNamespace_withAliases]

/-- A name is overtaken exactly if it is one of files and the look-up finds another namespace. -/
theorem overtaken_iff : Overtaken aliases x ↔ (withAliases aliases).isFile x ∧
    ∃ key, (withAliases aliases).keyOf? x = some key ∧ key ≠ file ∧ key ≠ media := by
  rw [isFile_withAliases_iff]
  refine and_congr_right fun _ ↦ ?_
  constructor
  · rintro ⟨key, hkey, hfile, hmedia⟩
    obtain ⟨k, hk⟩ := exists_keyOf?_withAliases hkey
    obtain ⟨hknown, hleast⟩ := keyOf?_withAliases_eq_some_iff.1 hk
    refine ⟨k, hk, ?_, ?_⟩
    · rintro rfl
      exact Int32.not_lt.2 (hleast key hkey) (hfile hknown)
    · rintro rfl
      exact Int32.not_lt.2 (hleast key hkey) (hmedia hknown)
  · rintro ⟨key, hkey, hfile, hmedia⟩
    obtain ⟨hknown, hleast⟩ := keyOf?_withAliases_eq_some_iff.1 hkey
    exact ⟨key, hknown, fun h ↦ Int32.lt_of_le_of_ne (hleast file h) hfile,
      fun h ↦ Int32.lt_of_le_of_ne (hleast media h) hmedia⟩

theorem isFile_withAliases_iff_keyOf? : (withAliases aliases).isFile x ↔
    (withAliases aliases).keyOf? x = some file ∨ (withAliases aliases).keyOf? x = some media ∨
      Overtaken aliases x := by
  constructor
  · intro h
    have hexists : ∃ key, (withAliases aliases).keyOf? x = some key := by
      rcases isFile_withAliases_iff.1 h with hfile | hmedia
      · exact exists_keyOf?_withAliases hfile
      · exact exists_keyOf?_withAliases hmedia
    obtain ⟨key, hkey⟩ := hexists
    by_cases hfile : key = file
    · exact .inl (hfile ▸ hkey)
    · by_cases hmedia : key = media
      · exact .inr (.inl (hmedia ▸ hkey))
      · exact .inr (.inr (overtaken_iff.2 ⟨h, key, hkey, hfile, hmedia⟩))
  · rintro (hfile | hmedia | h)
    · exact isFile_withAliases_iff.2 (.inl (keyOf?_withAliases_eq_some_iff.1 hfile).1)
    · exact isFile_withAliases_iff.2 (.inr (keyOf?_withAliases_eq_some_iff.1 hmedia).1)
    · exact (overtaken_iff.1 h).1

/-- Whether a title names a file and what its name is looked up as. The two agree but on names that a
namespace of another sort has taken over: there the title is a file and the look-up finds the other
namespace. -/
theorem file_lookups_agree_iff (aliases : NumberMap (List String)) :
    let t := withAliases aliases
    (∀ title rest, t.fileName? title = some rest ↔ ∃ space, split? title = some (space, rest) ∧
      (t.keyOf? space = some file ∨ t.keyOf? space = some media ∨ Overtaken aliases space)) ∧
    ∀ x, Overtaken aliases x ↔
      t.isFile x ∧ ∃ key, t.keyOf? x = some key ∧ key ≠ file ∧ key ≠ media := by
  intro t
  refine ⟨fun title rest ↦ ?_, fun x ↦ overtaken_iff⟩
  rw [fileName?_eq_some_iff]
  exact exists_congr fun space ↦ and_congr_right fun _ ↦ isFile_withAliases_iff_keyOf?

/-- A title of a file whose name is looked up as that of users. -/
theorem file_lookups_differ : ¬∀ (aliases : NumberMap (List String)) (title rest : String),
    (withAliases aliases).fileName? title = some rest ↔
      ∃ space, split? title = some (space, rest) ∧
        ((withAliases aliases).keyOf? space = some file ∨
          (withAliases aliases).keyOf? space = some media) := by
  intro h
  let aliases : NumberMap (List String) := NumberMap.ofList [(2, ["File"])]
  have hfile : (withAliases aliases).fileName? "File:a.png" = some "a.png" := by decide +kernel
  have hsplit : split? "File:a.png" = some ("File", "a.png") := by decide +kernel
  have hkey : (withAliases aliases).keyOf? "File" = some 2 := by decide +kernel
  obtain ⟨space, hspace, hfound⟩ := (h aliases "File:a.png" "a.png").1 hfile
  obtain rfl : "File" = space := (Prod.mk.inj (Option.some.inj (hsplit.symm.trans hspace))).1
  rw [hkey] at hfound
  revert hfound
  decide

end Table

end WikiStream.Namespace
