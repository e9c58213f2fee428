import WikiStream.Proofs.Json.Meaning
import WikiStream.Proofs.Token.Values
import WikiStream.Proofs.Token.Writing

namespace WikiStream.Token

open Json Reader

section Drafts

variable {ms : List (String × Value)}

theorem folds_others (h : ∀ p ∈ ms, p.1 ≠ "type") (type : Option TokenType)
    (read : List (String × Value)) :
    Folds draftMember (type, read) ms (type, ms.reverse ++ read) := by
  induction ms generalizing read with
  | nil => exact .nil
  | cons p ms ih =>
    have hp : draftMember (type, read) p.1 =
        .ok (any.map fun v ↦ (type, (p.1, v) :: read)) := if_neg (h p List.mem_cons_self)
    have hrest := ih (fun q hq ↦ h q (List.mem_cons_of_mem _ hq)) (p :: read)
    rw [List.reverse_cons, List.append_assoc, List.singleton_append]
    exact .cons hp ((answers_value p.2).map _) hrest

theorem folds_draft {ms₁ ms₂ : List (String × Value)} (h : ∀ p ∈ ms₁ ++ ms₂, p.1 ≠ "type")
    (type : TokenType) :
    Folds draftMember (none, []) (ms₁ ++ ("type", .string type.name) :: ms₂)
      (some type, (ms₁ ++ ms₂).reverse) := by
  have hfirst := folds_others (fun p hp ↦ h p (List.mem_append_left _ hp)) none []
  have htype := ((answers_string type.name).accept (TokenType.ofName?_name type)).map
    fun t ↦ (some t, ms₁.reverse ++ [])
  have hlast := folds_others (fun p hp ↦ h p (List.mem_append_right _ hp)) (some type)
    (ms₁.reverse ++ [])
  rw [List.reverse_append]
  rw [List.append_nil] at hfirst htype hlast
  exact hfirst.append (.cons rfl htype hlast)

theorem ofDraft?_eq_some {token : Token} {others : List (String × Value)}
    (h : RecordMembers (fields token) others) :
    ofDraft? (some token.type, others.reverse) = some token := by
  rw [← List.reverse_reverse others] at h
  obtain ⟨fs, hfs, hrecord⟩ := Record.fields? ⟨_, rfl, h⟩
  rw [ofDraft?, Option.bind_some, hfs, Option.bind_some]
  exact ofFields?_of_areRecord token hrecord

theorem answers_reader {token : Token} {v : Value}
    (h : Record (typed token.type.name (fields token)) v) : Answers reader v token := by
  obtain ⟨ms, rfl, hms⟩ := h
  obtain ⟨ms₁, ms₂, rfl, hothers, hne⟩ := hms.exists_type (type_notMem_keys token)
  have hobject := (answers_object (folds_draft hne token.type)).accept (ofDraft?_eq_some hothers)
  -- A text that starts with a bracket would be read as an array of the fields.
  refine hobject.of_head fun c r s hs hhead ↦ ?_
  cases hs
  unfold outcome reader
  split
  · rename_i hs
    rw [hs] at hhead
    cases hhead _ rfl
  · rfl

theorem forall₂_answers_reader {tokens : List Token} {vs : List Value} (h : Describes tokens vs) :
    List.Forall₂ (Answers reader) vs tokens := by
  induction tokens generalizing vs with
  | nil =>
    obtain rfl : vs = [] := h
    exact .nil
  | cons token rest ih =>
    obtain ⟨v, us, rfl, hv, hrest⟩ := h
    exact .cons (answers_reader hv) (ih hrest)

end Drafts

section Texts

variable {tokens : List Token} {vs : List Value} {w : List Char}

theorem parse_eq (text : String) :
    parse text = match (array reader).outcome text.toList with
      | .error fault => .error (.invalidTokens fault)
      | .ok (tokens, t) =>
        if skipBlanks t = [] then .ok tokens else .error (.invalidTokens .malformed) := by
  rw [parse, run_eq]
  cases (array reader).outcome text.toList with
  | error fault => rfl
  | ok p =>
    dsimp only
    split <;> rfl

theorem outcome_array_reader (h : Describes tokens vs) (hw : Spells w (.array vs)) {b : List Char}
    (hb : Blanks b) (e : List Char) :
    (array reader).outcome (b ++ (w ++ e)) = .ok (tokens, e) := by
  cases hw with
  | array hi => exact (takes_itemsOf (forall₂_answers_reader h) hi).outcome_after rfl hb e

theorem outcome_writeAll (tokens : List Token) (e : List Char) :
    (array reader).outcome ((writeAll tokens).toList ++ e) = .ok (tokens, e) :=
  outcome_array_reader (describes_listToValues tokens) (spells_writeAll tokens) blanks_nil e

/-- What is written is read back, so a text that is read may be written anew. -/
theorem parse_writeAll : (∀ tokens, parse (writeAll tokens) = .ok tokens) ∧
    ∀ text, ((parse text).bind fun tokens ↦ parse (writeAll tokens)) = parse text := by
  have hback (tokens : List Token) : parse (writeAll tokens) = .ok tokens := by
    have h := outcome_writeAll tokens []
    rw [List.append_nil] at h
    rw [parse_eq, h]
    rfl
  refine ⟨hback, fun text ↦ ?_⟩
  cases parse text with
  | error e => rfl
  | ok tokens => exact hback tokens

/-- A written text that goes on is malformed unless blanks follow, and one that is cut short is
truncated, wherever that is. -/
theorem parse_framed (tokens : List Token) :
    (∀ s, parse (writeAll tokens ++ s) = if s.toList.all isBlank then .ok tokens
      else .error (.invalidTokens .malformed)) ∧
    ∀ p q, p ++ q = writeAll tokens → q ≠ "" → parse p = .error (.invalidTokens .truncated) := by
  constructor
  · intro s
    have hblank : skipBlanks s.toList = [] ↔ s.toList.all isBlank = true :=
      List.dropWhile_eq_nil_iff.trans List.all_eq_true.symm
    rw [parse_eq, String.toList_append, outcome_writeAll]
    simp only [hblank]
  · intro p q hpq hq
    have hcut : Cut p.toList (writeAll tokens).toList := by
      refine ⟨q.toList, ?_, ?_⟩
      · rwa [Ne, String.toList_eq_nil_iff]
      · rw [← String.toList_append, hpq]
    have hall := answers_array (forall₂_answers_reader (describes_listToValues tokens))
    have hbreaks := (hall _ (spells_writeAll tokens)).2 (numberFreeItems_listToValues tokens)
    have hp := hbreaks [] p.toList blanks_nil hcut
    rw [List.nil_append] at hp
    rw [parse_eq, hp]

theorem parse_framed_content :
    parse "[\x7b\"type\":\"content\",\"text\":\"a\"\x7d] \n" = .ok [.content "a"] ∧
      parse "[\x7b\"type\":\"content\",\"text\":\"a\"\x7d],"
        = .error (.invalidTokens .malformed) ∧
      parse "[\x7b\"type\":\"content\",\"te" = .error (.invalidTokens .truncated) := by
  have hw : writeAll [.content "a"] = "[\x7b\"type\":\"content\",\"text\":\"a\"\x7d]" := by
    decide
  obtain ⟨hon, hcut⟩ := parse_framed [.content "a"]
  rw [hw] at hon hcut
  exact ⟨hon " \n", hon ",", hcut _ "xt\":\"a\"\x7d]" (by decide) (by decide)⟩

/-- Only what a text means tells which tokens are read from it. -/
theorem parse_of_describes {text : String} (hvalues : Describes tokens vs)
    (htext : Denotes text.toList (.array vs)) : parse text = .ok tokens := by
  obtain ⟨b, w, b', hb, hw, hb', htext⟩ := htext
  have hread : (array reader).outcome text.toList = .ok (tokens, b') := by
    rw [htext]
    exact outcome_array_reader hvalues hw hb b'
  rw [parse_eq, hread]
  exact if_pos (skipBlanks_eq_nil hb')

theorem parse_of_describes_reversed :
    parse "[ \x7b\"x\" : 1,\"kind\":\"element\",\"name\":\"b\",\"type\":\"tag\"\x7d]\n" =
      .ok [.tag (.named "b")] := by
  have hknown : Known (typed "tag" (fields (.tag (.named "b"))))
      [("type", .string "tag"), ("name", .string "b"), ("kind", .string "element")] :=
    .member rfl <| .member rfl <| .absent rfl <| .absent rfl <| .absent rfl <| .member rfl <|
      .absent rfl .nil
  have hperm := List.reverse_perm [("type", Value.string "tag"), ("name", .string "b"),
    ("kind", .string "element"), ("x", .number (.whole 1))]
  have hvalues : Describes [.tag (.named "b")] [.object [("x", .number (.whole 1)),
      ("kind", .string "element"), ("name", .string "b"), ("type", .string "tag")]] := by
    refine ⟨_, _, rfl, ⟨_, rfl, _, [("x", .number (.whole 1))], hknown, ?_, hperm⟩, rfl⟩
    intro p hp
    obtain rfl := List.mem_singleton.1 hp
    decide
  have hblank : Blanks [' '] := by decide
  have htype : Members false _ [("type", .string "tag")] :=
    .member .comma (stringText_flatMap ['t', 'y', 'p', 'e']) blanks_nil blanks_nil
      (spells_writeString "tag") (.close blanks_nil)
  have hname : Members false _ [("name", .string "b"), ("type", .string "tag")] :=
    .member .comma (stringText_flatMap ['n', 'a', 'm', 'e']) blanks_nil blanks_nil
      (spells_writeString "b") htype
  have hkind : Members false _ [("kind", .string "element"), ("name", .string "b"),
      ("type", .string "tag")] :=
    .member .comma (stringText_flatMap ['k', 'i', 'n', 'd']) blanks_nil blanks_nil
      (spells_writeString "element") hname
  have hnumber : Spells ['1'] (.number (.whole 1)) := .positive (by decide)
  have hall := Members.member (.first blanks_nil) (stringText_flatMap ['x']) hblank hblank hnumber
    hkind
  have hspells := Spells.array (.item (.first hblank) (.object hall) (.close blanks_nil))
  exact parse_of_describes hvalues
    ⟨[], _, ['\n'], blanks_nil, hspells, by decide, by decide⟩

end Texts

end WikiStream.Token
