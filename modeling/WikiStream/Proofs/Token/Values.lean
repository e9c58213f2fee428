import WikiStream.Proofs.Attributes.Values
import WikiStream.Proofs.Token.Description

namespace WikiStream

open Json

section Specs

variable {v : Value}

theorem Attributes.defaulted?_of_holds {a : Attributes} {o : Option (Part v)}
    (h : a.field.Holds (o.map Subtype.val)) : defaulted? ∅ Attributes.ofValue? o = some a :=
  Json.defaulted?_of_holds h Eq.symm fun _ hw ↦ hw ▸ ofValue?_toValue a

theorem MacroCall.ofValue?_of_record {m : MacroCall} (h : Record m.fields v) :
    ofValue? v = some m := by
  obtain ⟨fs, get, hfs, hget, hholds⟩ :=
    h.lookup? ["id", "inline", "has_content"] rfl (by decide)
  simp only [fields, List.forall_mem_cons] at hholds
  obtain ⟨hid, hinline, hcontent, -⟩ := hholds
  have hid : defaulted? none (Value.optional? Value.string?) (get "id") = some m.id :=
    optional?_of_holds hid (fun _ ↦ rfl) nofun
  have hinline : defaulted? none (Value.optional? Value.bool?) (get "inline") = some m.inline :=
    optional?_of_holds hinline (fun _ ↦ rfl) nofun
  have hcontent : defaulted? true Value.bool? (get "has_content") = some m.hasContent :=
    defaulted?_of_holds hcontent Eq.symm fun _ hw ↦ hw ▸ rfl
  simp [ofValue?, hfs, hget, hid, hinline, hcontent]

theorem LinkTarget.ofValue?_of_describes {t : LinkTarget} (h : t.Describes v) :
    ofValue? v = some t := by
  cases t with
  | internal topic anchor =>
    obtain ⟨w, rfl, h⟩ := h
    obtain ⟨fs, get, hfs, hget, hholds⟩ := h.lookup? ["topic", "anchor"] rfl (by decide)
    simp only [List.forall_mem_cons] at hholds
    obtain ⟨htopic, hanchor, -⟩ := hholds
    have htopic : required? Value.string? (get "topic") = some topic :=
      required?_of_exact htopic
    have hanchor : defaulted? none (Value.optional? Value.string?) (get "anchor") = some anchor :=
      optional?_of_holds hanchor (fun _ ↦ rfl) nofun
    simp [ofValue?, Value.variant?, hfs, hget, htopic, hanchor]
  | external url =>
    obtain ⟨w, rfl, h⟩ := h
    obtain ⟨fs, get, hfs, hget, hholds⟩ := h.lookup? ["url"] rfl (by decide)
    have hurl : required? Value.string? (get "url") = some url :=
      required?_of_exact (hholds _ List.mem_cons_self)
    simp [ofValue?, Value.variant?, hfs, hget, hurl]
  | mailto address =>
    obtain ⟨w, rfl, h⟩ := h
    obtain ⟨fs, get, hfs, hget, hholds⟩ := h.lookup? ["address"] rfl (by decide)
    have haddress : required? Value.string? (get "address") = some address :=
      required?_of_exact (hholds _ List.mem_cons_self)
    simp [ofValue?, Value.variant?, hfs, hget, haddress]

theorem Link.ofValue?_of_record {l : Link} (h : Record l.fields v) : ofValue? v = some l := by
  obtain ⟨fs, get, hfs, hget, hholds⟩ := h.lookup? ["target", "freestanding"] rfl (by decide)
  simp only [fields, List.forall_mem_cons] at hholds
  obtain ⟨htarget, hfree, -⟩ := hholds
  have htarget : required? LinkTarget.ofValue? (get "target") = some l.target :=
    required?_of_holds htarget id fun _ hw ↦ LinkTarget.ofValue?_of_describes hw
  have hfree : defaulted? false Value.bool? (get "freestanding") = some l.freestanding :=
    defaulted?_of_holds hfree Eq.symm fun _ hw ↦ hw ▸ rfl
  simp [ofValue?, hfs, hget, htarget, hfree]

theorem EmbeddedFile.ofValue?_of_record {f : EmbeddedFile} (h : Record f.fields v) :
    ofValue? v = some f := by
  obtain ⟨fs, get, hfs, hget, hholds⟩ := h.lookup?
    ["filename", "namespace", "link", "width", "height", "alt", "caption", "align"] rfl (by decide)
  simp only [fields, List.forall_mem_cons] at hholds
  obtain ⟨hname, hspace, hlink, hwidth, hheight, halt, hcaption, halign, -⟩ := hholds
  have htext (key : String) {a : Option String}
      (ha : (Field.optional key .string a).Holds ((get key).map Subtype.val)) :
      defaulted? none (Value.optional? Value.string?) (get key) = some a :=
    optional?_of_holds ha (fun _ ↦ rfl) nofun
  have hname : required? Value.string? (get "filename") = some f.name :=
    required?_of_exact hname
  have hspace : defaulted? "File" Value.string? (get "namespace") = some f.space :=
    defaulted?_of_holds hspace Eq.symm fun _ hw ↦ hw ▸ rfl
  have hlink := htext "link" hlink
  have hwidth := htext "width" hwidth
  have hheight := htext "height" hheight
  have halt := htext "alt" halt
  have hcaption := htext "caption" hcaption
  have halign := htext "align" halign
  simp [ofValue?, hfs, hget, hname, hspace, hlink, hwidth, hheight, halt, hcaption, halign]

end Specs

theorem TokenType.ofName?_name (t : TokenType) : ofName? t.name = some t := by
  cases t <;> rfl

theorem CellKind.ofValue?_name (k : CellKind) : ofValue? (.string k.name) = some k := by
  cases k <;> rfl

namespace Token

section Arrays

variable {α : Type} {v : Value} {vs : List Value}

theorem mapM_parts (f : Value → Option α) : ((vs.attach.map fun ⟨w, h⟩ ↦
    (⟨w, Value.sizeOf_lt_of_mem_items h⟩ : Part (.array vs))).mapM fun ⟨w, _⟩ ↦ f w) =
      vs.mapM f := by
  rw [List.mapM_map, List.mapM_subtype (g := f) fun _ _ ↦ rfl, List.unattach_attach]

theorem cases_of_arrayField {key : String} {items : List Value → Prop} {mayOmit : Prop}
    {o : Option (Part v)} (h : (arrayField key items mayOmit).Holds (o.map Subtype.val))
    {read : Value → Option α} {a : α} (hread : ∀ vs, items vs → read (.array vs) = some a) :
    (o = none ∧ mayOmit) ∨ ∃ w, o = some w ∧ read w.1 = some a := by
  refine cases_of_holds h ?_
  rintro _ ⟨vs, rfl, hvs⟩
  exact hread vs hvs

theorem listOfValue?_array : listOfValue? (.array vs) = vs.mapM ofValue? := by
  rw [listOfValue?]
  exact mapM_parts ofValue?

theorem nodesOfValue?_array : nodesOfValue? (.array vs) = vs.mapM nodeOfValue? := by
  rw [nodesOfValue?]
  exact mapM_parts nodeOfValue?

theorem rowsOfValue?_array : rowsOfValue? (.array vs) = vs.mapM rowOfValue? := by
  rw [rowsOfValue?]
  exact mapM_parts rowOfValue?

theorem cellsOfValue?_array : cellsOfValue? (.array vs) = vs.mapM cellOfValue? := by
  rw [cellsOfValue?]
  exact mapM_parts cellOfValue?

end Arrays

theorem mapM_cons_eq_some {α : Type} {f : Value → Option α} {v : Value} {vs : List Value} {a : α}
    {as : List α} (hv : f v = some a) (hvs : vs.mapM f = some as) :
    (v :: vs).mapM f = some (a :: as) := by
  rw [List.mapM_cons, hv, hvs]
  rfl

theorem type_notMem_keys (token : Token) : "type" ∉ (fields token).map Field.key := by
  cases token with
  | content text => simp [fields, Field.exact]
  | tag tag =>
    cases tag
    simp [fields, Field.exact, Field.optional, arrayField, Attributes.field]

mutual

theorem ofFields?_of_areRecord (token : Token) {v : Value} {fs : Fields v}
    (h : fs.AreRecord (fields token)) : ofFields? token.type fs = some token := by
  match token with
  | .content text =>
    obtain ⟨get, hget, hholds⟩ := h.lookup? ["text"] rfl (by decide)
    have htext : required? Value.string? (get "text") = some text :=
      required?_of_exact (hholds _ List.mem_cons_self)
    simp [type, ofFields?, hget, htext]
  | .tag ⟨name, attributes, children, body, shape, context⟩ =>
    obtain ⟨get, hget, hholds⟩ := h.lookup?
      ["name", "attributes", "children", "body", "kind", "context"] rfl (by decide)
    simp only [fields, List.forall_mem_cons] at hholds
    obtain ⟨hname, hattributes, hchildren, hbody, hkind, hcontext, -⟩ := hholds
    have hname : required? Value.string? (get "name") = some name := required?_of_exact hname
    have hattributes : defaulted? ∅ Attributes.ofValue? (get "attributes") = some attributes :=
      Attributes.defaulted?_of_holds hattributes
    have hbody : defaulted? none (Value.optional? Value.string?) (get "body") = some body :=
      optional?_of_holds hbody (fun _ ↦ rfl) nofun
    have hcontext : defaulted? none (Value.optional? Value.string?) (get "context") =
        some context := optional?_of_holds hcontext (fun _ ↦ rfl) nofun
    have hchildren : (get "children" = none ∧ children = []) ∨
        ∃ w, get "children" = some w ∧ listOfValue? w.1 = some children :=
      cases_of_arrayField hchildren fun vs hvs ↦
        listOfValue?_array.trans (mapM_of_describes children vs hvs)
    have hkind : (get "kind" = none ∧ shape = .element) ∨
        ∃ w, get "kind" = some w ∧ shapeOfValue? w.1 = some shape :=
      cases_of_holds hkind fun w hw ↦ shapeOfValue?_of_describes shape hw
    -- The children and the shape hold tokens, so they are not read by one of the field readers.
    rw [type, ofFields?]
    simp only [hget, hname, hattributes, hbody, hcontext, Option.bind_eq_bind, Option.bind_some]
    obtain ⟨hnone, hempty⟩ | ⟨w, hsome, hlist⟩ := hchildren <;>
      obtain ⟨hnone', helement⟩ | ⟨x, hsome', hshape⟩ := hkind
    · simp only [hnone, hnone', hempty, helement, pure]
    · simp only [hnone, hsome', hempty, hshape, pure, Option.bind_some]
    · simp only [hsome, hnone', hlist, helement, pure, Option.bind_some]
    · simp only [hsome, hsome', hlist, hshape, pure, Option.bind_some]

theorem mapM_of_describes (tokens : List Token) (vs : List Value) (h : Describes tokens vs) :
    vs.mapM ofValue? = some tokens := by
  match tokens with
  | [] =>
    obtain rfl : vs = [] := h
    rfl
  | token :: rest =>
    obtain ⟨v, us, rfl, hv, hrest⟩ := h
    obtain ⟨fs, hfs, hrecord⟩ := hv.fields?
    obtain ⟨others, hsplit, hothers⟩ :=
      hrecord.split? TokenType.ofValue? (type_notMem_keys token) (TokenType.ofName?_name token.type)
    refine mapM_cons_eq_some ?_ (mapM_of_describes rest us hrest)
    rw [ofValue?, hfs]
    simp only [hsplit, ofFields?_of_areRecord token hothers]

theorem shapeOfValue?_of_describes (shape : Shape) {v : Value} (h : shapeDescribes shape v) :
    shapeOfValue? v = some shape := by
  match shape with
  | .element | .opaqueBody | .template =>
    obtain rfl : v = _ := h
    rw [shapeOfValue?]
    rfl
  | .list nodes =>
    obtain ⟨w, rfl, hw⟩ := h
    obtain ⟨fs, get, hfs, hget, hholds⟩ := hw.lookup? ["elements"] rfl (by decide)
    have hnodes : (get "elements" = none ∧ False) ∨
        ∃ w, get "elements" = some w ∧ nodesOfValue? w.1 = some nodes :=
      cases_of_arrayField (hholds _ List.mem_cons_self) fun vs hvs ↦
        nodesOfValue?_array.trans (mapM_of_nodesDescribe nodes vs hvs)
    rw [shapeOfValue?]
    obtain ⟨-, himpossible⟩ | ⟨x, hsome, hx⟩ := hnodes
    · exact himpossible.elim
    · simp [Value.variant?, hfs, hget, hsome, hx]
  | .table ⟨attributes, rows⟩ =>
    obtain ⟨w, rfl, hw⟩ := h
    obtain ⟨fs, get, hfs, hget, hholds⟩ := hw.lookup? ["attributes", "rows"] rfl (by decide)
    simp only [List.forall_mem_cons] at hholds
    obtain ⟨hattributes, hrows, -⟩ := hholds
    have hattributes : defaulted? ∅ Attributes.ofValue? (get "attributes") = some attributes :=
      Attributes.defaulted?_of_holds hattributes
    have hrows : (get "rows" = none ∧ rows = []) ∨
        ∃ w, get "rows" = some w ∧ rowsOfValue? w.1 = some rows :=
      cases_of_arrayField hrows fun vs hvs ↦
        rowsOfValue?_array.trans (mapM_of_rowsDescribe rows vs hvs)
    rw [shapeOfValue?]
    obtain ⟨hnone, hempty⟩ | ⟨x, hsome, hx⟩ := hrows
    · simp [Value.variant?, hfs, hget, hattributes, hnone, hempty]
    · simp [Value.variant?, hfs, hget, hattributes, hsome, hx]
  | .tableOfContents shown explicit =>
    obtain ⟨w, rfl, hw⟩ := h
    obtain ⟨fs, get, hfs, hget, hholds⟩ := hw.lookup? ["show", "explicit"] rfl (by decide)
    simp only [List.forall_mem_cons] at hholds
    obtain ⟨hshown, hexplicit, -⟩ := hholds
    have hshown : required? Value.bool? (get "show") = some shown :=
      required?_of_exact hshown
    have hexplicit : required? Value.bool? (get "explicit") = some explicit :=
      required?_of_exact hexplicit
    rw [shapeOfValue?]
    simp [Value.variant?, Shape.ofLeaf?, hfs, hget, hshown, hexplicit]
  | .macroCall call =>
    obtain ⟨w, rfl, hw⟩ := h
    rw [shapeOfValue?]
    simp [Value.variant?, Shape.ofLeaf?, MacroCall.ofValue?_of_record hw]
  | .link link =>
    obtain ⟨w, rfl, hw⟩ := h
    rw [shapeOfValue?]
    simp [Value.variant?, Shape.ofLeaf?, Link.ofValue?_of_record hw]
  | .file file =>
    obtain ⟨w, rfl, hw⟩ := h
    rw [shapeOfValue?]
    simp [Value.variant?, Shape.ofLeaf?, EmbeddedFile.ofValue?_of_record hw]

theorem mapM_of_nodesDescribe (nodes : List ListNode) (vs : List Value)
    (h : nodesDescribe nodes vs) : vs.mapM nodeOfValue? = some nodes := by
  match nodes with
  | [] =>
    obtain rfl : vs = [] := h
    rfl
  | .run marker nodes :: rest =>
    obtain ⟨v, us, rfl, hv, hrest⟩ := h
    refine mapM_cons_eq_some ?_ (mapM_of_nodesDescribe rest us hrest)
    obtain ⟨fs, hfs, hrecord⟩ := hv.fields?
    obtain ⟨others, hsplit, hothers⟩ := hrecord.split? NodeType.ofValue? (t := .run)
      (by simp [Field.exact, arrayField]) rfl
    obtain ⟨get, hget, hholds⟩ := hothers.lookup? ["marker", "elements"] rfl (by decide)
    simp only [List.forall_mem_cons] at hholds
    obtain ⟨hmarker, hnodes, -⟩ := hholds
    have hmarker : required? Value.char? (get "marker") = some marker :=
      (required?_of_exact hmarker).trans (by simp [Value.char?, Value.string?])
    have hnodes : (get "elements" = none ∧ nodes = []) ∨
        ∃ w, get "elements" = some w ∧ nodesOfValue? w.1 = some nodes :=
      cases_of_arrayField hnodes fun vs hvs ↦
        nodesOfValue?_array.trans (mapM_of_nodesDescribe nodes vs hvs)
    rw [nodeOfValue?]
    obtain ⟨hnone, hempty⟩ | ⟨x, hsome, hx⟩ := hnodes
    · simp [hfs, hsplit, hget, hmarker, hnone, hempty]
    · simp [hfs, hsplit, hget, hmarker, hsome, hx]
  | .line sequence tokens :: rest =>
    obtain ⟨v, us, rfl, hv, hrest⟩ := h
    refine mapM_cons_eq_some ?_ (mapM_of_nodesDescribe rest us hrest)
    obtain ⟨fs, hfs, hrecord⟩ := hv.fields?
    obtain ⟨others, hsplit, hothers⟩ := hrecord.split? NodeType.ofValue? (t := .line)
      (by simp [Field.exact, arrayField]) rfl
    obtain ⟨get, hget, hholds⟩ := hothers.lookup? ["sequence", "content"] rfl (by decide)
    simp only [List.forall_mem_cons] at hholds
    obtain ⟨hsequence, htokens, -⟩ := hholds
    have hsequence : required? Value.string? (get "sequence") = some sequence :=
      required?_of_exact hsequence
    have htokens : (get "content" = none ∧ tokens = []) ∨
        ∃ w, get "content" = some w ∧ listOfValue? w.1 = some tokens :=
      cases_of_arrayField htokens fun vs hvs ↦
        listOfValue?_array.trans (mapM_of_describes tokens vs hvs)
    rw [nodeOfValue?]
    obtain ⟨hnone, hempty⟩ | ⟨x, hsome, hx⟩ := htokens
    · simp [hfs, hsplit, hget, hsequence, hnone, hempty]
    · simp [hfs, hsplit, hget, hsequence, hsome, hx]

theorem mapM_of_rowsDescribe (rows : List Row) (vs : List Value) (h : rowsDescribe rows vs) :
    vs.mapM rowOfValue? = some rows := by
  match rows with
  | [] =>
    obtain rfl : vs = [] := h
    rfl
  | ⟨attributes, cells⟩ :: rest =>
    obtain ⟨v, us, rfl, hv, hrest⟩ := h
    refine mapM_cons_eq_some ?_ (mapM_of_rowsDescribe rest us hrest)
    obtain ⟨fs, get, hfs, hget, hholds⟩ := hv.lookup? ["attributes", "cells"] rfl (by decide)
    simp only [List.forall_mem_cons] at hholds
    obtain ⟨hattributes, hcells, -⟩ := hholds
    have hattributes : defaulted? ∅ Attributes.ofValue? (get "attributes") = some attributes :=
      Attributes.defaulted?_of_holds hattributes
    have hcells : (get "cells" = none ∧ cells = []) ∨
        ∃ w, get "cells" = some w ∧ cellsOfValue? w.1 = some cells :=
      cases_of_arrayField hcells fun vs hvs ↦
        cellsOfValue?_array.trans (mapM_of_cellsDescribe cells vs hvs)
    rw [rowOfValue?]
    obtain ⟨hnone, hempty⟩ | ⟨x, hsome, hx⟩ := hcells
    · simp [hfs, hget, hattributes, hnone, hempty]
    · simp [hfs, hget, hattributes, hsome, hx]

theorem mapM_of_cellsDescribe (cells : List Cell) (vs : List Value) (h : cellsDescribe cells vs) :
    vs.mapM cellOfValue? = some cells := by
  match cells with
  | [] =>
    obtain rfl : vs = [] := h
    rfl
  | ⟨kind, attributes, tokens⟩ :: rest =>
    obtain ⟨v, us, rfl, hv, hrest⟩ := h
    refine mapM_cons_eq_some ?_ (mapM_of_cellsDescribe rest us hrest)
    obtain ⟨fs, get, hfs, hget, hholds⟩ :=
      hv.lookup? ["kind", "attributes", "content"] rfl (by decide)
    simp only [List.forall_mem_cons] at hholds
    obtain ⟨hkind, hattributes, htokens, -⟩ := hholds
    have hkind : defaulted? .body CellKind.ofValue? (get "kind") = some kind :=
      defaulted?_of_holds hkind Eq.symm fun _ hw ↦ hw ▸ CellKind.ofValue?_name kind
    have hattributes : defaulted? ∅ Attributes.ofValue? (get "attributes") = some attributes :=
      Attributes.defaulted?_of_holds hattributes
    have htokens : (get "content" = none ∧ tokens = []) ∨
        ∃ w, get "content" = some w ∧ listOfValue? w.1 = some tokens :=
      cases_of_arrayField htokens fun vs hvs ↦
        listOfValue?_array.trans (mapM_of_describes tokens vs hvs)
    rw [cellOfValue?]
    obtain ⟨hnone, hempty⟩ | ⟨x, hsome, hx⟩ := htokens
    · simp [hfs, hget, hkind, hattributes, hnone, hempty]
    · simp [hfs, hget, hkind, hattributes, hsome, hx]

end

end Token

end WikiStream
