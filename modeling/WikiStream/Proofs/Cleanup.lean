import WikiStream.Proofs.Skeleton

namespace WikiStream.Token

mutual

def containersOf : Token → List (List Token)
  | .content _ => []
  | .tag ⟨_, _, children, _, shape, _⟩ =>
    children :: (containers children ++ containersOfShape shape)

def containers : List Token → List (List Token)
  | [] => []
  | token :: rest => containersOf token ++ containers rest

def containersOfShape : Shape → List (List Token)
  | .list nodes => containersOfNodes nodes
  | .table ⟨_, rows⟩ => containersOfRows rows
  | _ => []

def containersOfNodes : List ListNode → List (List Token)
  | [] => []
  | .run _ nodes :: rest => containersOfNodes nodes ++ containersOfNodes rest
  | .line _ tokens :: rest => tokens :: (containers tokens ++ containersOfNodes rest)

def containersOfRows : List Row → List (List Token)
  | [] => []
  | ⟨_, cells⟩ :: rest => containersOfCells cells ++ containersOfRows rest

def containersOfCells : List Cell → List (List Token)
  | [] => []
  | ⟨_, _, tokens⟩ :: rest => tokens :: (containers tokens ++ containersOfCells rest)

end

def text? : Token → Option String
  | .content text => some text
  | .tag _ => none

def texts (tokens : List Token) : List (Option String) := tokens.map text?

/-- What is left of the text at place `i` of `length`. -/
def cutAt (length i : Nat) (text : String) : String :=
  let text := if i = 0 then Edge.first.cut text else text
  if i + 1 = length then Edge.last.cut text else text

def cutTexts (texts : List (Option String)) : List (Option String) :=
  texts.mapIdx fun i ↦ Option.map (cutAt texts.length i)

/-- The second tree is the first one with the edges of its containers trimmed. -/
structure EdgesTrimmed (tokens cleaned : List Token) : Prop where
  skeleton : skeleton cleaned = skeleton tokens
  texts : texts cleaned = texts tokens
  containers : (containers cleaned).map Token.texts =
    (containers tokens).map fun inside ↦ cutTexts (Token.texts inside)

theorem texts_trimEdges (tokens : List Token) :
    texts (trimEdges tokens) = cutTexts (texts tokens) := by
  apply List.ext_getElem?
  intro i
  simp only [texts, cutTexts, List.getElem?_map, List.getElem?_mapIdx, getElem?_trimEdges,
    List.length_map, Option.map_map]
  congr 1
  funext token
  simp only [Function.comp_apply]
  cases token with
  | content text =>
    simp only [text?, Option.map_some, cutAt]
    split_ifs <;> rfl
  | tag t => split_ifs <;> rfl

theorem texts_trimAll (tokens : List Token) : texts (trimAll tokens) = texts tokens := by
  rw [trimAll_eq_map, texts, texts, List.map_map]
  refine List.map_congr_left fun token _ ↦ ?_
  cases token with
  | content text => rfl
  | tag t =>
    rw [Function.comp_apply, trim_tag]
    rfl

theorem containers_eq_flatten (tokens : List Token) :
    containers tokens = (tokens.map containersOf).flatten := by
  induction tokens with
  | nil => rfl
  | cons token rest ih => simp only [containers, List.map_cons, List.flatten_cons, ih]

theorem containersOf_trimAt (edge : Edge) (token : Token) :
    containersOf (trimAt edge token) = containersOf token := by
  cases token with
  | content text => simp only [trimAt, containersOf]
  | tag t => rfl

theorem containers_trimEdges (tokens : List Token) :
    containers (trimEdges tokens) = containers tokens := by
  rw [containers_eq_flatten, containers_eq_flatten, map_trimEdges containersOf_trimAt]

mutual

theorem containersOf_trim (token : Token) :
    containersOf (trim token) = (containersOf token).map fun l ↦ trimEdges (trimAll l) := by
  match token with
  | .content _ => rfl
  | .tag ⟨_, _, children, _, shape, _⟩ =>
    have hc := containers_trimAll children
    have hs := containersOfShape_trimShape shape
    simp only [trim, containersOf, containers_trimEdges, hc, hs, List.map_cons, List.map_append]

/-- Each container is trimmed once it has been trimmed inside. -/
theorem containers_trimAll (tokens : List Token) :
    containers (trimAll tokens) = (containers tokens).map fun l ↦ trimEdges (trimAll l) := by
  match tokens with
  | [] => rfl
  | token :: rest =>
    have ht := containersOf_trim token
    have hr := containers_trimAll rest
    simp only [trimAll, containers, ht, hr, List.map_append]

theorem containersOfShape_trimShape (shape : Shape) :
    containersOfShape (trimShape shape) =
      (containersOfShape shape).map fun l ↦ trimEdges (trimAll l) := by
  match shape with
  | .list nodes => simpa only [trimShape, containersOfShape] using containersOfNodes_trimNodes nodes
  | .table ⟨_, rows⟩ =>
    simpa only [trimShape, containersOfShape] using containersOfRows_trimRows rows
  | .element | .opaqueBody | .tableOfContents _ _ | .template | .macroCall _ | .link _ | .file _ =>
    rfl

theorem containersOfNodes_trimNodes (nodes : List ListNode) :
    containersOfNodes (trimNodes nodes) =
      (containersOfNodes nodes).map fun l ↦ trimEdges (trimAll l) := by
  match nodes with
  | [] => rfl
  | .run _ nodes :: rest =>
    have hn := containersOfNodes_trimNodes nodes
    have hr := containersOfNodes_trimNodes rest
    simp only [trimNodes, containersOfNodes, hn, hr, List.map_append]
  | .line _ tokens :: rest =>
    have ht := containers_trimAll tokens
    have hr := containersOfNodes_trimNodes rest
    simp only [trimNodes, containersOfNodes, containers_trimEdges, ht, hr, List.map_cons,
      List.map_append]

theorem containersOfRows_trimRows (rows : List Row) :
    containersOfRows (trimRows rows) =
      (containersOfRows rows).map fun l ↦ trimEdges (trimAll l) := by
  match rows with
  | [] => rfl
  | ⟨_, cells⟩ :: rest =>
    have hc := containersOfCells_trimCells cells
    have hr := containersOfRows_trimRows rest
    simp only [trimRows, containersOfRows, hc, hr, List.map_append]

theorem containersOfCells_trimCells (cells : List Cell) :
    containersOfCells (trimCells cells) =
      (containersOfCells cells).map fun l ↦ trimEdges (trimAll l) := by
  match cells with
  | [] => rfl
  | ⟨_, _, tokens⟩ :: rest =>
    have ht := containers_trimAll tokens
    have hr := containersOfCells_trimCells rest
    simp only [trimCells, containersOfCells, containers_trimEdges, ht, hr, List.map_cons,
      List.map_append]

end

theorem edgesTrimmed_trimAll (tokens : List Token) : EdgesTrimmed tokens (trimAll tokens) where
  skeleton := skeleton_trimAll tokens
  texts := texts_trimAll tokens
  containers := by
    rw [containers_trimAll, List.map_map]
    refine List.map_congr_left fun inside _ ↦ ?_
    rw [Function.comp_apply, texts_trimEdges, texts_trimAll]

section Determined

mutual

theorem eq_of_containersOf {x y : Token} (hs : mapTexts emptied x = mapTexts emptied y)
    (ht : x.text? = y.text?) {r r' : List (List (Option String))}
    (hc : (containersOf x).map texts ++ r = (containersOf y).map texts ++ r') :
    x = y ∧ r = r' := by
  match x, y with
  | .content text, .content text' =>
    simp only [text?, Option.some.injEq] at ht
    exact ⟨congrArg _ ht, hc⟩
  | .content _, .tag _ | .tag _, .content _ => cases ht
  | .tag ⟨_, _, children, _, shape, _⟩, .tag ⟨_, _, children', _, shape', _⟩ =>
    simp only [mapTexts, tag.injEq, Tag.mk.injEq] at hs
    obtain ⟨rfl, rfl, hchildren, rfl, hshape, rfl⟩ := hs
    simp only [containersOf, List.map_cons, List.map_append, List.cons_append, List.append_assoc,
      List.cons.injEq] at hc
    obtain ⟨rfl, hr⟩ := eq_of_containers hchildren hc.1 hc.2
    obtain ⟨rfl, rfl⟩ := eq_of_containersOfShape hshape hr
    exact ⟨rfl, rfl⟩

theorem eq_of_containers {xs ys : List Token}
    (hs : mapTextsAll emptied xs = mapTextsAll emptied ys) (ht : texts xs = texts ys)
    {r r' : List (List (Option String))}
    (hc : (containers xs).map texts ++ r = (containers ys).map texts ++ r') :
    xs = ys ∧ r = r' := by
  match xs, ys with
  | [], [] => exact ⟨rfl, hc⟩
  | [], _ :: _ | _ :: _, [] => cases ht
  | x :: xs, y :: ys =>
    simp only [mapTextsAll, List.cons.injEq] at hs
    simp only [texts, List.map_cons, List.cons.injEq] at ht
    simp only [containers, List.map_append, List.append_assoc] at hc
    obtain ⟨rfl, hr⟩ := eq_of_containersOf hs.1 ht.1 hc
    obtain ⟨rfl, rfl⟩ := eq_of_containers hs.2 ht.2 hr
    exact ⟨rfl, rfl⟩

theorem eq_of_containersOfShape {x y : Shape}
    (hs : mapTextsShape emptied x = mapTextsShape emptied y) {r r' : List (List (Option String))}
    (hc : (containersOfShape x).map texts ++ r = (containersOfShape y).map texts ++ r') :
    x = y ∧ r = r' := by
  match x with
  | .list nodes =>
    cases y with
    | list nodes' =>
      simp only [mapTextsShape, Shape.list.injEq] at hs
      obtain ⟨rfl, rfl⟩ := eq_of_containersOfNodes hs hc
      exact ⟨rfl, rfl⟩
    | table table =>
      obtain ⟨_, _⟩ := table
      cases hs
    | _ => cases hs
  | .table ⟨_, rows⟩ =>
    cases y with
    | table table =>
      obtain ⟨_, rows'⟩ := table
      simp only [mapTextsShape, Shape.table.injEq, Table.mk.injEq] at hs
      obtain ⟨rfl, hrows⟩ := hs
      obtain ⟨rfl, rfl⟩ := eq_of_containersOfRows hrows hc
      exact ⟨rfl, rfl⟩
    | _ => cases hs
  | .element | .opaqueBody | .tableOfContents _ _ | .template | .macroCall _ | .link _ | .file _ =>
    cases y with
    | list nodes' => cases hs
    | table table =>
      obtain ⟨_, _⟩ := table
      cases hs
    | _ => exact ⟨hs, hc⟩

theorem eq_of_containersOfNodes {xs ys : List ListNode}
    (hs : mapTextsNodes emptied xs = mapTextsNodes emptied ys) {r r' : List (List (Option String))}
    (hc : (containersOfNodes xs).map texts ++ r = (containersOfNodes ys).map texts ++ r') :
    xs = ys ∧ r = r' := by
  match xs, ys with
  | [], [] => exact ⟨rfl, hc⟩
  | [], .run _ _ :: _ | [], .line _ _ :: _ | .run _ _ :: _, [] | .line _ _ :: _, []
  | .run _ _ :: _, .line _ _ :: _ | .line _ _ :: _, .run _ _ :: _ =>
    simp [mapTextsNodes] at hs
  | .run _ nodes :: xs, .run _ nodes' :: ys =>
    simp only [mapTextsNodes, List.cons.injEq, ListNode.run.injEq] at hs
    obtain ⟨⟨rfl, hnodes⟩, hrest⟩ := hs
    simp only [containersOfNodes, List.map_append, List.append_assoc] at hc
    obtain ⟨rfl, hr⟩ := eq_of_containersOfNodes hnodes hc
    obtain ⟨rfl, rfl⟩ := eq_of_containersOfNodes hrest hr
    exact ⟨rfl, rfl⟩
  | .line _ tokens :: xs, .line _ tokens' :: ys =>
    simp only [mapTextsNodes, List.cons.injEq, ListNode.line.injEq] at hs
    obtain ⟨⟨rfl, htokens⟩, hrest⟩ := hs
    simp only [containersOfNodes, List.map_cons, List.map_append, List.cons_append,
      List.append_assoc, List.cons.injEq] at hc
    obtain ⟨rfl, hr⟩ := eq_of_containers htokens hc.1 hc.2
    obtain ⟨rfl, rfl⟩ := eq_of_containersOfNodes hrest hr
    exact ⟨rfl, rfl⟩

theorem eq_of_containersOfRows {xs ys : List Row}
    (hs : mapTextsRows emptied xs = mapTextsRows emptied ys) {r r' : List (List (Option String))}
    (hc : (containersOfRows xs).map texts ++ r = (containersOfRows ys).map texts ++ r') :
    xs = ys ∧ r = r' := by
  match xs, ys with
  | [], [] => exact ⟨rfl, hc⟩
  | [], ⟨_, _⟩ :: _ | ⟨_, _⟩ :: _, [] => simp [mapTextsRows] at hs
  | ⟨_, cells⟩ :: xs, ⟨_, cells'⟩ :: ys =>
    simp only [mapTextsRows, List.cons.injEq, Row.mk.injEq] at hs
    obtain ⟨⟨rfl, hcells⟩, hrest⟩ := hs
    simp only [containersOfRows, List.map_append, List.append_assoc] at hc
    obtain ⟨rfl, hr⟩ := eq_of_containersOfCells hcells hc
    obtain ⟨rfl, rfl⟩ := eq_of_containersOfRows hrest hr
    exact ⟨rfl, rfl⟩

theorem eq_of_containersOfCells {xs ys : List Cell}
    (hs : mapTextsCells emptied xs = mapTextsCells emptied ys) {r r' : List (List (Option String))}
    (hc : (containersOfCells xs).map texts ++ r = (containersOfCells ys).map texts ++ r') :
    xs = ys ∧ r = r' := by
  match xs, ys with
  | [], [] => exact ⟨rfl, hc⟩
  | [], ⟨_, _, _⟩ :: _ | ⟨_, _, _⟩ :: _, [] => simp [mapTextsCells] at hs
  | ⟨_, _, tokens⟩ :: xs, ⟨_, _, tokens'⟩ :: ys =>
    simp only [mapTextsCells, List.cons.injEq, Cell.mk.injEq] at hs
    obtain ⟨⟨rfl, rfl, htokens⟩, hrest⟩ := hs
    simp only [containersOfCells, List.map_cons, List.map_append, List.cons_append,
      List.append_assoc, List.cons.injEq] at hc
    obtain ⟨rfl, hr⟩ := eq_of_containers htokens hc.1 hc.2
    obtain ⟨rfl, rfl⟩ := eq_of_containersOfCells hrest hr
    exact ⟨rfl, rfl⟩

end

end Determined

section Cutting

theorem cutAt_cutAt (length i : Nat) (text : String) :
    cutAt length i (cutAt length i text) = cutAt length i text := by
  unfold cutAt
  split_ifs
  · rw [Edge.cut_comm, Edge.cut_cut, Edge.cut_cut]
  · exact Edge.cut_cut _ _
  · exact Edge.cut_cut _ _
  · rfl

theorem cutTexts_cutTexts (texts : List (Option String)) :
    cutTexts (cutTexts texts) = cutTexts texts := by
  apply List.ext_getElem?
  intro i
  simp only [cutTexts, List.getElem?_mapIdx, List.length_mapIdx, Option.map_map]
  congr 1
  funext text
  cases text with
  | none => rfl
  | some text => simp only [Function.comp_apply, Option.map_some, cutAt_cutAt]

end Cutting

namespace EdgesTrimmed

variable {tokens cleaned cleaned' : List Token}

theorem unique (h : EdgesTrimmed tokens cleaned) (h' : EdgesTrimmed tokens cleaned') :
    cleaned = cleaned' := by
  have hskeleton := h.skeleton.trans h'.skeleton.symm
  have htexts := h.texts.trans h'.texts.symm
  have hcontainers := h.containers.trans h'.containers.symm
  exact (eq_of_containers hskeleton htexts (congrArg (· ++ []) hcontainers)).1

theorem again (h : EdgesTrimmed tokens cleaned) : EdgesTrimmed cleaned cleaned where
  skeleton := rfl
  texts := rfl
  containers := by
    have htwice : (Token.containers cleaned).map (fun inside ↦ cutTexts (Token.texts inside)) =
        ((Token.containers cleaned).map Token.texts).map cutTexts := by
      rw [List.map_map]
      rfl
    rw [htwice, h.containers, List.map_map]
    refine List.map_congr_left fun inside _ ↦ ?_
    rw [Function.comp_apply, cutTexts_cutTexts]

theorem trimAll_eq (h : EdgesTrimmed tokens tokens) : trimAll tokens = tokens :=
  (edgesTrimmed_trimAll tokens).unique h

end EdgesTrimmed

/-- Cleaning trims the edges of all containers and does nothing else; so it makes no difference to
clean a second time, and none to a conversion whether its tokens have been cleaned before. -/
theorem cleanAll_trims_edges (tokens : List Token) :
    (∀ cleaned, EdgesTrimmed tokens cleaned ↔ cleaned = cleanAll tokens) ∧
      cleanAll (cleanAll tokens) = cleanAll tokens ∧
      ∀ c : Converter, c.fragment (cleanAll tokens) = c.fragment tokens := by
  have htrimmed : EdgesTrimmed tokens (cleanAll tokens) := by
    rw [cleanAll_eq_trimAll]
    exact edgesTrimmed_trimAll tokens
  have htwice : cleanAll (cleanAll tokens) = cleanAll tokens := by
    have h := edgesTrimmed_trimAll (cleanAll tokens)
    rw [← cleanAll_eq_trimAll] at h
    exact h.unique htrimmed.again
  refine ⟨fun cleaned ↦ ⟨fun h ↦ h.unique htrimmed, ?_⟩, htwice, ?_⟩
  · rintro rfl
    exact htrimmed
  · intro c
    rw [Converter.fragment_eq, Converter.fragment_eq, ← cleanAll_eq_trimAll, htwice,
      cleanAll_eq_trimAll]

example :
    let bold := (Tag.named "b").withText " bold "
    let p := (((Tag.named "p").withText "  Hello ").withChild (.tag bold)).withText " world \n"
    (containers (cleanAll [.content "  top  ", .tag p])).map texts =
      [[some "Hello ", none, some " world"], [some "bold"]] := by
  decide +kernel

section Thinning

variable (f : String → String)

mutual

theorem containersOf_mapTexts (token : Token) :
    containersOf (mapTexts f token) = (containersOf token).map (mapTextsAll f) := by
  match token with
  | .content _ => simp only [mapTexts, containersOf, List.map_nil]
  | .tag ⟨_, _, children, _, shape, _⟩ =>
    have hc := containers_mapTextsAll children
    have hs := containersOfShape_mapTextsShape shape
    simp only [mapTexts, containersOf, hc, hs, List.map_cons, List.map_append]

theorem containers_mapTextsAll (tokens : List Token) :
    containers (mapTextsAll f tokens) = (containers tokens).map (mapTextsAll f) := by
  match tokens with
  | [] => rfl
  | token :: rest =>
    have ht := containersOf_mapTexts token
    have hr := containers_mapTextsAll rest
    simp only [mapTextsAll, containers, ht, hr, List.map_append]

theorem containersOfShape_mapTextsShape (shape : Shape) :
    containersOfShape (mapTextsShape f shape) = (containersOfShape shape).map (mapTextsAll f) := by
  match shape with
  | .list nodes =>
    simpa only [mapTextsShape, containersOfShape] using containersOfNodes_mapTextsNodes nodes
  | .table ⟨_, rows⟩ =>
    simpa only [mapTextsShape, containersOfShape] using containersOfRows_mapTextsRows rows
  | .element | .opaqueBody | .tableOfContents _ _ | .template | .macroCall _ | .link _ | .file _ =>
    rfl

theorem containersOfNodes_mapTextsNodes (nodes : List ListNode) :
    containersOfNodes (mapTextsNodes f nodes) = (containersOfNodes nodes).map (mapTextsAll f) := by
  match nodes with
  | [] => rfl
  | .run _ nodes :: rest =>
    have hn := containersOfNodes_mapTextsNodes nodes
    have hr := containersOfNodes_mapTextsNodes rest
    simp only [mapTextsNodes, containersOfNodes, hn, hr, List.map_append]
  | .line _ tokens :: rest =>
    have ht := containers_mapTextsAll tokens
    have hr := containersOfNodes_mapTextsNodes rest
    simp only [mapTextsNodes, containersOfNodes, ht, hr, List.map_cons, List.map_append]

theorem containersOfRows_mapTextsRows (rows : List Row) :
    containersOfRows (mapTextsRows f rows) = (containersOfRows rows).map (mapTextsAll f) := by
  match rows with
  | [] => rfl
  | ⟨_, cells⟩ :: rest =>
    have hc := containersOfCells_mapTextsCells cells
    have hr := containersOfRows_mapTextsRows rest
    simp only [mapTextsRows, containersOfRows, hc, hr, List.map_append]

theorem containersOfCells_mapTextsCells (cells : List Cell) :
    containersOfCells (mapTextsCells f cells) = (containersOfCells cells).map (mapTextsAll f) := by
  match cells with
  | [] => rfl
  | ⟨_, _, tokens⟩ :: rest =>
    have ht := containers_mapTextsAll tokens
    have hr := containersOfCells_mapTextsCells rest
    simp only [mapTextsCells, containersOfCells, ht, hr, List.map_cons, List.map_append]

end

theorem texts_mapTextsAll (tokens : List Token) :
    texts (mapTextsAll f tokens) = (texts tokens).map (Option.map f) := by
  rw [mapTextsAll_eq_map, texts, texts, List.map_map, List.map_map]
  refine List.map_congr_left fun token _ ↦ ?_
  cases token with
  | content text => rfl
  | tag t =>
    rw [Function.comp_apply, mapTexts_tag]
    rfl

def Thins (f : String → String) : Prop := ∀ text, f text = text ∨ f text = ""

variable {f}

theorem Thins.cutAt_eq (hf : Thins f) {length i : Nat} {text : String}
    (h : cutAt length i text = text) : cutAt length i (f text) = f text := by
  obtain hkept | hemptied := hf text
  · rw [hkept, h]
  · rw [hemptied]
    unfold cutAt
    split_ifs <;> rfl

theorem Thins.cutTexts_eq (hf : Thins f) {texts : List (Option String)}
    (h : cutTexts texts = texts) :
    cutTexts (texts.map (Option.map f)) = texts.map (Option.map f) := by
  apply List.ext_getElem?
  intro i
  have hi := congrArg (·[i]?) h
  simp only [cutTexts, List.getElem?_mapIdx, List.getElem?_map, List.length_map,
    Option.map_map] at hi ⊢
  cases hget : texts[i]? with
  | none => rfl
  | some text =>
    cases text with
    | none => rfl
    | some text =>
      simp only [hget, Option.map_some, Option.some.injEq] at hi
      simp only [Option.map_some, Function.comp_apply, hf.cutAt_eq hi]

theorem EdgesTrimmed.mapTextsAll (hf : Thins f) {tokens : List Token}
    (h : EdgesTrimmed tokens tokens) :
    EdgesTrimmed (mapTextsAll f tokens) (mapTextsAll f tokens) where
  skeleton := rfl
  texts := rfl
  containers := by
    have hfixed := List.map_inj_left.1 h.containers
    rw [containers_mapTextsAll, List.map_map, List.map_map]
    refine List.map_congr_left fun inside hinside ↦ ?_
    simp only [Function.comp_apply, texts_mapTextsAll]
    exact (hf.cutTexts_eq (hfixed inside hinside).symm).symm

/-- A tree that has been trimmed has no more padding at its edges after some texts are emptied. -/
theorem trimAll_mapTextsAll_trimAll (hf : Thins f) (tokens : List Token) :
    trimAll (mapTextsAll f (trimAll tokens)) = mapTextsAll f (trimAll tokens) :=
  (((edgesTrimmed_trimAll tokens).again).mapTextsAll hf).trimAll_eq

end Thinning

end WikiStream.Token
