import WikiStream.Converter
import WikiStream.Macro

namespace WikiStream

inductive Plan
  | leaf (events : List Event)
  | around (first last : List Event)
  /-- The children of the first child take the place of the children. -/
  | hoist (first last : List Event)
  | lines (parameters : Attributes)
  | rows

namespace Plan

def single (s : Single) : Plan := .leaf [.single s]

def fontSize? (size : String) : Option String :=
  match Text.trim size with
  | "1" => some "0.63em"
  | "2" => some "0.82em"
  | "4" => some "1.13em"
  | "5" => some "1.5em"
  | "6" => some "2em"
  | "7" => some "3em"
  | _ => none

def fontStyle (a : Attributes) : String :=
  let part (name : String) (value : Option String) : String :=
    (value.map fun v ↦ name ++ ": " ++ v ++ ";").getD ""
  part "font-size" ((a.get? "size").bind fontSize?) ++ part "color" (a.get? "color") ++
    part "font-family" (a.get? "face")

def fontParameters (a : Attributes) : Attributes :=
  if fontStyle a = "" then ∅ else Dict.ofList [("style", fontStyle a)]

def paragraph (t : Tag) : Plan :=
  if t.children.isEmpty then .leaf []
  else .around [.opening (.paragraph t.attributes)] [.closing .paragraph]

/-- The id of a span that a list of tokens starts with. -/
def leadingAnchor? : List Token → Option String
  | .tag t :: _ => if t.name = "span" then t.attributes.get? "id" else none
  | _ => none

def header (level : Level) (t : Tag) : Plan :=
  if t.children.isEmpty then .leaf []
  else match leadingAnchor? t.children with
    | some id => .hoist [.opening (.header level (some id) t.attributes)] [.closing (.header level)]
    | none => .around [.opening (.header level none t.attributes)] [.closing (.header level)]

def boldItalic (t : Tag) : Plan :=
  .around [.opening (.format .bold t.attributes), .opening (.format .italic ∅)]
    [.closing (.format .italic), .closing (.format .bold)]

def font (t : Tag) : Plan :=
  .around [.opening (.format .none (fontParameters t.attributes))] [.closing (.format .none)]

def linked (target : Option Reference) (freestanding : Bool) (parameters : Attributes) : Plan :=
  match target with
  | some reference =>
    .around [.opening (.link reference freestanding parameters)] [.closing .link]
  | none => .around [] []

/-- The address becomes the target of a link and is not among the parameters that are left. -/
def anchorLink (a : Attributes) : Plan :=
  match a.popIgnoringCase "href" with
  | some (address, rest) =>
    linked (some (if Reference.hasScheme address then .url address else .path address)) false rest
  | none => linked none false a

def wikiLink (resolver : Resolver) (t : Tag) : Plan :=
  match t.shape with
  | .link l => linked (some (resolver.link l.target)) l.freestanding t.attributes
  | _ => linked none false t.attributes

def embedding : Embedding → List Event
  | .image reference (some link) parameters =>
    [.opening (.link link false ∅), .single (.image reference false parameters), .closing .link]
  | .image reference none parameters => [.single (.image reference false parameters)]
  | .attachment reference => [.opening (.link reference false ∅), .closing .link]

/-- A tag without children becomes a pair and any other tag an event after its children, where
events of unknown tags are wanted. -/
def unknown (keeps : Bool) (t : Tag) : Plan :=
  .around (if keeps && t.children.isEmpty then [.opening (.unknown t.name t.attributes)] else [])
    (if !keeps then []
      else if t.children.isEmpty then [.closing (.unknown t.name)]
      else [.single (.unknown t.name t.attributes)])

end Plan

def Rule.plan (c : Converter) (t : Tag) : Rule → Plan
  | block b parameters => .around [b.start (parameters.insertAll t.attributes.entries)] [b.stop]
  | paragraph => Plan.paragraph t
  | header level => Plan.header level t
  | newLine => .single (.text .newLine)
  | horizontalLine => .single (.horizontalLine t.attributes)
  | boldItalic => Plan.boldItalic t
  | font => Plan.font t
  | anchorLink => Plan.anchorLink t.attributes
  | wikiLink => Plan.wikiLink c.resolver t
  | image =>
    match t.shape with
    | .file f => .leaf (Plan.embedding (c.resolver.embed f))
    | _ => .leaf []
  | verbatim inline => .single (Macro.verbatim inline t)
  | source => .single (Macro.source t)
  | macroCall id inline => .single (Macro.ofTag id inline t)
  | gallery => .single (Macro.gallery c.resolver.namespaces t)
  | tableOfContents => .leaf ((Macro.tableOfContents c.options.noToc t).map .single)
  | template => .single (Macro.template c.options.templatePrefix t)
  | wikiList =>
    match t.shape with
    | .list _ => .lines t.attributes
    | _ => .around [] []
  | wikiTable =>
    match t.shape with
    | .table _ => .rows
    | _ => .around [] []
  | unknown => Plan.unknown c.keepsUnknown t

def Converter.planFor (c : Converter) (t : Tag) : Plan := (c.ruleFor t).plan c t

end WikiStream
