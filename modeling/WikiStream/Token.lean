import WikiStream.Attributes

namespace WikiStream

structure EmbeddedFile where
  name : String
  space : String := "File"
  /-- Without a target the file's own page is linked, with an empty one nothing is. -/
  link : Option String := none
  width : Option String := none
  height : Option String := none
  alt : Option String := none
  caption : Option String := none
  align : Option String := none
  deriving DecidableEq, Repr, Inhabited

inductive LinkTarget
  | internal (topic : String) (anchor : Option String)
  | external (url : String)
  | mailto (address : String)
  deriving DecidableEq, Repr

structure Link where
  target : LinkTarget
  freestanding : Bool := false
  deriving DecidableEq, Repr

structure MacroCall where
  id : Option String := none
  inline : Option Bool := none
  hasContent : Bool := true
  deriving DecidableEq, Repr, Inhabited

inductive CellKind
  | header
  | body
  | caption
  deriving DecidableEq, Repr

mutual

inductive Token
  | content (text : String)
  | tag (tag : Tag)

structure Tag where
  name : String
  attributes : Attributes
  children : List Token
  body : Option String
  shape : Shape
  context : Option String

inductive Shape
  | element
  | opaqueBody
  | list (nodes : List ListNode)
  | table (table : Table)
  | tableOfContents (shown explicit : Bool)
  | template
  | macroCall (call : MacroCall)
  | link (link : Link)
  | file (file : EmbeddedFile)

inductive ListNode
  /-- Consecutive lines with one marker at one level. -/
  | run (marker : Char) (nodes : List ListNode)
  /-- A line with all the markers before it. -/
  | line (sequence : String) (content : List Token)

structure Table where
  attributes : Attributes
  rows : List Row

structure Row where
  attributes : Attributes
  cells : List Cell

structure Cell where
  kind : CellKind
  attributes : Attributes
  content : List Token

end

instance : Inhabited Token := ⟨.content ""⟩

namespace Tag

def named (name : String) : Tag := ⟨name, ∅, [], none, .element, none⟩

def withAttribute (t : Tag) (key value : String) : Tag :=
  { t with attributes := t.attributes.insert key value }

def withChild (t : Tag) (child : Token) : Tag := { t with children := t.children ++ [child] }

def withChildren (t : Tag) (children : List Token) : Tag := { t with children := children }

def withText (t : Tag) (text : String) : Tag := t.withChild (.content text)

def withBody (t : Tag) (body : String) : Tag := { t with body := some body }

def withShape (t : Tag) (shape : Shape) : Tag := { t with shape := shape }

def withContext (t : Tag) (context : String) : Tag := { t with context := some context }

def blockContexts : List String :=
  ["document", "body", "blockquote", "caption", "center", "dd", "div", "dl", "dt", "form", "h1",
    "h2", "h3", "h4", "h5", "h6", "li", "ol", "pre", "table", "tbody", "td", "tfoot", "th",
    "thead", "tr", "ul"]

def bodyText (t : Tag) : String := t.body.getD ""

def isOpaque (t : Tag) : Bool :=
  match t.shape with
  | .opaqueBody | .macroCall _ => true
  | _ => false

def inBlock (t : Tag) : Bool := t.context.all (· ∈ blockContexts)

end Tag

inductive TokenCategory
  | content (text : String)
  | tableOfContents (tag : Tag) (shown explicit : Bool)
  | template (tag : Tag)
  | tag (tag : Tag)

def Token.category : Token → TokenCategory
  | .content text => .content text
  | .tag t =>
    match t.shape with
    | .tableOfContents shown explicit => .tableOfContents t shown explicit
    | .template => .template t
    | _ => .tag t

end WikiStream
