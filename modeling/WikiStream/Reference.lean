import WikiStream.Text.Blank

namespace WikiStream

namespace Reference

inductive Kind
  | url
  | path
  | document
  | attachment
  | mailto
  deriving DecidableEq, Repr

def Kind.scheme : Kind → String
  | url => "url"
  | path => "path"
  | document => "doc"
  | attachment => "attach"
  | mailto => "mailto"

end Reference

structure Reference where
  kind : Reference.Kind
  text : String
  anchor : Option String := none
  typed : Bool := true
  deriving DecidableEq, Repr

namespace Reference

def url (text : String) : Reference := ⟨.url, text, none, true⟩

def path (text : String) : Reference := ⟨.path, text, none, true⟩

def document (text : String) : Reference := ⟨.document, text, none, true⟩

def attachment (text : String) : Reference := ⟨.attachment, text, none, true⟩

def mailto (text : String) : Reference := ⟨.mailto, text, none, true⟩

def untyped (r : Reference) : Reference := { r with typed := false }

def withAnchor (r : Reference) (anchor : String) : Reference := { r with anchor := some anchor }

def display (r : Reference) : String :=
  (if r.typed then r.kind.scheme ++ ":" else "") ++ r.text ++
    (match r.anchor with | some a => "#" ++ a | none => "")

def isSchemeChar (c : Char) : Bool := c.isAlphanum || c = '+' || c = '.' || c = '-'

/-- Whether a target starts with a scheme, which may be empty, and two slashes after a colon. -/
def hasScheme (target : String) : Bool :=
  "://".toList.isPrefixOf (target.toList.dropWhile isSchemeChar)

def kindOfScheme? : String → Option Kind
  | "doc" | "page" => some .document
  | "attach" => some .attachment
  | "url" => some .url
  | "mailto" => some .mailto
  | "path" => some .path
  | _ => none

/-- The kind named before the first colon and the text after it. Two slashes after the colon make
it a scheme of another sort. -/
def typedHead? (raw : List Char) : Option (Kind × List Char) :=
  (Text.splitAt? ':' raw).bind fun p ↦
    if "//".toList.isPrefixOf p.2 then none
    else (kindOfScheme? (String.ofList p.1)).map (·, p.2)

/-- A page and the anchor after the first number sign; an empty anchor is none. -/
def parsePage (raw : List Char) : Reference :=
  match Text.splitAt? '#' raw with
  | some (page, []) => document (String.ofList page)
  | some (page, anchor) => (document (String.ofList page)).withAnchor (String.ofList anchor)
  | none => document (String.ofList raw)

def parse (raw : String) : Reference :=
  match typedHead? raw.toList with
  | some (.document, rest) => parsePage rest
  | some (kind, rest) => ⟨kind, String.ofList rest, none, true⟩
  | none => if hasScheme raw then (url raw).untyped else (parsePage raw.toList).untyped

structure Parser where
  link : String → Reference
  /-- A page that is not marked as one is a file where an image is expected. -/
  image : String → Reference := fun raw ↦
    let r := link raw
    if r.kind = .document ∧ r.typed = false then (attachment raw).untyped else r

def Parser.standard : Parser where
  link := parse

end Reference

end WikiStream
