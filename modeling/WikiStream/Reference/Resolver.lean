import WikiStream.Media
import WikiStream.Namespace
import WikiStream.Options
import WikiStream.Reference
import WikiStream.Token

namespace WikiStream.Anchor

def isSafe (c : Char) : Bool := c.isAlphanum || c = '-' || c = '_' || c = '.' || c = ':'

def hexDigit (n : Nat) : Char := if n < 10 then Char.ofNat (48 + n) else Char.ofNat (55 + n)

def encodeByte (b : UInt8) : List Char := ['.', hexDigit (b.toNat / 16), hexDigit (b.toNat % 16)]

def encodeChar (c : Char) : List Char :=
  if c = ' ' then ['_']
  else if isSafe c then [c]
  else (String.utf8EncodeChar c).flatMap encodeByte

def encode (anchor : String) : String := String.ofList (anchor.toList.flatMap encodeChar)

end WikiStream.Anchor

namespace WikiStream

structure Resolver where
  policy : Policy
  namespaces : Namespace.Table
  parser : Reference.Parser := .standard
  mediaType : String → String := Media.detect

inductive Embedding
  | image (reference : Reference) (link : Option Reference) (parameters : Attributes)
  | attachment (reference : Reference)
  deriving DecidableEq, Repr

def EmbeddedFile.parameters (f : EmbeddedFile) : Attributes :=
  let style := (f.align.filter (· ≠ "none")).map ("float:" ++ ·)
  Dict.ofList <| [("alt", f.alt <|> f.caption), ("width", f.width), ("height", f.height),
    ("style", style)].filterMap fun p ↦ p.2.map (p.1, ·)

namespace Resolver

def ofOptions (o : Options) : Resolver where
  policy := o.policy
  namespaces := Namespace.Table.withAliases o.aliases

def clean (r : Resolver) (title : String) : String :=
  if r.policy = .native then
    Text.capitalize (String.ofList (title.toList.map fun c ↦ if c = ' ' then '_' else c))
  else title

def page (r : Resolver) (target : String) : Reference :=
  if r.policy = .structured then r.parser.link target else .document (r.clean target)

/-- A title in a namespace of files is an attachment and loses its anchor. A document takes the
anchor; any other target is read again with the anchor at its end. -/
def resolve (r : Resolver) (target : String) (anchor : Option String) : Reference :=
  let anchor := (anchor.filter (· ≠ "")).map Anchor.encode
  if r.policy = .none ∨ target = "" then
    match anchor with
    | some a => .path (target ++ "#" ++ a)
    | none => .path target
  else
    match r.namespaces.fileName? target with
    | some name => .attachment (r.clean name)
    | none =>
      match anchor with
      | none => r.page target
      | some a =>
        if (r.page target).kind = .document then (r.page target).withAnchor a
        else r.parser.link (target ++ "#" ++ a)

def link (r : Resolver) : LinkTarget → Reference
  | .internal topic anchor => r.resolve topic anchor
  | .external url => .url url
  | .mailto address =>
    .mailto <| if "mailto:".toList.isPrefixOf address.toList
      then String.ofList (address.toList.drop 7) else address

def imageLink (r : Resolver) (f : EmbeddedFile) : Option Reference :=
  match f.link with
  | none => some (r.resolve (f.space ++ ":" ++ f.name) none)
  | some target =>
    if target = "" then none
    else if Reference.hasScheme target then some (.url target)
    else some (r.resolve target none)

def embed (r : Resolver) (f : EmbeddedFile) : Embedding :=
  if Media.isImage (r.mediaType f.name) then
    let reference := if r.policy = .structured then r.parser.image f.name
      else (Reference.attachment (r.clean f.name)).untyped
    .image reference (r.imageLink f) f.parameters
  else .attachment (.attachment (r.clean f.name))

end Resolver

end WikiStream
