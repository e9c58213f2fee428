import WikiStream.Event
import WikiStream.Namespace
import WikiStream.Token

namespace WikiStream.Macro

def dropFirstBreak : List Char → List Char
  | '\r' :: '\n' :: rest => rest
  | '\n' :: rest => rest
  | s => s

def dropLastBreak (s : List Char) : List Char :=
  match s.reverse with
  | '\n' :: '\r' :: rest => rest.reverse
  | '\n' :: rest => rest.reverse
  | _ => s

/-- A body between lines, without one end of a line on either side. -/
def blockContent (body : String) : String :=
  String.ofList (dropLastBreak (dropFirstBreak body.toList))

/-- The tag itself decides first, then the rule, then its name and what is around it. -/
def ofTag (id : Option String) (inline : Option Bool) (t : Tag) : Single :=
  let call : MacroCall := match t.shape with
    | .macroCall call => call
    | _ => {}
  let inline := ((call.inline <|> inline).getD !t.inBlock)
  let content := if call.hasContent then t.body else none
  .macroCall ((call.id <|> id).getD t.name) t.attributes
    (content.map fun body ↦ if inline then body else blockContent body) inline

def galleryLine (table : Namespace.Table) (line : String) : String :=
  if (Namespace.split? line).any fun p ↦ table.isNamespace Namespace.file p.1
    then "[[" ++ line ++ "]]" else "[[File:" ++ line ++ "]]"

def galleryContent (table : Namespace.Table) (source : String) : String :=
  "\n".intercalate <|
    (((Text.lines source).map Text.trim).filter (· ≠ "")).map (galleryLine table)

def gallery (table : Namespace.Table) (t : Tag) : Single :=
  match ofTag (some "gallery") none t with
  | .macroCall id parameters content inline =>
    .macroCall id parameters (content.map (galleryContent table)) inline
  | single => single

def template (namePrefix : String) (t : Tag) : Single :=
  .macroCall (namePrefix ++ t.name) (t.attributes.erase "1") (t.attributes.get? "1") false

/-- A table of contents that is switched on, and is asked for or not suppressed. -/
def tableOfContents (noToc : Bool) (t : Tag) : List Single :=
  let (shown, explicit) := match t.shape with
    | .tableOfContents shown explicit => (shown, explicit)
    | _ => (true, true)
  if shown && (explicit || !noToc) then [.macroCall "toc" ∅ none false] else []

def source (t : Tag) : Single :=
  let language := (t.attributes.get? "lang").map ("language", ·)
  .macroCall "code" (Dict.ofList language.toList) (some t.bodyText)
    (t.attributes.contains "inline")

def verbatim (inline : Bool) (t : Tag) : Single := .verbatim t.bodyText inline t.attributes

end WikiStream.Macro
