import WikiStream.Block
import WikiStream.Token

namespace WikiStream

inductive Rule
  /-- A construct around the children; parameters of the rule come before those of the tag. -/
  | block (block : Block) (parameters : Attributes)
  | paragraph
  | header (level : Level)
  | newLine
  | horizontalLine
  | boldItalic
  | font
  | anchorLink
  | wikiLink
  | image
  | verbatim (inline : Bool)
  | source
  | macroCall (id : Option String) (inline : Option Bool)
  | gallery
  | tableOfContents
  | template
  | wikiList
  | wikiTable
  | unknown
  deriving DecidableEq, Repr

namespace Rule

def plainBlock (b : Block) : Rule := .block b ∅

def styled (b : Block) (style : String) : Rule := .block b (Dict.ofList [("style", style)])

def label : Rule → String
  | block b _ => b.label
  | paragraph => "paragraph"
  | header _ => "header"
  | newLine => "new_line"
  | horizontalLine => "horizontal_line"
  | boldItalic => "bold_italic"
  | font => "font"
  | anchorLink => "anchor_link"
  | wikiLink => "wiki_link"
  | image => "image"
  | verbatim _ => "verbatim"
  | source => "source"
  | macroCall _ _ => "macro"
  | gallery => "gallery"
  | tableOfContents => "toc"
  | template => "template"
  | wikiList => "wiki_list"
  | wikiTable => "wiki_table"
  | unknown => "unknown"

def fallback (t : Tag) : Rule := if t.isOpaque then .macroCall none none else .unknown

end Rule

abbrev Registry := Dict String Rule

namespace Registry

def names (r : Registry) : List String := Dict.keys r |>.mergeSort (· ≤ ·)

def standard : Registry :=
  let rule (r : Rule) (names : List String) := names.map (·, r)
  let format (f : Format) := rule (.plainBlock (.format f))
  Dict.ofList <| List.flatten
    [rule .newLine ["br"],
      rule .horizontalLine ["hr"],
      rule (.verbatim true) ["nowiki"],
      rule (.verbatim false) ["pre"],
      rule .source ["syntaxhighlight", "source", "code"],
      rule (.macroCall (some "formula") none) ["math"],
      rule (.macroCall (some "footnote") (some true)) ["ref"],
      rule (.macroCall (some "putFootnotes") (some false)) ["references"],
      rule .gallery ["gallery"],
      rule (.macroCall none none) ["xmacro"],
      [1, 2, 3, 4, 5, 6].map fun n ↦ (s!"h{n}", .header (.clamp n)),
      rule .paragraph ["p"],
      format .bold ["b", "strong", "em"],
      format .italic ["i", "var", "cite", "abbr"],
      format .underlined ["u"],
      format .monospace ["tt"],
      format .strikedout ["s", "strike", "del"],
      format .subscript ["sub"],
      format .superscript ["sup"],
      format .none ["span"],
      rule (.styled (.format .none) "font-size:small") ["small", "big"],
      rule .boldItalic ["bolditalic"],
      rule .font ["font"],
      rule (.plainBlock .group) ["div"],
      rule (.styled .group "margin-right: auto; margin-left: auto;text-align: center") ["center"],
      rule (.plainBlock .figure) ["figure"],
      rule (.plainBlock .figureCaption) ["figurecaption"],
      rule (.plainBlock .table) ["table"],
      rule (.plainBlock .tableRow) ["tr"],
      rule (.plainBlock .tableCell) ["td"],
      rule (.plainBlock .tableHeadCell) ["th"],
      rule .wikiTable ["wikitable"],
      rule (.plainBlock (.list .bulleted)) ["ul"],
      rule (.plainBlock (.list .numbered)) ["ol"],
      rule (.plainBlock .listItem) ["li"],
      rule (.plainBlock .definitionList) ["dl"],
      rule (.plainBlock .definitionTerm) ["dt"],
      rule (.plainBlock .definitionDescription) ["dd"],
      rule .wikiList ["wikilist"],
      rule .anchorLink ["a"],
      rule .wikiLink ["wikilink"],
      rule .image ["wikiimage"],
      rule .tableOfContents ["toc"],
      rule .template ["template"]]

end Registry

end WikiStream
