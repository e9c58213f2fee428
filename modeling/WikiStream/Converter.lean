import WikiStream.Reference.Resolver
import WikiStream.Rule

namespace WikiStream

structure Converter where
  options : Options := {}
  registry : Registry := .standard
  inline : Inline.Parser := Inline.parsePlain
  links : Reference.Parser := .standard
  mediaType : String → String := Media.detect
  keepsUnknown : Bool := true

namespace Converter

def resolver (c : Converter) : Resolver where
  policy := c.options.policy
  namespaces := Namespace.Table.withAliases c.options.aliases
  parser := c.links
  mediaType := c.mediaType

/-- Markers of tables of contents and calls of templates have their rules from their shape; other
tags have them from their names. -/
def ruleFor (c : Converter) (t : Tag) : Rule :=
  match (Token.tag t).category with
  | .tableOfContents _ _ _ => .tableOfContents
  | .template _ => .template
  | _ => (c.registry.get? t.name).getD (.fallback t)

end Converter

end WikiStream
