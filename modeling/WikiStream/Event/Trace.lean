import WikiStream.Event
import WikiStream.Text.Blank
import WikiStream.Text.HiddenTable
import WikiStream.Text.Numeral

namespace WikiStream.Text

def isHidden (c : Char) : Bool := inRanges hiddenRanges c

def isExtender (c : Char) : Bool := inRanges extenderRanges c

def escapeCodePoint (c : Char) : List Char :=
  '\\' :: 'u' :: '\x7b' :: Nat.toDigits 16 c.toNat ++ ['\x7d']

def escapeChar (quote c : Char) : List Char :=
  if c = '\x00' then ['\\', '0']
  else if c = '\t' then ['\\', 't']
  else if c = '\r' then ['\\', 'r']
  else if c = '\n' then ['\\', 'n']
  else if c = '\\' || c = quote then ['\\', c]
  else if isExtender c || isHidden c then escapeCodePoint c
  else [c]

def quoted (s : String) : String :=
  String.ofList ('"' :: s.toList.flatMap (escapeChar '"') ++ ['"'])

def quotedChar (c : Char) : String := String.ofList ('\'' :: escapeChar '\'' c ++ ['\''])

end WikiStream.Text

namespace WikiStream.Trace

def parameterText (a : Attributes) : String :=
  if a.isEmpty then ""
  else " \x7b" ++ ", ".intercalate (a.entries.map fun p ↦ p.1 ++ "=" ++ Text.quoted p.2) ++ "\x7d"

def levelText (level : Level) : String := " level=" ++ String.ofList (Text.decimal level.val)

def flagText (name : String) (set : Bool) : String := if set then " " ++ name else ""

def linkText (reference : Reference) (freestanding : Bool) (parameters : Attributes) : String :=
  " " ++ reference.display ++ flagText "freestanding" freestanding ++ parameterText parameters

def openingDetails : Opening → String
  | .document | .definitionTerm | .definitionDescription | .figureCaption => ""
  | .header level id parameters =>
    levelText level ++ (id.map fun i ↦ " id=" ++ Text.quoted i).getD "" ++ parameterText parameters
  | .list kind parameters => " " ++ kind.name ++ parameterText parameters
  | .format format parameters => " " ++ format.name ++ parameterText parameters
  | .link reference freestanding parameters => linkText reference freestanding parameters
  | .unknown id parameters => " " ++ id ++ parameterText parameters
  | .paragraph parameters | .listItem parameters | .definitionList parameters
  | .table parameters | .tableRow parameters | .tableCell parameters | .tableHeadCell parameters
  | .group parameters | .figure parameters => parameterText parameters

def closingDetails : Construct → String
  | .header level => levelText level
  | .list kind => " " ++ kind.name
  | .format format => " " ++ format.name
  | .unknown id => " " ++ id
  | _ => ""

def pieceText : Inline → String
  | .word text => "word " ++ Text.quoted text
  | .space => "space"
  | .newLine => "new_line"
  | .symbol c => "symbol " ++ Text.quotedChar c

def singleText : Single → String
  | .unknown id parameters => "unknown " ++ id ++ parameterText parameters
  | .image reference freestanding parameters =>
    "image" ++ linkText reference freestanding parameters
  | .verbatim content inline parameters =>
    "verbatim" ++ flagText "inline" inline ++ parameterText parameters ++ " " ++ Text.quoted content
  | .macroCall id parameters content inline =>
    "macro " ++ id ++ flagText "inline" inline ++ parameterText parameters ++
      (content.map fun c ↦ " content=" ++ Text.quoted c).getD ""
  | .horizontalLine parameters => "horizontal_line" ++ parameterText parameters
  | .text piece => pieceText piece

def eventText : Event → String
  | .opening o => "begin " ++ o.construct.name ++ openingDetails o
  | .closing c => "end " ++ c.name ++ closingDetails c
  | .single s => singleText s

def line (depth : Nat) (event : Event) : String :=
  String.ofList (List.replicate (2 * depth) ' ') ++ eventText event ++ "\n"

def lines (depth : Nat) : List Event → List String
  | [] => []
  | .opening o :: rest => line depth (.opening o) :: lines (depth + 1) rest
  | .closing c :: rest => line (depth - 1) (.closing c) :: lines (depth - 1) rest
  | .single s :: rest => line depth (.single s) :: lines depth rest

def write (events : List Event) : String := String.join (lines 0 events)

end WikiStream.Trace
