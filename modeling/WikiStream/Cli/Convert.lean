import WikiStream.Cli.Program
import WikiStream.Cli.Request
import WikiStream.OutputFormat
import WikiStream.Settings
import WikiStream.Token.Reader

namespace WikiStream.Cli

open Settings (Path Source Value)

def settingsFile : String := "wiki.toml"

def pathParts (path : String) : List String :=
  ((Text.splitOn '/' path.toList).map String.ofList).filter fun p ↦ p ≠ "" ∧ p ≠ "."

/-- A file of settings may be named without its ending. -/
def settingsPaths (path : String) : List String :=
  let parts := pathParts path
  let top := if path.toList.head? = some '/' then "/" else ""
  if parts = [] || parts.getLast? = some ".." then [path]
  else [path, top ++ "/".intercalate parts ++ ".toml"]

namespace Task

def overrides (t : Task) : List (Path × Value) :=
  let convert (key : String) : Path := ⟨"convert", [.key key]⟩
  (t.policy.map fun p ↦ (convert "reference_type", .text p.name)).toList ++
    (if t.noToc then [(convert "no_toc", .bool true)] else []) ++
    (t.templatePrefix.map fun s ↦ (convert "template_macro_prefix", .text s)).toList ++
    (t.maxDepth.map fun n ↦ (convert "max_depth", .integer n.toNat)).toList ++
    (t.format.map fun s ↦ (⟨"output", [.key "format"]⟩, .text s)).toList

/-- The settings of a task, where `common` and `own` hold the file that is always looked for and the
one that the task names. -/
def settings? (t : Task) (common own : Option String) : Option Settings :=
  Settings.load?
    (⟨common, false⟩ :: if t.config.isSome then [⟨own, true⟩] else []) t.overrides

def summary? (r : Report) : Option String :=
  if r.isLossless then none
  else some ("warning: conversion was lossy (" ++ toString r.truncated ++
    " subtree(s) truncated at the depth ceiling, " ++ toString r.skipped ++
    " text run(s) skipped)\n")

def endLine (s : String) : String := if s.toList.getLast? = some '\n' then s else s ++ "\n"

def errorLine (message : String) : Program := .fail ("Error: " ++ message)

def announce (r : Report) (next : Program) : Program :=
  .log r (match summary? r with
    | none => next
    | some line => .say .err line next)

def deliver (t : Task) (text : String) : Program :=
  match t.output with
  | none => .say .out text (.done 0)
  | some path => .write path text fun
    | .ok () => .done 0
    | .error f => .fail ("Error writing file '" ++ path ++ "': " ++ f.message)

def convertText (t : Task) (options : Options) (format : OutputFormat) (text : String) : Program :=
  match Token.parse text with
  | .error e => errorLine e.message
  | .ok tokens =>
    let rendering := ({ options := options } : Converter).document tokens
    announce rendering.report (t.deliver (endLine (format.write rendering.events)))

def convertFile (t : Task) (options : Options) (format : OutputFormat) : Program :=
  .read t.input fun
    | .error f => .fail ("Error reading file '" ++ t.input ++ "': " ++ f.message)
    | .ok text => t.convertText options format text

def convert (t : Task) (settings : Settings) : Program :=
  match OutputFormat.find OutputFormat.standard (t.format.getD settings.format) with
  | .error e => errorLine e.message
  | .ok format =>
    match settings.options with
    | .error e => errorLine e.message
    | .ok options => t.convertFile options format

def program (t : Task) : Program :=
  .readFirst (settingsPaths settingsFile) fun common ↦
    .readFirst ((t.config.map settingsPaths).getD []) fun own ↦
      match t.settings? common own with
      | none => .fail "Failed to load configuration: the settings cannot be used"
      | some settings => t.convert settings

end Task

def formatLine (f : OutputFormat) : String :=
  if f.description = "" then "  " ++ f.name ++ "\n"
  else
    let room := String.ofList (List.replicate (8 - f.name.length) ' ')
    "  " ++ f.name ++ room ++ " " ++ f.description ++ "\n"

def formatList : List String := "Available formats:\n" :: OutputFormat.standard.map formatLine

def usage : String :=
  "Usage: wikiev [convert] <tokens.json> [options]\n\n" ++
  "  --to <format>              event stream format\n" ++
  "  -o, --output <file>        output file\n" ++
  "  --reference-type <policy>  none, structured or native\n" ++
  "  --no-toc                   drop tables of contents that nobody asked for\n" ++
  "  --template-prefix <text>   prefix of the macros that templates become\n" ++
  "  --max-depth <number>       how deep the tokens are converted\n" ++
  "  --config <file>            settings\n" ++
  "  --list-formats             list the formats\n" ++
  "  -h, --help                 this text\n" ++
  "  -V, --version              the version\n"

def Request.program : Request → Program
  | .help => .print .out usage fun _ ↦ .done 0
  | .version => .print .out "wikiev 0.1.0\n" fun _ ↦ .done 0
  | .listFormats => formatList.foldr (Program.say .out) (.done 0)
  | .nothing => .fail "Unknown subcommand. Use --help for usage information."
  | .convert task => task.program

def program (args : List String) : Program :=
  match Request.ofArguments? args with
  | some request => request.program
  | none => .print .err usage fun _ ↦ .done 2

end WikiStream.Cli
