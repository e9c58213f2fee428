import WikiStream.Options

namespace WikiStream.Cli

structure Task where
  input : String
  output : Option String := none
  format : Option String := none
  config : Option String := none
  policy : Option Policy := none
  noToc : Bool := false
  templatePrefix : Option String := none
  maxDepth : Option UInt64 := none
  deriving DecidableEq, Repr

inductive Request
  | help
  | version
  | listFormats
  | convert (task : Task)
  | nothing
  deriving DecidableEq, Repr

inductive Switch
  | help
  | version
  | listFormats
  | config
  | format
  | output
  | referenceType
  | noToc
  | templatePrefix
  | maxDepth
  deriving DecidableEq, Repr

namespace Switch

def name : Switch → String
  | help => "help"
  | version => "version"
  | listFormats => "list-formats"
  | config => "config"
  | format => "to"
  | output => "output"
  | referenceType => "reference-type"
  | noToc => "no-toc"
  | templatePrefix => "template-prefix"
  | maxDepth => "max-depth"

def letter? : Switch → Option Char
  | help => some 'h'
  | version => some 'V'
  | output => some 'o'
  | _ => none

def takesValue : Switch → Bool
  | help | version | listFormats | noToc => false
  | _ => true

def readDepth? (s : String) : Option UInt64 :=
  ((Text.readNatural? 10 s.toList).filter (· < UInt64.size)).map .ofNat

def accepts (s : Switch) (value : String) : Bool :=
  match s with
  | referenceType => (Policy.named? value).isSome
  | maxDepth => (readDepth? value).isSome
  | _ => true

end Switch

inductive Place
  | global
  | convert
  deriving DecidableEq, Repr

def Place.switches : Place → List Switch
  | global => [.help, .version, .listFormats, .config]
  | convert =>
    [.help, .listFormats, .config, .format, .output, .referenceType, .noToc, .templatePrefix,
      .maxDepth]

inductive Word
  | stop
  | long (name : String) (value : Option String)
  | short (letter : Char) (rest : List Char)
  | plain (text : String)
  deriving DecidableEq, Repr

def Word.of (arg : String) : Word :=
  match arg.toList with
  | ['-', '-'] => .stop
  | '-' :: '-' :: s =>
    match Text.splitAt? '=' s with
    | some (name, value) => .long (String.ofList name) (some (String.ofList value))
    | none => .long (String.ofList s) none
  | '-' :: c :: s => .short c s
  | _ => .plain arg

structure Given where
  switches : List (Switch × String) := []
  input : Option String := none
  deriving DecidableEq, Repr

namespace Given

def get? (g : Given) (s : Switch) : Option String := g.switches.lookup s

def has (g : Given) (s : Switch) : Bool := (g.get? s).isSome

def add? (g : Given) (s : Switch) (value : String) : Option Given :=
  if g.has s || !s.accepts value then none
  else some { g with switches := (s, value) :: g.switches }

def addInput? (place : Place) (g : Given) (text : String) : Option Given :=
  if place = .convert && g.input.isNone then some { g with input := some text } else none

end Given

inductive Stage
  | given (g : Given)
  | command (name : String) (g : Given) (rest : List String)
  | help
  | version
  deriving DecidableEq, Repr

/-- Takes an option with the value that is attached to it. An option that still needs one waits for
the next argument. -/
def takeSwitch (g : Given) (s : Switch) (value : Option String)
    (next : Given → Option Switch → Option Stage) : Option Stage :=
  if s.takesValue then
    match value with
    | some v => (g.add? s v).bind (next · none)
    | none => next g (some s)
  else if value.isSome then none
  else if s = .help then some .help
  else if s = .version then some .version
  else (g.add? s "").bind (next · none)

/-- Reads the arguments in one place. `waiting` is the option that needs a value. -/
def readArguments (place : Place) :
    (g : Given) → (waiting : Option Switch) → List String → Option Stage
  | g, none, [] => some (.given g)
  | _, some _, [] => none
  | g, some s, arg :: rest =>
    match Word.of arg with
    | .plain v => (g.add? s v).bind fun g ↦ readArguments place g none rest
    | _ => none
  | g, none, arg :: rest =>
    match Word.of arg with
    | .stop => (rest.foldlM (Given.addInput? place) g).map .given
    | .plain text =>
      if place = .global then some (.command text g rest)
      else (g.addInput? place text).bind fun g ↦ readArguments place g none rest
    | .long name value =>
      match place.switches.find? (·.name = name) with
      | some s => takeSwitch g s value fun g waiting ↦ readArguments place g waiting rest
      | none => none
    | .short c attached =>
      match place.switches.find? (·.letter? = some c) with
      | some s =>
        let value := match attached with
          | [] => none
          | '=' :: v => some (String.ofList v)
          | v => some (String.ofList v)
        -- What follows the letter of help or version is not looked at.
        takeSwitch g s (if s.takesValue then value else none) fun g waiting ↦
          readArguments place g waiting rest
      | none => none

/-- What is given after the command counts before what is given in front of it. -/
def taskOf (before after : Given) (input : String) : Task where
  input := input
  output := after.get? .output
  format := after.get? .format
  config := after.get? .config <|> before.get? .config
  policy := (after.get? .referenceType).bind Policy.named?
  noToc := after.has .noToc
  templatePrefix := after.get? .templatePrefix
  maxDepth := (after.get? .maxDepth).bind Switch.readDepth?

def readConvert? (before : Given) (args : List String) : Option Request :=
  match readArguments .convert {} none args with
  | some (.given after) =>
    after.input.map fun input ↦
      if before.has .listFormats || after.has .listFormats then .listFormats
      else .convert (taskOf before after input)
  | some .help => some .help
  | some .version => some .version
  | _ => none

def readGlobal? (args : List String) : Option Request :=
  match readArguments .global {} none args with
  | some (.given g) =>
    if g.switches = [] then none else some (if g.has .listFormats then .listFormats else .nothing)
  | some (.command name g rest) =>
    if name = "convert" then readConvert? g rest
    else if name = "help" && rest ∈ [[], ["convert"], ["help"]] then some .help
    else none
  | some .help => some .help
  | some .version => some .version
  | none => none

namespace Request

/-- Where the first argument is no option and no command, the command `convert` is meant. -/
def ofArguments? (args : List String) : Option Request :=
  match args with
  | first :: _ =>
    if first.toList.head? = some '-' || first = "convert" || first = "help" then readGlobal? args
    else readGlobal? ("convert" :: args)
  | [] => none

end Request

end WikiStream.Cli
