import WikiStream.Conversion

namespace WikiStream.Cli

inductive FileFault
  | system (reason : String) (code : Nat)
  | notText
  deriving DecidableEq, Repr

namespace FileFault

def missing : FileFault := .system "No such file or directory" 2

def notFolder : FileFault := .system "Not a directory" 20

def isFolder : FileFault := .system "Is a directory" 21

def noSpace : FileFault := .system "No space left on device" 28

def message : FileFault → String
  | system reason code => reason ++ " (os error " ++ toString code ++ ")"
  | notText => "stream did not contain valid UTF-8"

end FileFault

inductive Stream
  | out
  | err
  deriving DecidableEq, Repr

structure Outcome where
  code : UInt32 := 0
  out : String := ""
  err : String := ""
  deriving DecidableEq, Repr

def Outcome.say (o : Outcome) (text : String) : Stream → Outcome
  | .out => { o with out := o.out ++ text }
  | .err => { o with err := o.err ++ text }

/-- A program is data; what it does depends on the files and the streams that it meets. -/
inductive Program
  | done (code : UInt32)
  | seek (path : String) (next : Bool → Program)
  | read (path : String) (next : Except FileFault String → Program)
  | write (path text : String) (next : Except FileFault Unit → Program)
  | print (stream : Stream) (text : String) (next : Except FileFault Unit → Program)
  | log (report : Report) (next : Program)

/-- What a store of files with states in `σ` does. A write that fails may still leave the store
changed. -/
structure Disk (σ : Type) where
  holds : σ → String → Bool
  read : σ → String → Except FileFault String
  write : σ → (path text : String) → Except FileFault Unit × σ

/-- What the output streams do, given what they have taken before. A text that is not taken as a
whole counts as refused, and the outcome of a run leaves it out. -/
structure Console where
  takes : Outcome → Stream → (text : String) → Except FileFault Unit
  log : Report → String

def Console.quiet : Console where
  takes _ _ _ := .ok ()
  log _ := ""

namespace Program

variable {σ : Type}

def runFrom (disk : Disk σ) (console : Console) : Program → Outcome → σ → Outcome × σ
  | done code, o, s => ({ o with code := code }, s)
  | seek path next, o, s => (next (disk.holds s path)).runFrom disk console o s
  | read path next, o, s => (next (disk.read s path)).runFrom disk console o s
  | write path text next, o, s =>
    (next (disk.write s path text).1).runFrom disk console o (disk.write s path text).2
  | print stream text next, o, s =>
    match console.takes o stream text with
    | .ok () => (next (.ok ())).runFrom disk console (o.say text stream) s
    | .error f => (next (.error f)).runFrom disk console o s
  | log report next, o, s => next.runFrom disk console (o.say (console.log report) .err) s

def run (disk : Disk σ) (p : Program) (s : σ) (console : Console := .quiet) : Outcome × σ :=
  p.runFrom disk console {} s

/-- The exit code of a run that breaks off at a text that a stream does not take. -/
def brokenOff : UInt32 := 101

def say (stream : Stream) (text : String) (next : Program) : Program :=
  .print stream text fun
    | .ok () => next
    | .error _ => .done brokenOff

def fail (message : String) : Program := .say .err (message ++ "\n") (.done 1)

/-- Goes on with the text of the first path that leads to a file, if it can be read. -/
def readFirst : (paths : List String) → (next : Option String → Program) → Program
  | [], next => next none
  | path :: paths, next => .seek path fun
    | true => .read path fun text ↦ next text.toOption
    | false => readFirst paths next

end Program

end WikiStream.Cli
