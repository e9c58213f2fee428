import Mathlib.Tactic.SplitIfs
import WikiStream.Cli.Folder

namespace WikiStream.Cli

variable {σ : Type}

/-- What has been written to the path is what is read there. -/
def Disk.Keeps (disk : Disk σ) (path : String) : Prop :=
  ∀ s text after, disk.write s path text = (.ok (), after) → disk.read after path = .ok text

namespace Program

variable {disk : Disk σ} {console : Console} {stream : Stream} {text : String} {next : Program}
  {o : Outcome} {s : σ}

end Program

namespace Task

structure Materials where
  settings : Settings
  format : OutputFormat
  options : Options
  text : String
  tokens : List Token

namespace Materials

def rendering (m : Materials) : Rendering :=
  ({ options := m.options } : Converter).document m.tokens

def listing (m : Materials) : String := m.format.write m.rendering.events

end Materials

section Runs

variable {t : Task} {disk : Disk σ} {console : Console} {o : Outcome} {s : σ} {m : Materials}
  {cause : Cause} {before line : String} {f : FileFault}

end Runs

end Task

namespace Folder

variable {f : Folder} {place : List String} {text : String}

end Folder

def Console.full : Console where
  takes _ stream _ := if stream = .out then .error .noSpace else .ok ()
  log _ := ""

end WikiStream.Cli
