import WikiStream.Cli.Convert

namespace WikiStream.Cli

def faultOf : IO.Error → FileFault
  | .noFileOrDirectory .. => .missing
  | .inappropriateType _ 21 _ => .isFolder
  | .inappropriateType _ 20 _ => .notFolder
  | .alreadyExists _ code details | .otherError code details | .resourceBusy code details
  | .resourceVanished code details | .unsupportedOperation code details
  | .hardwareFault code details | .unsatisfiedConstraints code details
  | .illegalOperation code details | .protocolError code details | .timeExpired code details
  | .interrupted _ code details | .invalidArgument _ code details
  | .permissionDenied _ code details | .resourceExhausted _ code details
  | .inappropriateType _ code details | .noSuchThing _ code details => .system details code.toNat
  | .unexpectedEof => .system "unexpected end of file" 0
  | .userError message => .system message 0

def readText (path : String) : IO (Except FileFault String) := do
  try
    let bytes ← IO.FS.readBinFile path
    return match String.fromUTF8? bytes with
      | some text => .ok text
      | none => .error .notText
  catch e => return .error (faultOf e)

def isReadable (path : String) : IO Bool := do
  try
    let _ ← IO.FS.readBinFile path
    return true
  catch _ => return false

def writeText (path text : String) : IO (Except FileFault Unit) := do
  try
    IO.FS.writeFile path text
    return .ok ()
  catch e => return .error (faultOf e)

def printText (stream : Stream) (text : String) : IO (Except FileFault Unit) := do
  try
    let handle ← match stream with
      | .out => IO.getStdout
      | .err => IO.getStderr
    handle.putStr text
    handle.flush
    return .ok ()
  catch e => return .error (faultOf e)

def logLine : String := "WARN recursion ceiling reached, dropping subtree\n"

def perform : Program → IO UInt32
  | .done code => return code
  | .seek path next => do perform (next (← isReadable path))
  | .read path next => do perform (next (← readText path))
  | .write path text next => do perform (next (← writeText path text))
  | .print stream text next => do perform (next (← printText stream text))
  | .log report next => do
    for _ in [0:report.truncated] do
      let _ ← printText .err logLine
    perform next

end WikiStream.Cli

def main (args : List String) : IO UInt32 := WikiStream.Cli.perform (WikiStream.Cli.program args)
