import WikiStream.Event.Json
import WikiStream.Event.Trace
import WikiStream.Options

namespace WikiStream

structure OutputFormat where
  name : String
  description : String
  write : List Event → String

namespace OutputFormat

def trace : OutputFormat where
  name := "trace"
  description := "Indented listing of begin/end and single events"
  write := Trace.write

def json : OutputFormat where
  name := "json"
  description := "Event stream as a JSON array"
  write events := (Json.Value.array (events.map Event.toValue)).writeIndented

def standard : List OutputFormat := [json, trace]

def find (formats : List OutputFormat) (name : String) : Except Error OutputFormat :=
  match formats.find? (·.name = name) with
  | some format => .ok format
  | none => .error (.formatNotFound name)

end OutputFormat

end WikiStream
