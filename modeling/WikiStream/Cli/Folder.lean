import WikiStream.Cli.Convert
import WikiStream.Dict

namespace WikiStream.Cli

abbrev Folder := Dict (List String) String

namespace Folder

def isFolder (f : Folder) (path : List String) : Bool :=
  path = [] || f.keys.any fun p ↦ path.isPrefixOf p && path ≠ p

def follow (f : Folder) : (here : List String) → List String → Except FileFault (List String)
  | here, [] => .ok here
  | here, part :: parts =>
    if !f.isFolder here then .error (if f.contains here then .notFolder else .missing)
    else if part = ".." then if here = [] then .error .missing else follow f here.dropLast parts
    else follow f (here ++ [part]) parts

def locate (f : Folder) (path : String) : Except FileFault (List String) :=
  let parts := pathParts path
  if path = "" then .error .missing
  else if path.toList.head? = some '/' then .error (if parts = [] then .isFolder else .missing)
  else if parts = [".."] then .error .isFolder
  else f.follow [] parts

def wantsFolder (path : String) : Bool :=
  path.toList.getLast? = some '/' || ['/', '.'].isSuffixOf path.toList

def nullDevice : String := "/dev/null"

def readFile (f : Folder) (path : String) : Except FileFault String := do
  let place ← f.locate path
  if f.isFolder place then .error .isFolder
  else match f.get? place with
    | none => .error .missing
    | some text => if wantsFolder path then .error .notFolder else .ok text

def writeFile (f : Folder) (path text : String) : Except FileFault Folder := do
  let place ← f.locate path
  if f.isFolder place || wantsFolder path then .error .isFolder
  else .ok (f.insert place text)

def disk : Disk Folder where
  holds f path := (f.readFile path).toOption.isSome
  read f path := if path = nullDevice then .ok "" else f.readFile path
  write f path text :=
    if path = nullDevice then (.ok (), f)
    else match f.writeFile path text with
      | .ok after => (.ok (), after)
      | .error fault => (.error fault, f)

def ofFiles (files : List (String × String)) : Folder :=
  Dict.ofList (files.map fun p ↦ (pathParts p.1, p.2))

def changes (old f : Folder) : List (String × String) :=
  (f.entries.filter fun p ↦ old.get? p.1 ≠ some p.2).map fun p ↦ ("/".intercalate p.1, p.2)

end Folder

end WikiStream.Cli
