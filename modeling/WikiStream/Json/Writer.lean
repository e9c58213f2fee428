import WikiStream.Json.Lexical
import WikiStream.Text.Numeral

namespace WikiStream.Json

def hexDigit (n : Nat) : Char := if n < 10 then Char.ofNat (48 + n) else Char.ofNat (87 + n)

/-- Only quotes, backslashes and characters below the space are escaped. -/
def escapeChar (c : Char) : List Char :=
  if c = '"' then ['\\', '"']
  else if c = '\\' then ['\\', '\\']
  else if c = '\x08' then ['\\', 'b']
  else if c = '\x0c' then ['\\', 'f']
  else if c = '\n' then ['\\', 'n']
  else if c = '\r' then ['\\', 'r']
  else if c = '\t' then ['\\', 't']
  else if c.toNat < 0x20 then
    ['\\', 'u', '0', '0', hexDigit (c.toNat / 16), hexDigit (c.toNat % 16)]
  else [c]

def writeString (s : String) : List Char := '"' :: (s.toList.flatMap escapeChar ++ ['"'])

def Number.write : Number → List Char
  | .whole n => Text.decimalInt n
  | .real literal => literal.toList

def writeScalar : Value → List Char
  | .null => "null".toList
  | .bool b => (if b then "true" else "false").toList
  | .number n => n.write
  | .string s => writeString s
  | .array _ | .object _ => []

namespace Value

mutual

def writeChars : Value → List Char
  | .array items => '[' :: (writeItems items ++ [']'])
  | .object members => '\x7b' :: (writeMembers members ++ ['\x7d'])
  | .null => writeScalar .null
  | .bool b => writeScalar (.bool b)
  | .number n => writeScalar (.number n)
  | .string s => writeScalar (.string s)

def writeItems : List Value → List Char
  | [] => []
  | [v] => writeChars v
  | v :: rest => writeChars v ++ ',' :: writeItems rest

def writeMembers : List (String × Value) → List Char
  | [] => []
  | [(key, v)] => writeString key ++ ':' :: writeChars v
  | (key, v) :: rest => writeString key ++ ':' :: (writeChars v ++ ',' :: writeMembers rest)

end

def write (v : Value) : String := String.ofList (writeChars v)

def newLine (depth : Nat) : List Char := '\n' :: List.replicate (2 * depth) ' '

mutual

def indentChars (depth : Nat) : Value → List Char
  | .array [] => ['[', ']']
  | .array (v :: rest) =>
    '[' :: (newLine (depth + 1) ++ indentChars (depth + 1) v ++ indentItems (depth + 1) rest ++
      newLine depth ++ [']'])
  | .object [] => ['\x7b', '\x7d']
  | .object ((key, v) :: rest) =>
    '\x7b' :: (newLine (depth + 1) ++ writeString key ++ ':' :: ' ' :: indentChars (depth + 1) v ++
      indentMembers (depth + 1) rest ++ newLine depth ++ ['\x7d'])
  | .null => writeScalar .null
  | .bool b => writeScalar (.bool b)
  | .number n => writeScalar (.number n)
  | .string s => writeScalar (.string s)

def indentItems (depth : Nat) : List Value → List Char
  | [] => []
  | v :: rest => ',' :: (newLine depth ++ indentChars depth v ++ indentItems depth rest)

def indentMembers (depth : Nat) : List (String × Value) → List Char
  | [] => []
  | (key, v) :: rest =>
    ',' :: (newLine depth ++ writeString key ++ ':' :: ' ' :: indentChars depth v ++
      indentMembers depth rest)

end

def writeIndented (v : Value) : String := String.ofList (indentChars 0 v)

end Value

end WikiStream.Json
