import WikiStream.Text.Blank
import WikiStream.Text.CaseTable
import WikiStream.Text.CasedTable

namespace WikiStream.Text

def CaseRun.covers (r : CaseRun) (n : Nat) : Bool :=
  r.first ≤ n && n ≤ r.last && (n - r.first) % r.step = 0

/-- Looks a character up among the expansions first and then among the runs. -/
def mapCase (expansions : List (Nat × List Nat)) (runs : List CaseRun) (c : Char) : List Char :=
  match expansions.lookup c.toNat with
  | some ns => ns.map Char.ofNat
  | none =>
    match runs.find? (·.covers c.toNat) with
    | some r => [Char.ofNat (c.toNat + r.shift).toNat]
    | none => [c]

def upperChar (c : Char) : List Char := mapCase upperExpansions upperRuns c

def lowerChar (c : Char) : List Char := mapCase lowerExpansions lowerRuns c

def capitalize (s : String) : String :=
  match s.toList with
  | [] => ""
  | c :: rest => String.ofList (upperChar c ++ rest)

def foldCase (s : String) : List Char := s.toList.flatMap lowerChar

def sameIgnoringCase (a b : String) : Bool := foldCase a = foldCase b

/-- Whether a letter comes next, where apostrophes, accents and the like do not count. -/
def startsCased (s : List Char) : Bool :=
  (s.dropWhile (inRanges caseIgnorableRanges)).head?.any (inRanges casedRanges)

def lowerAfter : (before : List Char) → (s : List Char) → List Char
  | _, [] => []
  | before, c :: s =>
    let final := c = 'Σ' && startsCased before && !startsCased s
    (if final then ['ς'] else lowerChar c) ++ lowerAfter (c :: before) s

def lower (s : String) : String := String.ofList (lowerAfter [] s.toList)

end WikiStream.Text
