import ScanTool.Text.CaseTable

/-!
# Letter case

Lower and upper case over all of Unicode. A single character may become several. A whole text is
put into lower case letter by letter, except that a capital sigma that closes a word becomes the
final form of the small sigma.
-/

namespace ScanTool.Text

/-- The mapping of one character by a table of runs and a table of longer mappings. -/
def mapCase (runs : List CaseRun) (expansions : List (Nat × List Nat)) (c : Char) : List Char :=
  match expansions.lookup c.toNat with
  | some codes => codes.map Char.ofNat
  | none =>
    match runs.find? (·.covers c.toNat) with
    | some r => [Char.ofNat (c.toNat + r.shift).toNat]
    | none => [c]

/-- A character in lower case. -/
def lowerChar (c : Char) : List Char := mapCase lowerRuns lowerExpansions c

/-- A character in upper case. -/
def upperChar (c : Char) : List Char := mapCase upperRuns upperExpansions c

/-- Whether the first character that is not ignored by the casing rules is a cased letter. -/
def meetsCased (cs : List Char) : Bool :=
  match cs.dropWhile caseIgnorables.has with
  | [] => false
  | c :: _ => casedLetters.has c

/-- A text in lower case, given what comes before it in reverse order. A capital sigma is final if
it follows a cased letter and none follows it. -/
def lowerFrom (before : List Char) : List Char → List Char
  | [] => []
  | c :: cs =>
    let image :=
      if c = 'Σ' then if meetsCased before && !meetsCased cs then ['ς'] else ['σ']
      else lowerChar c
    image ++ lowerFrom (c :: before) cs

/-- A text in lower case. -/
def lowercase (s : String) : String := String.ofList (lowerFrom [] s.toList)

end ScanTool.Text
