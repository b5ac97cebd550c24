/-
Module: DirectoryQuery.Text.LetterCase
Purpose: Lower case of a text, upper case of a letter and capitalisation of a name.
Main exports:
  upper, lower, lowercase, capitalize
-/
import DirectoryQuery.Text.LetterCase.Table

namespace DirectoryQuery.Text

namespace LetterCase

/-- The letter that a run maps `c` to, if the run holds `c`. -/
def CaseRun.image? (run : CaseRun) (c : Char) : Option Char :=
  if run.first ≤ c.toNat ∧ c.toNat ≤ run.last ∧ (c.toNat - run.first) % run.step = 0 then
    some (Char.ofNat (c.toNat + run.shift).toNat)
  else
    none

/-- The upper case of one letter, which may take several characters. -/
def upper (c : Char) : List Char :=
  match expandingUppers.lookup c.toNat with
  | some codes => codes.map Char.ofNat
  | none => [(upperRuns.findSome? (·.image? c)).getD c]

/-- The lower case of one letter apart from its neighbours.  Only the dotted capital I needs two
characters, the letter and a combining dot. -/
def lower (c : Char) : List Char :=
  if c = '\u0130' then ['i', '\u0307'] else [(lowerRuns.findSome? (·.image? c)).getD c]

/-- Whether the next character that counts has case. -/
def casedAhead (rest : List Char) : Bool :=
  match rest.find? (!caseIgnorable.contains ·) with
  | some c => casedLetters.contains c
  | none => false

/-- Lower case of a text, given whether the last character before it that counts has case.  A
capital sigma that ends a word becomes the final sigma. -/
def lowercaseAfter (casedBefore : Bool) : List Char → List Char
  | [] => []
  | c :: rest =>
    let lowered :=
      if c = 'Σ' then
        if casedBefore && !casedAhead rest then ['ς'] else ['σ']
      else
        lower c
    let cased := if caseIgnorable.contains c then casedBefore else casedLetters.contains c
    lowered ++ lowercaseAfter cased rest

end LetterCase

/-- The lower case of a text. -/
def lowercase (text : String) : String :=
  String.ofList (LetterCase.lowercaseAfter false text.toList)

/-- A name with its first letter in upper case and the rest unchanged. -/
def capitalize : List Char → List Char
  | [] => []
  | c :: rest => LetterCase.upper c ++ rest

end DirectoryQuery.Text
