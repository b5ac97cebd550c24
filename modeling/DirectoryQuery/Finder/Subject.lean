/-
Module: DirectoryQuery.Finder.Subject
Purpose: The front of a finder name, which says what is looked for, and the criteria behind it.
Main exports:
  SubjectFault, FinderParts, FinderParts.ofName?, criteriaOf
-/
import DirectoryQuery.Text.Split
import DirectoryQuery.Text.Word

namespace DirectoryQuery

open Text

/-- The words that a finder name may start with. -/
def finderVerbs : List String := ["find", "read", "get", "query", "search", "stream"]

/-- The word between the subject of a finder name and its criteria. -/
def criteriaMark : List Char := "By".toList

/-- A finder name without its verb: the words up to the first `By`, and what follows. -/
structure FinderParts where
  subject : List Char
  criteria : List Char
deriving Repr, DecidableEq

/-- What makes the front of a finder name unusable. -/
inductive SubjectFault where
  | malformed
  | limited (subject : String)
  | distinct
  | sorted
  | noCriteria
deriving Repr, DecidableEq

namespace FinderParts

/-- Splits a text at the first `By`, if only word characters precede it. -/
def atMark? : List Char → Option FinderParts
  | [] => none
  | c :: rest =>
    match afterPrefix? criteriaMark (c :: rest) with
    | some criteria => some ⟨[], criteria⟩
    | none =>
      if isWordChar c then
        (atMark? rest).map fun parts => { parts with subject := c :: parts.subject }
      else
        none

/-- Splits what follows the verb.  A subject starts with a capital letter; `By` right behind the
verb leaves no subject. -/
def afterVerb? (text : List Char) : Option FinderParts :=
  match afterPrefix? criteriaMark text with
  | some criteria => some ⟨[], criteria⟩
  | none =>
    match text with
    | [] => none
    | c :: rest =>
      if c.isUpper then
        (atMark? rest).map fun parts => { parts with subject := c :: parts.subject }
      else
        none

/-- A text without a line break at its end. -/
def withoutFinalBreak (text : List Char) : List Char :=
  if text.getLast? = some '\n' then text.dropLast else text

/-- The parts of a finder name.  A line break is allowed at the end only, and is dropped. -/
def ofName? (name : String) : Option FinderParts := do
  let verbless ← finderVerbs.findSome? fun verb => afterPrefix? verb.toList name.toList
  let parts ← afterVerb? verbless
  let criteria := withoutFinalBreak parts.criteria
  if '\n' ∈ criteria then none else some { parts with criteria := criteria }

end FinderParts

/-! ### Features that directories do not have -/

/-- Whether a text starts with a limit: `First` or `Top`, a number, and then a capital letter or the
end. -/
def startsWithLimit (text : List Char) : Bool :=
  ["First", "Top"].any fun word =>
    match afterPrefix? word.toList text with
    | none => false
    | some rest =>
      match rest.dropWhile isDecimalDigit with
      | [] => true
      | c :: _ => c.isUpper

/-- Whether a subject limits the number of results. -/
def hasLimit : List Char → Bool
  | [] => false
  | c :: rest => startsWithLimit (c :: rest) || hasLimit rest

/-- The criteria of a finder name. -/
def criteriaOf (name : String) : Except SubjectFault (List Char) :=
  match FinderParts.ofName? name with
  | none => .error .malformed
  | some parts =>
    if hasLimit parts.subject then .error (.limited (String.ofList parts.subject))
    else if occursIn "Distinct".toList parts.subject then .error .distinct
    else if occursIn "OrderBy".toList parts.criteria then .error .sorted
    else if parts.criteria = [] then .error .noCriteria
    else .ok parts.criteria

end DirectoryQuery
