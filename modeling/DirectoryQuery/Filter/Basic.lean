/-
Module: DirectoryQuery.Filter.Basic
Purpose: Search filters and their text.
Main exports:
  Filter, Filter.written, Filter.text, Filter.present
-/
import DirectoryQuery.Filter.Assertion
import DirectoryQuery.Predicate.Basic

namespace DirectoryQuery

open Text

/-- A search filter.  `matching` compares an attribute with a pattern: the given values with any
text between each two of them.  Without further values it is a test for equality. -/
inductive Filter where
  | matching (attributeName : String) (first : Assertion) (others : List Assertion)
  | atMost (attributeName : String) (value : Assertion)
  | atLeast (attributeName : String) (value : Assertion)
  | negation (operand : Filter)
  | composite (kind : Connective) (branches : List Filter)

namespace Filter

/-- The value that stands at an end of a pattern which is open there. -/
def nothing : Assertion := .text []

/-- The test for equality with a value. -/
def equality (attributeName : String) (value : Assertion) : Filter :=
  .matching attributeName value []

/-- The test for the presence of any value. -/
def present (attributeName : String) : Filter := .matching attributeName nothing [nothing]

/-- The test for a value that starts with the given one. -/
def startingWith (attributeName : String) (value : Assertion) : Filter :=
  .matching attributeName value [nothing]

/-- The test for a value that ends with the given one. -/
def endingWith (attributeName : String) (value : Assertion) : Filter :=
  .matching attributeName nothing [value]

/-- The test for a value that contains the given one. -/
def containing (attributeName : String) (value : Assertion) : Filter :=
  .matching attributeName nothing [value, nothing]

/-- The test for a value that follows a pattern with wildcards. -/
def like (attributeName : String) (pattern : List Char) : Filter :=
  let (first, others) := splitPattern pattern
  .matching attributeName (.text first) (others.map .text)

/-! ### Text -/

/-- The mark of a connective. -/
def mark : Connective → Char
  | .conjunction => '&'
  | .disjunction => '|'

/-- A test of an attribute in its parentheses. -/
def testWritten (attributeName : String) (sign value : List Char) : List Char :=
  '(' :: attributeName.toList ++ sign ++ value ++ [')']

mutual

/-- A filter as characters. -/
def written : Filter → List Char
  | .matching attributeName first others =>
    testWritten attributeName ['=']
      (joinWith wildcard first.written (others.map Assertion.written))
  | .atMost attributeName value => testWritten attributeName ['<', '='] value.written
  | .atLeast attributeName value => testWritten attributeName ['>', '='] value.written
  | .negation operand => '(' :: '!' :: written operand ++ [')']
  | .composite kind branches => '(' :: mark kind :: writtenAll branches ++ [')']

/-- Filters as characters, one after the other. -/
def writtenAll : List Filter → List Char
  | [] => []
  | filter :: rest => written filter ++ writtenAll rest

end

/-- The text of a filter. -/
def text (filter : Filter) : String := String.ofList filter.written

end Filter

end DirectoryQuery
