/-
Module: DirectoryQuery.Finder.Keyword
Purpose: The keywords that may follow a property in the name of a finder.
Main exports:
  Keyword, Keyword.all, Keyword.byLength, Keyword.unsupported, withoutKeyword
-/
import DirectoryQuery.Predicate.Basic

namespace DirectoryQuery

/-- A keyword: the word, the operator that it calls for, and whether it negates the comparison. -/
structure Keyword where
  word : String
  operator : Operator
  isNegated : Bool := false
deriving Repr, DecidableEq, Inhabited

namespace Keyword

/-- All keywords.  The empty one asks for equality, and `NotLike` negates a match at the start. -/
def all : List Keyword := [
  ⟨"", .equals, false⟩,
  ⟨"Is", .equals, false⟩,
  ⟨"Equals", .equals, false⟩,
  ⟨"Not", .equals, true⟩,
  ⟨"IsNot", .equals, true⟩,
  ⟨"LessThanEqual", .atMost, false⟩,
  ⟨"IsLessThanEqual", .atMost, false⟩,
  ⟨"GreaterThanEqual", .atLeast, false⟩,
  ⟨"IsGreaterThanEqual", .atLeast, false⟩,
  ⟨"IsNotNull", .present, false⟩,
  ⟨"NotNull", .present, false⟩,
  ⟨"IsNull", .absent, false⟩,
  ⟨"Null", .absent, false⟩,
  ⟨"Like", .like, false⟩,
  ⟨"IsLike", .like, false⟩,
  ⟨"NotLike", .startingWith, true⟩,
  ⟨"IsNotLike", .startingWith, true⟩,
  ⟨"StartingWith", .startingWith, false⟩,
  ⟨"IsStartingWith", .startingWith, false⟩,
  ⟨"StartsWith", .startingWith, false⟩,
  ⟨"EndingWith", .endingWith, false⟩,
  ⟨"IsEndingWith", .endingWith, false⟩,
  ⟨"EndsWith", .endingWith, false⟩,
  ⟨"Containing", .containing, false⟩,
  ⟨"IsContaining", .containing, false⟩,
  ⟨"Contains", .containing, false⟩]

/-- Words that other query languages know and that have no counterpart in a filter. -/
def unsupported : List String := [
  "LessThan", "IsLessThan", "GreaterThan", "IsGreaterThan", "Before", "IsBefore", "After",
  "IsAfter", "Between", "IsBetween", "In", "IsIn", "NotIn", "IsNotIn", "True", "IsTrue", "False",
  "IsFalse", "Empty", "IsEmpty", "NotEmpty", "IsNotEmpty", "Regex", "MatchesRegex", "Matches",
  "Exists", "NotContaining", "IsNotContaining", "IgnoreCase", "IgnoringCase", "AllIgnoreCase"]

/-- Whether a word may be tried before another: no shorter word is. -/
def longerFirst (a b : String) : Bool := decide (b.length ≤ a.length)

/-- All keywords, longer ones first. -/
def byLength : List Keyword := all.mergeSort fun a b => longerFirst a.word b.word

/-- The words of all keywords, supported or not, longer ones first. -/
def wordsByLength : List String := (all.map (·.word) ++ unsupported).mergeSort longerFirst

end Keyword

/-- What precedes a word at the end of a text that is longer than the word. -/
def beforeSuffix? (text word : List Char) : Option (List Char) :=
  if word ≠ [] ∧ word.length < text.length ∧ word.isSuffixOf text then
    some (text.take (text.length - word.length))
  else
    none

/-- A text without the longest keyword that it ends with. -/
def withoutKeyword (text : List Char) : List Char :=
  (Keyword.wordsByLength.findSome? fun word => beforeSuffix? text word.toList).getD text

end DirectoryQuery
