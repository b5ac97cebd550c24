/-
Module: DirectoryQuery.Json.Basic
Purpose: JSON documents and what can be wrong with a JSON text.
Main exports:
  Json, Json.field?, Json.SyntaxError, Json.SyntaxError.message
-/
import DirectoryQuery.Numeric.Binary64
import DirectoryQuery.Numeric.Radix

namespace DirectoryQuery

open Numeric

/-- A JSON document.  The members of an object keep the order in which their keys first occur, and
whole numbers are told from numbers with a fraction or an exponent. -/
inductive Json where
  | null
  | bool (value : Bool)
  | int (value : Int)
  | float (value : Binary64)
  | text (value : String)
  | list (items : List Json)
  | object (members : List (String × Json))
deriving Repr, Inhabited

namespace Json

/-- The member of an object under a key. -/
def field? (document : Json) (key : String) : Option Json :=
  match document with
  | .object members => members.lookup key
  | _ => none

/-- Enters a member: a key that occurs already keeps its place and takes the new value. -/
def enter (members : List (String × Json)) (key : String) (value : Json) : List (String × Json) :=
  match members with
  | [] => [(key, value)]
  | (known, old) :: rest =>
    if known = key then (known, value) :: rest else (known, old) :: enter rest key value

/-- The ways in which a text fails to be JSON. -/
inductive SyntaxProblem where
  | valueExpected
  | keyExpected
  | colonExpected
  | commaExpected
  | unterminatedText
  | controlCharacter
  | invalidEscape
  | invalidUnicodeEscape
  | extraData
  | byteOrderMark
  | oversizedInteger (digits : Nat)
deriving Repr, DecidableEq

/-- A fault in a JSON text: what is wrong, and the number of characters before the place. -/
structure SyntaxError where
  problem : SyntaxProblem
  position : Nat
  line : Nat
  column : Nat
deriving Repr, DecidableEq

/-- The wording of a problem. -/
def SyntaxProblem.message : SyntaxProblem → String
  | .valueExpected => "Expecting value"
  | .keyExpected => "Expecting property name enclosed in double quotes"
  | .colonExpected => "Expecting ':' delimiter"
  | .commaExpected => "Expecting ',' delimiter"
  | .unterminatedText => "Unterminated string starting at"
  | .controlCharacter => "Invalid control character at"
  | .invalidEscape => "Invalid \\escape"
  | .invalidUnicodeEscape => "Invalid \\uXXXX escape"
  | .extraData => "Extra data"
  | .byteOrderMark => "Unexpected UTF-8 BOM (decode using utf-8-sig)"
  | .oversizedInteger digits => oversizedNumberMessage digits

/-- Whether the problem is one of size and not of syntax.  Such a problem has no place. -/
def SyntaxProblem.isOversized : SyntaxProblem → Bool
  | .oversizedInteger _ => true
  | _ => false

/-- The wording of a fault: the problem and its place. -/
def SyntaxError.message (fault : SyntaxError) : String :=
  if fault.problem.isOversized then
    fault.problem.message
  else
    fault.problem.message ++ ": line " ++ toString fault.line ++ " column " ++
      toString fault.column ++ " (char " ++ toString fault.position ++ ")"

/-- The fault with the given problem before the last `remaining` characters of a text.  Lines and
columns count from one. -/
def SyntaxError.at (problem : SyntaxProblem) (text : List Char) (remaining : Nat) : SyntaxError :=
  let before := text.take (text.length - remaining)
  { problem
    position := before.length
    line := before.count '\n' + 1
    column := (before.reverse.takeWhile (· ≠ '\n')).length + 1 }

end Json

end DirectoryQuery
