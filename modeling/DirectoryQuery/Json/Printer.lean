/-
Module: DirectoryQuery.Json.Printer
Purpose: Writing JSON documents in ASCII.
Main exports:
  Json.texts, Json.optionalText, Json.written
-/
import DirectoryQuery.Json.Basic
import DirectoryQuery.Numeric.Shortest
import DirectoryQuery.Text.Quoted

namespace DirectoryQuery.Json

open Numeric Text

/-- A list of texts. -/
def texts (items : List String) : Json := .list (items.map .text)

/-- A text, or null if there is none. -/
def optionalText (value : Option String) : Json := (value.map Json.text).getD .null

/-- A code unit of sixteen bits as an escape. -/
def escapedUnit (unit : Nat) : List Char := '\\' :: 'u' :: Quoted.hexPadded 4 unit

/-- A character inside a text.  Beyond printable ASCII it becomes one escape, or two of a surrogate
pair. -/
def escapedChar (c : Char) : List Char :=
  if c = '\x22' ∨ c = '\\' then ['\\', c]
  else if 0x20 ≤ c.toNat ∧ c.toNat < 0x7F then [c]
  else if c.toNat < 0x10000 then escapedUnit c.toNat
  else
    let beyond := c.toNat - 0x10000
    escapedUnit (0xD800 + beyond / 0x400) ++ escapedUnit (0xDC00 + beyond % 0x400)

/-- A text in its quotation marks. -/
def writtenText (text : String) : String :=
  String.ofList ('\x22' :: text.toList.flatMap escapedChar ++ ['\x22'])

/-- A number with a fraction or an exponent, or the word for a value that is none. -/
def writtenFloat : Binary64 → String
  | .nan => "NaN"
  | .infinite negative => if negative then "-Infinity" else "Infinity"
  | value => value.text

mutual

/-- A document without white space. -/
def written : Json → String
  | .null => "null"
  | .bool value => if value then "true" else "false"
  | .int value => toString value
  | .float value => writtenFloat value
  | .text value => writtenText value
  | .list items => "[" ++ ",".intercalate (writtenItems items) ++ "]"
  | .object members => "\x7b" ++ ",".intercalate (writtenMembers members) ++ "\x7d"

/-- The items of a list. -/
def writtenItems : List Json → List String
  | [] => []
  | item :: rest => written item :: writtenItems rest

/-- The members of an object. -/
def writtenMembers : List (String × Json) → List String
  | [] => []
  | (key, value) :: rest => (writtenText key ++ ":" ++ written value) :: writtenMembers rest

end

end DirectoryQuery.Json
