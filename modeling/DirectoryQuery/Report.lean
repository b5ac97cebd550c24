/-
Module: DirectoryQuery.Report
Purpose: What a caller is told when a query cannot be derived, compiled or answered.
Main exports:
  Report, Report.text, Report.ofUnreadable
-/
import DirectoryQuery.Text.Similarity
import DirectoryQuery.Value.Label

namespace DirectoryQuery

/-- The complaints of the library, with the parts that a caller may want to look at separately. -/
inductive Report where
  /-- A complaint without parts. -/
  | general (message : String)
  /-- The description of an entity is inconsistent. -/
  | mapping (message : String) (entity : Option String)
  /-- A finder name or the data form of a predicate cannot be read. -/
  | unreadable (message descriptor : String) (fragment : Option String)
    (suggestions : List String)
  /-- A predicate cannot be turned into a filter. -/
  | uncompilable (message : String) (property : Option Label)
  /-- A feature was asked for that directories do not have. -/
  | unsupported (feature : String) (detail : Option String)
  /-- A search for one entry found several. -/
  | resultSize (expected actual : Int)
deriving Repr, DecidableEq

namespace Report

/-- A complaint about a text that cannot be read.  The available names that resemble the fragment to
blame become suggestions. -/
def ofUnreadable (message descriptor : String) (fragment : Option String)
    (available : List String) : Report :=
  let suggestions :=
    match fragment with
    | some part => if part = "" then [] else Text.suggestions part available
    | none => []
  .unreadable message descriptor fragment suggestions

/-- The wording of a complaint. -/
def text : Report → String
  | .general message => message
  | .mapping message entity =>
    match entity with
    | some name =>
      if name = "" then message else "Invalid mapping for '" ++ name ++ "': " ++ message
    | none => message
  | .unreadable message descriptor _ suggestions =>
    "Cannot derive query from '" ++ descriptor ++ "': " ++ message ++
      if suggestions = [] then ""
      else "\nDid you mean: " ++ ", ".intercalate suggestions ++ "?"
  | .uncompilable message _ => message
  | .unsupported feature detail =>
    "'" ++ feature ++ "' is not supported by directory queries" ++
      match detail with
      | some reason => if reason = "" then "" else ": " ++ reason
      | none => ""
  | .resultSize expected actual =>
    "Expected at most " ++ toString expected ++ " result(s), got " ++ toString actual

end Report

end DirectoryQuery
