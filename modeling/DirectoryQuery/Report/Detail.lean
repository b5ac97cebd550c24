/-
Module: DirectoryQuery.Report.Detail
Purpose: The parts of a complaint as a JSON document.
Main exports:
  Report.code, Report.detail
-/
import DirectoryQuery.Json.Printer
import DirectoryQuery.Report
import DirectoryQuery.Value.Tagged

namespace DirectoryQuery.Report

/-- The code word for a complaint. -/
def code : Report → String
  | .general _ => "QueryDerivationError"
  | .mapping _ _ => "MAPPING_ERROR"
  | .unreadable _ _ _ _ => "PARSE_ERROR"
  | .uncompilable _ _ => "COMPILE_ERROR"
  | .unsupported _ _ => "UNSUPPORTED_FEATURE"
  | .resultSize _ _ => "INCORRECT_RESULT_SIZE"

/-- A label as a JSON document; a member of an enumeration stays one. -/
def labelDetail (label : Option Label) : Json := (label.map (·.value.toTagged)).getD .null

/-- The parts of a complaint under their names. -/
def parts : Report → List (String × Json)
  | .general message => [("message", .text message)]
  | .mapping message entity => [("message", .text message), ("entity", Json.optionalText entity)]
  | .unreadable message descriptor fragment suggestions =>
    [("message", .text message), ("descriptor", .text descriptor),
      ("fragment", Json.optionalText fragment), ("suggestions", Json.texts suggestions)]
  | .uncompilable message property =>
    [("message", .text message), ("property", labelDetail property)]
  | .unsupported feature detail =>
    [("feature", .text feature), ("detail", Json.optionalText detail)]
  | .resultSize expected actual => [("expected", .int expected), ("actual", .int actual)]

/-- A complaint as a JSON document. -/
def detail (report : Report) : Json := .object (("error", .text report.code) :: report.parts)

end DirectoryQuery.Report
