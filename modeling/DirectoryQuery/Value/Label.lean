/-
Module: DirectoryQuery.Value.Label
Purpose: Texts that name something, which members of an enumeration may stand in for.
Main exports:
  Label, Label.text, Label.value, Label.reading, Label.literal?, Label.ofValue?
-/
import DirectoryQuery.Value.Equality
import DirectoryQuery.Value.Text

namespace DirectoryQuery

/-- A text that names something: a plain one, or a member of an enumeration that is a text as well.
The member names what its own text names, but it reads as a member, and stands for a value. -/
inductive Label where
  | plain (text : String)
  | member (appearance : Appearance) (text : String) (content : Value)
deriving Repr, DecidableEq, Inhabited

namespace Label

/-- The text of a label. -/
def text : Label → String
  | .plain text => text
  | .member _ text _ => text

/-- A label as a value. -/
def value : Label → Value
  | .plain text => .text text
  | .member appearance text content => .member appearance (.text text) content

/-- A label as it reads on its own. -/
def reading (label : Label) : String := label.value.reading

/-- A label as it is written inside a text, if it can be written. -/
def literal? : Label → Option String
  | .plain text => some (Value.text text).literal
  | .member appearance _ _ => appearance.literal?

/-- The label that a value is. -/
def ofValue? : Value → Option Label
  | .text text => some (.plain text)
  | .member appearance (.text text) content => some (.member appearance text content)
  | _ => none

theorem ofValue?_value (label : Label) : ofValue? label.value = some label := by
  cases label <;> rfl

/-- Just the values that are texts are labels. -/
theorem ofValue?_map_text (value : Value) : (ofValue? value).map text = value.asText? := by
  cases value with
  | member appearance kind content => cases kind <;> rfl
  | _ => rfl

end Label

end DirectoryQuery
