/-
Module: DirectoryQuery.Text.Quoted
Purpose: Texts and octets between quotation marks, with everything invisible written as an escape.
Main exports:
  hexDigit, hexPadded, quoted, quotedOctets, quotedOctetArray
-/
import DirectoryQuery.Text.Quoted.Table

namespace DirectoryQuery.Text

namespace Quoted

/-- A digit below sixteen, in lower case. -/
def hexDigit (digit : Nat) : Char :=
  Char.ofNat (if digit < 10 then '0'.toNat + digit else 'a'.toNat + (digit - 10))

/-- The lowest `width` digits of a number in base sixteen. -/
def hexPadded : (width : Nat) → Nat → List Char
  | 0, _ => []
  | width + 1, n => hexPadded width (n / 16) ++ [hexDigit (n % 16)]

/-- Single quotation marks are used, except for a text that has some of them and no double one. -/
def delimiter (text : List Char) : Char :=
  if text.contains '\x27' && !text.contains '\x22' then '\x22' else '\x27'

/-- The escapes that quoted texts and quoted octets share. -/
def commonEscape? (mark : Char) (c : Char) : Option (List Char) :=
  if c = mark ∨ c = '\\' then some ['\\', c]
  else if c = '\n' then some ['\\', 'n']
  else if c = '\r' then some ['\\', 'r']
  else if c = '\t' then some ['\\', 't']
  else none

/-- A character inside quotation marks: an invisible one becomes a numeric escape of two, four or
eight digits. -/
def encodeChar (mark : Char) (c : Char) : List Char :=
  (commonEscape? mark c).getD <|
    if visibleCharacters.contains c then [c]
    else if c.toNat < 0x100 then '\\' :: 'x' :: hexPadded 2 c.toNat
    else if c.toNat < 0x10000 then '\\' :: 'u' :: hexPadded 4 c.toNat
    else '\\' :: 'U' :: hexPadded 8 c.toNat

/-- An octet inside quotation marks: outside printable ASCII it becomes a numeric escape. -/
def encodeOctet (mark : Char) (octet : UInt8) : List Char :=
  let c := Char.ofNat octet.toNat
  (commonEscape? mark c).getD <|
    if 0x20 ≤ octet.toNat ∧ octet.toNat < 0x7F then [c]
    else '\\' :: 'x' :: hexPadded 2 octet.toNat

end Quoted

/-- A text between quotation marks. -/
def quoted (text : String) : String :=
  let mark := Quoted.delimiter text.toList
  String.ofList (mark :: text.toList.flatMap (Quoted.encodeChar mark) ++ [mark])

/-- The quotation marks for octets. -/
def Quoted.octetDelimiter (octets : List UInt8) : Char :=
  Quoted.delimiter (octets.map fun octet => Char.ofNat octet.toNat)

/-- Octets between quotation marks, marked by a leading `b`; `guarded` is the mark to escape. -/
def Quoted.octetsBetween (mark guarded : Char) (octets : List UInt8) : String :=
  String.ofList ('b' :: mark :: octets.flatMap (Quoted.encodeOctet guarded) ++ [mark])

/-- Octets between quotation marks. -/
def quotedOctets (octets : List UInt8) : String :=
  let mark := Quoted.octetDelimiter octets
  Quoted.octetsBetween mark mark octets

/-- An array of octets between quotation marks.  Single marks are escaped inside double ones, too.
-/
def quotedOctetArray (octets : List UInt8) : String :=
  Quoted.octetsBetween (Quoted.octetDelimiter octets) '\x27' octets

end DirectoryQuery.Text
