/-
Module: DirectoryQuery.Json.Reader
Purpose: Reading a JSON text, with the first fault and its place when it is not one.
Main exports:
  Json.parse
-/
import DirectoryQuery.Json.Basic

namespace DirectoryQuery.Json

open Text Numeric

/-!
Every reader takes the characters that are left and returns those that it leaves, with a proof that
they are fewer.  A fault is recorded with the characters that are left at its place, from which
`parse` computes the position.

The numbers `NaN`, `Infinity` and `-Infinity` are accepted.  A surrogate that an escape writes
without its partner stands for the replacement character.
-/

/-- A fault, and the number of characters that are left at its place. -/
structure Fault where
  problem : SyntaxProblem
  remaining : Nat
deriving Repr, DecidableEq

/-- What was read from the front of `source`, and the shorter rest. -/
structure Reading (α : Type) (source : List Char) where
  value : α
  rest : List Char
  shorter : rest.length < source.length

/-- A fault at the place where `rest` is left. -/
def fail {α : Type} (problem : SyntaxProblem) (rest : List Char) : Except Fault α :=
  .error ⟨problem, rest.length⟩

/-- The white space between the parts of a JSON text. -/
def isGap (c : Char) : Bool := c == ' ' || c == '\t' || c == '\n' || c == '\r'

/-- Passes over white space. -/
def skipGap (source : List Char) : List Char := source.dropWhile isGap

theorem length_dropWhile_le {α : Type} (test : α → Bool) (source : List α) :
    (source.dropWhile test).length ≤ source.length :=
  (List.dropWhile_sublist test).length_le

theorem skipGap_length_le (source : List Char) : (skipGap source).length ≤ source.length :=
  length_dropWhile_le isGap source

/-! ### Texts -/

/-- The value of a hexadecimal digit of either case. -/
def hexValue? (c : Char) : Option Nat :=
  if c.isDigit then some (c.toNat - '0'.toNat)
  else if 'a' ≤ c ∧ c ≤ 'f' then some (c.toNat - 'a'.toNat + 10)
  else if 'A' ≤ c ∧ c ≤ 'F' then some (c.toNat - 'A'.toNat + 10)
  else none

/-- The code unit that the first four characters write, if a character follows them. -/
def codeUnit? : List Char → Option Nat
  | a :: b :: c :: d :: _ :: _ => do
    let a ← hexValue? a
    let b ← hexValue? b
    let c ← hexValue? c
    let d ← hexValue? d
    return ((a * 16 + b) * 16 + c) * 16 + d
  | _ => none

/-- Whether a code unit is the first half of a pair. -/
def isHighSurrogate (unit : Nat) : Bool := 0xD800 ≤ unit && unit ≤ 0xDBFF

/-- Whether a code unit is the second half of a pair. -/
def isLowSurrogate (unit : Nat) : Bool := 0xDC00 ≤ unit && unit ≤ 0xDFFF

/-- The character of a code unit; half a pair has none of its own. -/
def unitChar (unit : Nat) : Char :=
  if isHighSurrogate unit || isLowSurrogate unit then '\uFFFD' else Char.ofNat unit

/-- The character that a pair of code units stands for. -/
def pairChar (high low : Nat) : Char :=
  Char.ofNat (0x10000 + (high - 0xD800) * 0x400 + (low - 0xDC00))

/-- The character of an escape with one letter. -/
def simpleEscape? (c : Char) : Option Char :=
  if c = '\x22' ∨ c = '\\' ∨ c = '/' then some c
  else if c = 'b' then some '\x08'
  else if c = 'f' then some '\x0C'
  else if c = 'n' then some '\n'
  else if c = 'r' then some '\r'
  else if c = 't' then some '\t'
  else none

/-- The second half of a pair, if an escape for a code unit and one more character follow. -/
def secondUnit? : List Char → Option (List Char × Option Nat)
  | '\\' :: 'u' :: digits => if 5 ≤ digits.length then some (digits, codeUnit? digits) else none
  | _ => none

/-- Reads a numeric escape; `digits` follows the letter `u`, which `source` begins with. -/
def readUnit (source digits : List Char) (cut : digits.length < source.length) :
    Except Fault (Reading Char source) :=
  match codeUnit? digits with
  | none => fail .invalidUnicodeEscape source
  | some unit =>
    let rest := digits.drop 4
    have shorter : rest.length < source.length := by
      simp only [rest, List.length_drop]; omega
    if isHighSurrogate unit then
      match secondUnit? rest with
      | none => .ok ⟨unitChar unit, rest, shorter⟩
      | some (second, none) => .error ⟨.invalidUnicodeEscape, second.length + 1⟩
      | some (_, some low) =>
        if isLowSurrogate low then
          .ok ⟨pairChar unit low, rest.drop 6, by simp only [List.length_drop]; omega⟩
        else
          .ok ⟨unitChar unit, rest, shorter⟩
    else
      .ok ⟨unitChar unit, rest, shorter⟩

/-- Reads the rest of a text up to its closing quotation mark.  `opening` is the number of
characters left at the opening one, which is to blame if none follows. -/
def readText (opening : Nat) (written : List Char) (source : List Char) :
    Except Fault (Reading String source) :=
  match source with
  | [] => .error ⟨.unterminatedText, opening⟩
  | c :: rest =>
    if c = '\x22' then
      .ok ⟨String.ofList written.reverse, rest, by simp⟩
    else if c = '\\' then
      match rest with
      | [] => .error ⟨.unterminatedText, opening⟩
      | letter :: after =>
        if letter = 'u' then
          match readUnit (letter :: after) after (by simp) with
          | .error fault => .error fault
          | .ok ⟨read, left, shorter⟩ =>
            match readText opening (read :: written) left with
            | .error fault => .error fault
            | .ok ⟨whole, final, less⟩ =>
              .ok ⟨whole, final, by simp only [List.length_cons] at *; omega⟩
        else
          match simpleEscape? letter with
          | none => fail .invalidEscape (c :: letter :: after)
          | some read =>
            match readText opening (read :: written) after with
            | .error fault => .error fault
            | .ok ⟨whole, final, less⟩ =>
              .ok ⟨whole, final, by simp only [List.length_cons] at *; omega⟩
    else if c.toNat < 0x20 then
      fail .controlCharacter (c :: rest)
    else
      match readText opening (c :: written) rest with
      | .error fault => .error fault
      | .ok ⟨whole, final, less⟩ => .ok ⟨whole, final, by simp only [List.length_cons]; omega⟩
termination_by source.length
decreasing_by
  all_goals simp only [List.length_cons] at *; omega

/-! ### Numbers and constants -/

/-- Splits off the digits that follow a point, if there are any. -/
def fractionPart (source : List Char) : List Char × List Char :=
  match source with
  | '.' :: rest =>
    if rest.takeWhile Char.isDigit = [] then ([], source)
    else (rest.takeWhile Char.isDigit, rest.dropWhile Char.isDigit)
  | _ => ([], source)

/-- Splits off an exponent, if its mark, sign and at least one digit are there. -/
def exponentPart (source : List Char) : Option Int × List Char :=
  match source with
  | c :: rest =>
    if c = 'e' ∨ c = 'E' then
      let (negative, digits) := readSign rest
      let size := digits.takeWhile Char.isDigit
      if size = [] then (none, source)
      else
        (some (if negative then -(naturalOf size : Int) else naturalOf size),
          digits.dropWhile Char.isDigit)
    else
      (none, source)
  | [] => (none, source)

theorem fractionPart_length_le (source : List Char) :
    (fractionPart source).2.length ≤ source.length := by
  unfold fractionPart
  split
  · split
    · simp
    · have := length_dropWhile_le Char.isDigit ‹List Char›
      simp only [List.length_cons]; omega
  · simp

theorem readSign_length_le (source : List Char) : (readSign source).2.length ≤ source.length := by
  unfold readSign
  split <;> simp

theorem exponentPart_length_le (source : List Char) :
    (exponentPart source).2.length ≤ source.length := by
  unfold exponentPart
  split
  · rename_i c rest
    split
    · have sign := readSign_length_le rest
      have digits := length_dropWhile_le Char.isDigit (readSign rest).2
      dsimp only
      split
      · simp
      · simp only [List.length_cons]; omega
    · simp
  · simp

/-- The whole part of a number: a lone zero, or digits that do not begin with one. -/
def wholePart (source : List Char) : List Char × List Char :=
  match source with
  | '0' :: rest => (['0'], rest)
  | _ => (source.takeWhile Char.isDigit, source.dropWhile Char.isDigit)

theorem wholePart_length (source : List Char) :
    (wholePart source).1.length + (wholePart source).2.length = source.length := by
  unfold wholePart
  split
  · simp; omega
  · rw [← List.length_append, List.takeWhile_append_dropWhile]

/-- What follows an optional minus sign. -/
def unsignedPart (source : List Char) : List Char :=
  match source with
  | '-' :: rest => rest
  | _ => source

theorem unsignedPart_length_le (source : List Char) :
    (unsignedPart source).length ≤ source.length := by
  unfold unsignedPart
  split <;> simp

/-- What follows the longest number at the front of a text. -/
def afterNumber (source : List Char) : List Char :=
  (exponentPart (fractionPart (wholePart (unsignedPart source)).2).2).2

theorem afterNumber_length_lt {source : List Char}
    (nonempty : (wholePart (unsignedPart source)).1 ≠ []) :
    (afterNumber source).length < source.length := by
  have sign := unsignedPart_length_le source
  have whole := wholePart_length (unsignedPart source)
  have fraction := fractionPart_length_le (wholePart (unsignedPart source)).2
  have exponent := exponentPart_length_le (fractionPart (wholePart (unsignedPart source)).2).2
  have positive := List.length_pos_iff.2 nonempty
  unfold afterNumber
  omega

/-- Reads a number. -/
def readNumber (source : List Char) : Except Fault (Reading Json source) :=
  let negative := source.head? == some '-'
  let (whole, afterWhole) := wholePart (unsignedPart source)
  let (fraction, afterFraction) := fractionPart afterWhole
  let (exponent, _) := exponentPart afterFraction
  if nonempty : (wholePart (unsignedPart source)).1 = [] then
    fail .valueExpected source
  else if fraction ≠ [] ∨ exponent.isSome then
    let numeral := Numeral.ofParts negative whole fraction (exponent.getD 0)
    .ok ⟨.float (Binary64.ofNumeral numeral), afterNumber source, afterNumber_length_lt nonempty⟩
  else if wholeNumberDigitLimit < whole.length then
    fail (.oversizedInteger whole.length) source
  else
    let size : Int := naturalOf whole
    .ok ⟨.int (if negative then -size else size), afterNumber source,
      afterNumber_length_lt nonempty⟩

/-- The words that stand for a value. -/
def constants : List (List Char × Json) := [
  ("null".toList, .null), ("true".toList, .bool true), ("false".toList, .bool false),
  ("NaN".toList, .float .nan), ("Infinity".toList, .float (.infinite false)),
  ("-Infinity".toList, .float (.infinite true))]

/-- Reads a constant or a number. -/
def readScalar (source : List Char) : Except Fault (Reading Json source) :=
  match constants.find? fun (word, _) => word ≠ [] && word.isPrefixOf source with
  | some (word, value) =>
    if shorter : (source.drop word.length).length < source.length then
      .ok ⟨value, source.drop word.length, shorter⟩
    else
      fail .valueExpected source
  | none => readNumber source

/-! ### Values -/

mutual

/-- Reads a value, which must begin at the first character. -/
def readValue (source : List Char) : Except Fault (Reading Json source) :=
  match source with
  | [] => fail .valueExpected []
  | c :: rest =>
    if c = '\x22' then
      match readText (rest.length + 1) [] rest with
      | .error fault => .error fault
      | .ok ⟨read, left, less⟩ => .ok ⟨.text read, left, by simp only [List.length_cons]; omega⟩
    else if c = '[' then
      match inside : skipGap rest with
      | ']' :: left =>
        .ok ⟨.list [], left, by
          have := skipGap_length_le rest
          simp only [inside, List.length_cons] at this ⊢; omega⟩
      | items =>
        match readItems [] items with
        | .error fault => .error fault
        | .ok ⟨value, left, less⟩ =>
          .ok ⟨value, left, by
            have := skipGap_length_le rest
            simp only [inside, List.length_cons] at this ⊢; omega⟩
    else if c = '{' then
      match inside : skipGap rest with
      | '}' :: left =>
        .ok ⟨.object [], left, by
          have := skipGap_length_le rest
          simp only [inside, List.length_cons] at this ⊢; omega⟩
      | members =>
        match readMembers [] members with
        | .error fault => .error fault
        | .ok ⟨value, left, less⟩ =>
          .ok ⟨value, left, by
            have := skipGap_length_le rest
            simp only [inside, List.length_cons] at this ⊢; omega⟩
    else
      readScalar (c :: rest)
termination_by 2 * source.length
decreasing_by
  all_goals
    have := skipGap_length_le rest
    simp only [inside] at this
    simp only [List.length_cons]
    omega

/-- Reads the items of a list from the first or next one on, and its closing bracket.  The items
read so far are in reverse. -/
def readItems (items : List Json) (source : List Char) : Except Fault (Reading Json source) :=
  match readValue source with
  | .error fault => .error fault
  | .ok ⟨item, after, less⟩ =>
    match next : skipGap after with
    | ']' :: left =>
      .ok ⟨.list (item :: items).reverse, left, by
        have := skipGap_length_le after
        simp only [next, List.length_cons] at this; omega⟩
    | ',' :: left =>
      match readItems (item :: items) (skipGap left) with
      | .error fault => .error fault
      | .ok ⟨value, final, fewer⟩ =>
        .ok ⟨value, final, by
          have := skipGap_length_le after
          have := skipGap_length_le left
          simp only [next, List.length_cons] at *; omega⟩
    | left => fail .commaExpected left
termination_by 2 * source.length + 1
decreasing_by
  · omega
  · have := skipGap_length_le after
    have := skipGap_length_le left
    simp only [next, List.length_cons] at *
    omega

/-- Reads the members of an object from the first or next one on, and its closing brace. -/
def readMembers (members : List (String × Json)) (source : List Char) :
    Except Fault (Reading Json source) :=
  match source with
  | [] => fail .keyExpected []
  | c :: rest =>
    if c = '\x22' then
      match readText (rest.length + 1) [] rest with
      | .error fault => .error fault
      | .ok ⟨key, after, less⟩ =>
        match separator : skipGap after with
        | ':' :: following =>
          match readValue (skipGap following) with
          | .error fault => .error fault
          | .ok ⟨value, behind, fewer⟩ =>
            match next : skipGap behind with
            | '}' :: left =>
              .ok ⟨.object (enter members key value), left, by
                have := skipGap_length_le after
                have := skipGap_length_le following
                have := skipGap_length_le behind
                simp only [separator, next, List.length_cons] at *; omega⟩
            | ',' :: left =>
              match readMembers (enter members key value) (skipGap left) with
              | .error fault => .error fault
              | .ok ⟨whole, final, least⟩ =>
                .ok ⟨whole, final, by
                  have := skipGap_length_le after
                  have := skipGap_length_le following
                  have := skipGap_length_le behind
                  have := skipGap_length_le left
                  simp only [separator, next, List.length_cons] at *; omega⟩
            | left => fail .commaExpected left
        | left => fail .colonExpected left
    else
      fail .keyExpected (c :: rest)
termination_by 2 * source.length + 1
decreasing_by
  · have := skipGap_length_le after
    have := skipGap_length_le following
    simp only [separator, List.length_cons] at *
    omega
  · have := skipGap_length_le after
    have := skipGap_length_le following
    have := skipGap_length_le behind
    have := skipGap_length_le left
    simp only [separator, next, List.length_cons] at *
    omega

end

/-- Reads one value with white space around it and nothing else. -/
def readDocument (source : List Char) : Except Fault Json :=
  if source.head? = some '\uFEFF' then
    fail .byteOrderMark source
  else
    match readValue (skipGap source) with
    | .error fault => .error fault
    | .ok ⟨value, after, _⟩ =>
      match skipGap after with
      | [] => .ok value
      | left => fail .extraData left

/-- Reads a JSON text. -/
def parse (text : String) : Except SyntaxError Json :=
  match readDocument text.toList with
  | .ok value => .ok value
  | .error fault => .error (SyntaxError.at fault.problem text.toList fault.remaining)

end DirectoryQuery.Json
