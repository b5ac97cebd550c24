/-
Module: DirectoryQuery.Name.Separator
Purpose: Cutting the text of a distinguished name at its separators.
Main exports:
  Footing, marked, firstLive?, lastLive?, Joint, Piece, cut
-/

namespace DirectoryQuery.DistinguishedName

/-!
A character counts as a separator only if it is *live*: no backslash before it takes its meaning
away.  `Footing` tracks what the characters passed so far make of the next one.  The first character
of a text is never live, and a backslash in first place escapes one character but is not counted
among the backslashes that follow it.

A name is cut at commas and plus signs.  A live one counts if a live equals sign follows it with at
least one character between them; of several before that equals sign the last one counts.  A piece
without a live equals sign belongs to the piece before it.
-/

/-- What the characters passed so far make of the next one. -/
inductive Footing where
  /-- No character was passed. -/
  | start
  /-- A backslash in first place was passed. -/
  | opened
  /-- The next character is live. -/
  | free
  /-- A backslash takes the meaning of the next character away. -/
  | escaped
deriving Repr, DecidableEq

/-- The footing behind a character. -/
def Footing.step (footing : Footing) (c : Char) : Footing :=
  match footing with
  | .start => if c = '\\' then .opened else .free
  | .opened | .free => if c = '\\' then .escaped else .free
  | .escaped => .free

/-- Whether the next character is live. -/
def Footing.isFree : Footing → Bool
  | .free => true
  | _ => false

/-- The characters of a text, each with the flag whether it is live. -/
def markFrom (footing : Footing) : List Char → List (Char × Bool)
  | [] => []
  | c :: rest => (c, footing.isFree) :: markFrom (footing.step c) rest

/-- The characters of a whole text, each with the flag whether it is live. -/
def marked (text : List Char) : List (Char × Bool) := markFrom .start text

/-- The position of the first live `wanted` from a position on. -/
def firstLive? (wanted : Char) (start : Nat) (marks : List (Char × Bool)) : Option Nat :=
  ((marks.drop start).findIdx? (· == (wanted, true))).map (start + ·)

/-- The position of the last live `wanted` from `start` on and before `stop`. -/
def lastLive? (wanted : Char) (start stop : Nat) (marks : List (Char × Bool)) : Option Nat :=
  let span := (marks.take stop).drop start
  (span.reverse.findIdx? (· == (wanted, true))).map (start + span.length - 1 - ·)

/-- How a piece is joined to the one after it. -/
inductive Joint where
  | comma
  | plus
  | none
deriving Repr, DecidableEq

/-- The text of a joint. -/
def Joint.text : Joint → List Char
  | .comma => [',']
  | .plus => ['+']
  | .none => []

/-- A part of the text of a name, and how the next part is joined to it. -/
structure Piece where
  text : List Char
  joint : Joint
deriving Repr, DecidableEq

/-- The end of the first piece, given a live separator: the last such separator before the next live
equals sign, if there is one that does not follow the separator at once. -/
def pieceEnd? (separator : Char) (found : Nat) (marks : List (Char × Bool)) : Option Nat :=
  match firstLive? '=' (found + 1) marks with
  | some equal => if found + 1 < equal then lastLive? separator found equal marks else none
  | none => none

/-- The length of the first piece of a text and how the next one is joined to it.  A plus sign is
tried if no comma stands before it. -/
def firstPiece (text : List Char) : Nat × Joint :=
  let marks := marked text
  let comma := firstLive? ',' 0 marks
  let atPlus :=
    match firstLive? '+' 0 marks with
    | some plus => if comma.all (plus < ·) then pieceEnd? '+' plus marks else none
    | none => none
  match atPlus with
  | some length => (length, .plus)
  | none =>
    match comma.bind (pieceEnd? ',' · marks) with
    | some length => (length, .comma)
    | none => (text.length, .none)

/-- Adds a piece behind those cut so far, which are in reverse.  Without a live equals sign it
becomes part of the last one. -/
def attach (pieces : List Piece) (piece : Piece) : List Piece :=
  match pieces with
  | [] => [piece]
  | last :: earlier =>
    if (firstLive? '=' 0 (marked piece.text)).isSome then
      piece :: last :: earlier
    else
      ⟨last.text ++ last.joint.text ++ piece.text, piece.joint⟩ :: earlier

/-- Cuts a text into pieces behind those cut so far, which are in reverse. -/
def cutAfter (pieces : List Piece) (text : List Char) : List Piece :=
  match text with
  | [] => pieces.reverse
  | c :: rest =>
    let (length, joint) := firstPiece (c :: rest)
    cutAfter (attach pieces ⟨(c :: rest).take length, joint⟩) (rest.drop length)
termination_by text.length
decreasing_by simp only [List.length_drop, List.length_cons]; omega

/-- The pieces of the text of a name. -/
def cut (text : List Char) : List Piece := cutAfter [] text

end DirectoryQuery.DistinguishedName
