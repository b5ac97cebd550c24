/-
Module: DirectoryQuery.Text.Similarity
Purpose: Which of several names resemble a misspelt one.
Main exports:
  Block, longestBlock, matchedCount, closeMatches, suggestions
-/
import DirectoryQuery.Text.LetterCase

namespace DirectoryQuery.Text

namespace Similarity

/-!
Two texts are compared by the blocks that they share: the longest common block, then the longest
ones to its left and to its right, and so on.  Their similarity is twice the number of characters in
those blocks over the number of characters in both texts.

In a sought text of two hundred characters or more, a character that makes up more than about one
per cent of it cannot start a block; it can only extend one.
-/

/-- A character of the sought text, and whether a block may be grown from it. -/
abbrev Mark := Char × Bool

/-- Marks the characters that are too frequent in a long text to grow a block from. -/
def marks (sought : List Char) : List Mark :=
  sought.map fun c => (c, sought.length < 200 || sought.count c ≤ sought.length / 100 + 1)

/-- A block: where it starts in the two texts, and its length. -/
structure Block where
  left : Nat
  right : Nat
  size : Nat
deriving Repr, DecidableEq

/-- The number of equal characters at the start of two texts, up to one that cannot grow a block. -/
def grownRun : List Char → List Mark → Nat
  | a :: text, (b, grows) :: sought => if a = b ∧ grows then grownRun text sought + 1 else 0
  | _, _ => 0

/-- The number of equal characters at the start of two texts. -/
def equalRun : List Char → List Mark → Nat
  | a :: text, (b, _) :: sought => if a = b then equalRun text sought + 1 else 0
  | _, _ => 0

/-- The better of `best` and the blocks that start at `left` in the text and anywhere in the sought
text.  Of two equally long blocks the earlier one stays. -/
def bestFrom (text : List Char) (left : Nat) : (right : Nat) → Block → List Mark → Block
  | _, best, [] => best
  | right, best, mark :: sought =>
    let size := grownRun text (mark :: sought)
    bestFrom text left (right + 1) (if best.size < size then ⟨left, right, size⟩ else best) sought

/-- The better of `best` and the blocks that start anywhere in the text. -/
def bestBlock (sought : List Mark) : (left : Nat) → Block → List Char → Block
  | _, best, [] => best
  | left, best, c :: text =>
    bestBlock sought (left + 1) (bestFrom (c :: text) left 0 best sought) text

/-- The longest common block, the earliest of several, extended over equal neighbours. -/
def longestBlock (text : List Char) (sought : List Mark) : Block :=
  let grown := bestBlock sought 0 ⟨0, 0, 0⟩ text
  let before := equalRun (text.take grown.left).reverse (sought.take grown.right).reverse
  let after :=
    equalRun (text.drop (grown.left + grown.size)) (sought.drop (grown.right + grown.size))
  ⟨grown.left - before, grown.right - before, before + grown.size + after⟩

theorem grownRun_le (text : List Char) (sought : List Mark) :
    grownRun text sought ≤ text.length := by
  fun_induction grownRun text sought with
  | case1 _ _ _ _ _ _ ih => exact Nat.succ_le_succ ih
  | case2 => exact Nat.zero_le _
  | case3 => exact Nat.zero_le _

theorem equalRun_le (text : List Char) (sought : List Mark) :
    equalRun text sought ≤ text.length := by
  fun_induction equalRun text sought with
  | case1 _ _ _ _ ih => exact Nat.succ_le_succ ih
  | case2 => exact Nat.zero_le _
  | case3 => exact Nat.zero_le _

theorem bestFrom_fits {limit left : Nat} {text : List Char} (fits : left + text.length ≤ limit)
    (right : Nat) (best : Block) (sought : List Mark) (start : best.left + best.size ≤ limit) :
    (bestFrom text left right best sought).left + (bestFrom text left right best sought).size
      ≤ limit := by
  induction sought generalizing right best with
  | nil => exact start
  | cons mark sought ih =>
    unfold bestFrom
    apply ih
    have bound := grownRun_le text (mark :: sought)
    split
    · simp only; omega
    · exact start

theorem bestBlock_fits {limit : Nat} (sought : List Mark) (left : Nat) (best : Block)
    (text : List Char) (fits : left + text.length ≤ limit)
    (start : best.left + best.size ≤ limit) :
    (bestBlock sought left best text).left + (bestBlock sought left best text).size ≤ limit := by
  induction text generalizing left best with
  | nil => exact start
  | cons c text ih =>
    unfold bestBlock
    apply ih
    · simp only [List.length_cons] at fits; omega
    · exact bestFrom_fits fits 0 best sought start

/-- The longest block lies within the text. -/
theorem longestBlock_fits (text : List Char) (sought : List Mark) :
    (longestBlock text sought).left + (longestBlock text sought).size ≤ text.length := by
  have grown : (bestBlock sought 0 ⟨0, 0, 0⟩ text).left + (bestBlock sought 0 ⟨0, 0, 0⟩ text).size
      ≤ text.length := bestBlock_fits sought 0 ⟨0, 0, 0⟩ text (by simp) (by simp)
  have before := equalRun_le
    (text.take (bestBlock sought 0 ⟨0, 0, 0⟩ text).left).reverse
    (sought.take (bestBlock sought 0 ⟨0, 0, 0⟩ text).right).reverse
  have after := equalRun_le
    (text.drop
      ((bestBlock sought 0 ⟨0, 0, 0⟩ text).left + (bestBlock sought 0 ⟨0, 0, 0⟩ text).size))
    (sought.drop
      ((bestBlock sought 0 ⟨0, 0, 0⟩ text).right + (bestBlock sought 0 ⟨0, 0, 0⟩ text).size))
  simp only [List.length_reverse, List.length_take, List.length_drop] at before after
  simp only [longestBlock]
  omega

/-- The number of characters in the blocks that the two texts share. -/
def matchedCount (text : List Char) (sought : List Mark) : Nat :=
  match _found : longestBlock text sought with
  | ⟨left, right, size⟩ =>
    if size = 0 then
      0
    else
      size + matchedCount (text.take left) (sought.take right)
        + matchedCount (text.drop (left + size)) (sought.drop (right + size))
termination_by text.length
decreasing_by
  all_goals
    have fits := longestBlock_fits text sought
    simp only [_found] at fits
    simp only [List.length_take, List.length_drop]
    omega

/-- A name, the number of characters that it shares with the sought text, and the number of
characters in both. -/
structure Score where
  name : String
  shared : Nat
  total : Nat
deriving Repr, DecidableEq

/-- The score of a name. -/
def score (sought : String) (name : String) : Score where
  name := name
  shared := matchedCount name.toList (marks sought.toList)
  total := name.length + sought.length

/-- Close names have a similarity of at least six tenths. -/
def Score.isClose (s : Score) : Bool := 3 * s.total ≤ 10 * s.shared

/-- Higher similarity first; of two equal ones the later name in the order of code points. -/
def Score.before (s t : Score) : Bool :=
  t.shared * s.total < s.shared * t.total ||
    (t.shared * s.total == s.shared * t.total && t.name ≤ s.name)

/-- The three names closest to the sought text, the closest first. -/
def closeMatches (sought : String) (names : List String) : List String :=
  (((names.map (score sought)).filter Score.isClose).mergeSort Score.before).take 3 |>.map
    Score.name

end Similarity

/-- The available names that resemble `fragment` when letter case is left out of account.  Of
several names that differ in case only, the last one stands for all. -/
def suggestions (fragment : String) (available : List String) : List String :=
  let lowered := (available.map lowercase).eraseDups
  (Similarity.closeMatches (lowercase fragment) lowered).filterMap fun key =>
    available.reverse.find? (lowercase · == key)

end DirectoryQuery.Text
