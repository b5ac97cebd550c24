/-
Module: DirectoryQuery.Text.Blank
Purpose: White space and its removal from the ends of a text.
Main exports:
  isBlank, isSpacing, isAsciiBlank, trimWhere, trim
-/
import DirectoryQuery.Text.CodePointSet

namespace DirectoryQuery.Text

/-!
Three notions of white space occur.  `isBlank` is the widest and decides what surrounds a name or
an object class; `isSpacing` is the white space property of Unicode, without the four information
separators; `isAsciiBlank` is the part of it that numerals in plain ASCII text may be padded with.
-/

/-- White space: spaces, line and paragraph breaks, tabs and the four information separators. -/
def blanks : CodePointSet := ⟨[
  (0x9, 0xD), (0x1C, 0x20), (0x85, 0x85), (0xA0, 0xA0), (0x1680, 0x1680), (0x2000, 0x200A),
  (0x2028, 0x2029), (0x202F, 0x202F), (0x205F, 0x205F), (0x3000, 0x3000)]⟩

/-- White space, the information separators included. -/
def isBlank (c : Char) : Bool := blanks.contains c

/-- White space, the information separators excluded. -/
def isSpacing (c : Char) : Bool := isBlank c && !(0x1C ≤ c.toNat && c.toNat ≤ 0x1F)

/-- The white space of ASCII: tab, the four line controls and the space. -/
def isAsciiBlank (c : Char) : Bool := c.toNat < 0x80 && isSpacing c

/-- Removes from both ends the characters that satisfy `outer`. -/
def trimWhere (outer : Char → Bool) (text : List Char) : List Char :=
  ((text.dropWhile outer).reverse.dropWhile outer).reverse

/-- Removes the white space at both ends. -/
def trim (text : List Char) : List Char := trimWhere isBlank text

/-- The text without the white space at both ends. -/
def trimmed (text : String) : String := String.ofList (trim text.toList)

/-- A text whose first and last characters are not blank is left alone. -/
theorem trim_eq_self_of_ends {text : List Char}
    (front : ∀ c, text.head? = some c → isBlank c = false)
    (back : ∀ c, text.getLast? = some c → isBlank c = false) : trim text = text := by
  unfold trim trimWhere
  have first : text.dropWhile isBlank = text := by
    cases text with
    | nil => rfl
    | cons c rest => simp [front c rfl]
  rw [first]
  have last : text.reverse.dropWhile isBlank = text.reverse := by
    cases reversed : text.reverse with
    | nil => rfl
    | cons c rest =>
      have ends : text.getLast? = some c := by
        rw [List.getLast?_eq_head?_reverse, reversed]; rfl
      simp [back c ends]
  rw [last, List.reverse_reverse]

variable {text : List Char} {c : Char}

theorem isBlank_of_head?_dropWhile (ends : (text.dropWhile isBlank).head? = some c) :
    isBlank c = false := by
  have visible := List.head?_dropWhile_not isBlank text
  rw [ends] at visible
  exact visible

/-- A trimmed text does not end in white space. -/
theorem isBlank_of_getLast?_trim (ends : (trim text).getLast? = some c) : isBlank c = false := by
  rw [trim, trimWhere, List.getLast?_reverse] at ends
  exact isBlank_of_head?_dropWhile ends

/-- A trimmed text does not begin with white space. -/
theorem isBlank_of_head?_trim (starts : (trim text).head? = some c) : isBlank c = false := by
  have front : trim text <+: text.dropWhile isBlank := by
    have back : (text.dropWhile isBlank).reverse.dropWhile isBlank <:+
        (text.dropWhile isBlank).reverse := List.dropWhile_suffix isBlank
    rw [← List.reverse_prefix, List.reverse_reverse] at back
    exact back
  obtain ⟨rest, whole⟩ := front
  obtain ⟨more, form⟩ := List.head?_eq_some_iff.1 starts
  have head : (text.dropWhile isBlank).head? = some c := by
    rw [← whole, form]
    rfl
  exact isBlank_of_head?_dropWhile head

/-- Trimming leaves just those texts alone that white space does not surround. -/
theorem trim_eq_self_iff :
    trim text = text ↔
      (∀ c ∈ text.head?, isBlank c = false) ∧ ∀ c ∈ text.getLast?, isBlank c = false := by
  constructor
  · intro same
    rw [← same]
    exact ⟨fun _ => isBlank_of_head?_trim, fun _ => isBlank_of_getLast?_trim⟩
  · rintro ⟨front, back⟩
    exact trim_eq_self_of_ends front back

theorem trim_trim (text : List Char) : trim (trim text) = trim text :=
  trim_eq_self_iff.2 ⟨fun _ => isBlank_of_head?_trim, fun _ => isBlank_of_getLast?_trim⟩

theorem mem_dropWhile_isBlank (found : c ∈ text) (visible : isBlank c = false) :
    c ∈ text.dropWhile isBlank := by
  induction text with
  | nil => cases found
  | cons d rest ih =>
    rw [List.dropWhile_cons]
    split
    · next blank =>
      rcases List.mem_cons.1 found with rfl | later
      · rw [blank] at visible
        cases visible
      · exact ih later
    · exact found

/-- What is not white space is not removed, wherever it stands. -/
theorem mem_trim (found : c ∈ text) (visible : isBlank c = false) : c ∈ trim text := by
  rw [trim, trimWhere, List.mem_reverse]
  apply mem_dropWhile_isBlank _ visible
  rw [List.mem_reverse]
  exact mem_dropWhile_isBlank found visible

end DirectoryQuery.Text
