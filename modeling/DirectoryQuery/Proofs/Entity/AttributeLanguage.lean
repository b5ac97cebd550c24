/-
Module: DirectoryQuery.Proofs.Entity.AttributeLanguage
Purpose: Attribute names as a formal language.  The check of a name cuts it at its semicolons and
  points; what it accepts is just what a regular expression over classes of characters describes.
Main exports:
  Text.oneOf, Text.oneOrMore, attributeNames, mem_attributeNames_iff, isAttributeName_iff_mem
-/
import DirectoryQuery.Proofs.Entity.AttributeName
import Mathlib.Computability.Language

namespace DirectoryQuery

open Text Computability

namespace Text

/-! ### Languages of characters -/

/-- The words of one character that passes a test. -/
def oneOf (test : Char → Bool) : Language Char := {word | ∃ c, test c = true ∧ word = [c]}

/-- The words that consist of one or more words of a language. -/
def oneOrMore (language : Language Char) : Language Char := language * language∗

variable {separator : Char} {test : Char → Bool} {language : Language Char} {word : List Char}

theorem mem_oneOf_mul :
    word ∈ oneOf test * language ↔ ∃ c rest, test c = true ∧ rest ∈ language ∧ word = c :: rest := by
  rw [Language.mem_mul]
  constructor
  · rintro ⟨_, ⟨c, passed, rfl⟩, rest, found, rfl⟩
    exact ⟨c, rest, passed, found, rfl⟩
  · rintro ⟨c, rest, passed, found, rfl⟩
    exact ⟨[c], ⟨c, passed, rfl⟩, rest, found, rfl⟩

/-- Repeating a class of characters gives the words all of whose characters are in the class. -/
theorem mem_kstar_oneOf : word ∈ (oneOf test)∗ ↔ ∀ c ∈ word, test c = true := by
  rw [Language.mem_kstar]
  constructor
  · rintro ⟨parts, rfl, each⟩ c found
    obtain ⟨part, listed, found⟩ := List.mem_flatten.1 found
    obtain ⟨d, passed, rfl⟩ := each part listed
    exact List.mem_singleton.1 found ▸ passed
  · intro each
    refine ⟨word.map ([·]), by rw [← List.flatMap_def, List.flatMap_singleton'], ?_⟩
    intro part listed
    obtain ⟨c, found, rfl⟩ := List.mem_map.1 listed
    exact ⟨c, each c found, rfl⟩

theorem mem_oneOrMore_oneOf :
    word ∈ oneOrMore (oneOf test) ↔ word ≠ [] ∧ ∀ c ∈ word, test c = true := by
  rw [oneOrMore, mem_oneOf_mul]
  constructor
  · rintro ⟨c, rest, passed, found, rfl⟩
    refine ⟨List.cons_ne_nil _ _, List.forall_mem_cons.2 ⟨passed, mem_kstar_oneOf.1 found⟩⟩
  · rintro ⟨nonempty, each⟩
    obtain ⟨c, rest, rfl⟩ := List.exists_cons_of_ne_nil nonempty
    obtain ⟨passed, later⟩ := List.forall_mem_cons.1 each
    exact ⟨c, rest, passed, mem_kstar_oneOf.2 later, rfl⟩

/-- Repeating a language behind a separator gives parts in the language, each behind a separator. -/
theorem mem_kstar_preceded :
    word ∈ (oneOf (· == separator) * language)∗ ↔
      ∃ parts : List (List Char), (∀ part ∈ parts, part ∈ language) ∧
        word = parts.flatMap (separator :: ·) := by
  rw [Language.mem_kstar]
  constructor
  · rintro ⟨pieces, rfl, each⟩
    induction pieces with
    | nil => exact ⟨[], by simp, rfl⟩
    | cons piece pieces ih =>
        obtain ⟨head, tail⟩ := List.forall_mem_cons.1 each
        obtain ⟨c, part, same, found, rfl⟩ := mem_oneOf_mul.1 head
        obtain ⟨parts, all, joined⟩ := ih tail
        refine ⟨part :: parts, List.forall_mem_cons.2 ⟨found, all⟩, ?_⟩
        rw [List.flatten_cons, joined, List.flatMap_cons, beq_iff_eq.1 same]
  · rintro ⟨parts, all, rfl⟩
    refine ⟨parts.map (separator :: ·), (List.flatMap_def ..), ?_⟩
    intro piece listed
    obtain ⟨part, found, rfl⟩ := List.mem_map.1 listed
    exact mem_oneOf_mul.2 ⟨separator, part, beq_self_eq_true _, all part found, rfl⟩

theorem mem_oneOrMore_preceded :
    word ∈ oneOrMore (oneOf (· == separator) * language) ↔
      ∃ parts : List (List Char), parts ≠ [] ∧ (∀ part ∈ parts, part ∈ language) ∧
        word = parts.flatMap (separator :: ·) := by
  rw [oneOrMore, mul_assoc, mem_oneOf_mul]
  constructor
  · rintro ⟨c, _, same, rest, rfl⟩
    obtain ⟨part, found, _, later, rfl⟩ := Language.mem_mul.1 rest
    obtain ⟨parts, each, rfl⟩ := mem_kstar_preceded.1 later
    refine ⟨part :: parts, List.cons_ne_nil _ _, List.forall_mem_cons.2 ⟨found, each⟩, ?_⟩
    rw [beq_iff_eq.1 same, List.flatMap_cons, List.cons_append]
  · rintro ⟨parts, several, each, rfl⟩
    obtain ⟨part, parts, rfl⟩ := List.exists_cons_of_ne_nil several
    obtain ⟨found, later⟩ := List.forall_mem_cons.1 each
    refine ⟨separator, _, beq_self_eq_true _, ?_, rfl⟩
    exact Language.append_mem_mul found (mem_kstar_preceded.2 ⟨parts, later, rfl⟩)

/-- A text is split into parts of a kind just if it can be put together from such parts, which must
not hold the separator. -/
theorem exists_split_iff (text : List Char) (head : List Char → Prop)
    (tail : List (List Char) → Prop) (headApart : ∀ part, head part → separator ∉ part)
    (tailApart : ∀ parts, tail parts → ∀ part ∈ parts, separator ∉ part) :
    (head (split separator text).1 ∧ tail (split separator text).2) ↔
      ∃ first others, head first ∧ tail others ∧
        text = first ++ others.flatMap (separator :: ·) := by
  constructor
  · rintro ⟨first, others⟩
    refine ⟨_, _, first, others, ?_⟩
    rw [← joinWith_eq_append, joinWith_split]
  · rintro ⟨first, others, found, rest, joined⟩
    have cut : split separator text = (first, others) := by
      refine split_eq_iff.2 ⟨?_, headApart first found, tailApart others rest⟩
      rw [joined, joinWith_eq_append]
    rw [cut]
    exact ⟨found, rest⟩

/-- A word of a language, followed by words of another one behind separators, is found by splitting at
the separator, which must not occur in these words. -/
theorem mem_mul_kstar_preceded_iff {front : Language Char}
    (frontApart : ∀ word ∈ front, separator ∉ word)
    (apart : ∀ word ∈ language, separator ∉ word) :
    word ∈ front * (oneOf (· == separator) * language)∗ ↔
      (split separator word).1 ∈ front ∧ ∀ part ∈ (split separator word).2, part ∈ language := by
  have cut := exists_split_iff word (· ∈ front) (fun parts => ∀ part ∈ parts, part ∈ language)
    frontApart (fun _ parts part listed => apart part (parts part listed))
  rw [cut, Language.mem_mul]
  simp only [mem_kstar_preceded]
  constructor
  · rintro ⟨first, head, _, ⟨others, each, rfl⟩, joined⟩
    exact ⟨first, others, head, each, joined.symm⟩
  · rintro ⟨first, others, head, each, joined⟩
    exact ⟨first, head, _, ⟨others, each, rfl⟩, joined.symm⟩

/-- Two or more words of a language with separators between them are found by splitting. -/
theorem mem_mul_oneOrMore_preceded_iff (apart : ∀ word ∈ language, separator ∉ word) :
    word ∈ language * oneOrMore (oneOf (· == separator) * language) ↔
      (split separator word).1 ∈ language ∧ (split separator word).2 ≠ [] ∧
        ∀ part ∈ (split separator word).2, part ∈ language := by
  have cut := exists_split_iff word (· ∈ language)
    (fun parts => parts ≠ [] ∧ ∀ part ∈ parts, part ∈ language) apart
    (fun _ parts part listed => apart part (parts.2 part listed))
  rw [cut, Language.mem_mul]
  simp only [mem_oneOrMore_preceded]
  constructor
  · rintro ⟨first, head, _, ⟨others, several, each, rfl⟩, joined⟩
    exact ⟨first, others, head, ⟨several, each⟩, joined.symm⟩
  · rintro ⟨first, others, head, ⟨several, each⟩, joined⟩
    exact ⟨first, head, _, ⟨others, several, each, rfl⟩, joined.symm⟩

end Text

/-! ### Attribute names -/

/-- The short names: a letter, then letters, digits and hyphens. -/
def shortNames : Language Char := oneOf Char.isAlpha * (oneOf isKeywordChar)∗

/-- The object identifiers: decimal numbers of any script with points between them, at least two. -/
def objectIdentifiers : Language Char :=
  oneOrMore (oneOf isDecimalDigit) *
    oneOrMore (oneOf (· == '.') * oneOrMore (oneOf isDecimalDigit))

/-- The attribute names: a short name or an object identifier, and options behind semicolons. -/
def attributeNames : Language Char :=
  (shortNames + objectIdentifiers) * (oneOf (· == ';') * oneOrMore (oneOf isKeywordChar))∗

variable {type : List Char}

theorem isShortName_iff_mem : isShortName type = true ↔ type ∈ shortNames := by
  rw [shortNames, mem_oneOf_mul]
  cases type with
  | nil => simp [isShortName]
  | cons c rest => simp [isShortName, mem_kstar_oneOf]

theorem separator_notMem_of_mem {test : Char → Bool} {separator : Char} {part : List Char}
    (apart : test separator = false) (found : part ∈ oneOrMore (oneOf test)) :
    separator ∉ part := by
  intro listed
  have passed := (mem_oneOrMore_oneOf.1 found).2 separator listed
  rw [apart] at passed
  cases passed

/-- The numbers of an object identifier stand between its points. -/
theorem mem_objectIdentifiers_iff :
    type ∈ objectIdentifiers ↔
      (split '.' type).1 ∈ oneOrMore (oneOf isDecimalDigit) ∧ (split '.' type).2 ≠ [] ∧
        ∀ part ∈ (split '.' type).2, part ∈ oneOrMore (oneOf isDecimalDigit) :=
  mem_mul_oneOrMore_preceded_iff fun _ =>
    separator_notMem_of_mem (by decide : isDecimalDigit '.' = false)

theorem isObjectIdentifier_iff_mem : isObjectIdentifier type = true ↔ type ∈ objectIdentifiers := by
  rw [mem_objectIdentifiers_iff, and_left_comm, ← List.forall_mem_cons]
  simp [isObjectIdentifier, mem_oneOrMore_oneOf]

theorem semicolon_notMem_of_mem (found : type ∈ shortNames + objectIdentifiers) : ';' ∉ type := by
  intro listed
  rcases (Language.mem_add ..).1 found with short | identifier
  · have kept := (mem_shortName (isShortName_iff_mem.2 short)).2 _ listed
    exact absurd kept (by decide)
  · have kept := (mem_objectIdentifier (isObjectIdentifier_iff_mem.2 identifier)).2 _ listed
    exact absurd kept (by decide)

/-- The options of an attribute name stand behind its semicolons. -/
theorem mem_attributeNames_iff {text : List Char} :
    text ∈ attributeNames ↔
      (split ';' text).1 ∈ shortNames + objectIdentifiers ∧
        ∀ part ∈ (split ';' text).2, part ∈ oneOrMore (oneOf isKeywordChar) :=
  mem_mul_kstar_preceded_iff (fun _ => semicolon_notMem_of_mem) fun _ =>
    separator_notMem_of_mem (by decide)

/-- The check of an attribute name accepts just the words of the language. -/
theorem isAttributeName_iff_mem {name : String} :
    isAttributeName name = true ↔ name.toList ∈ attributeNames := by
  rw [mem_attributeNames_iff, Language.mem_add, ← isShortName_iff_mem,
    ← isObjectIdentifier_iff_mem]
  simp [isAttributeName, mem_oneOrMore_oneOf]

end DirectoryQuery
