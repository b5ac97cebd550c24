/-
Module: DirectoryQuery.Proofs.Filter.Notation
Purpose: A reader of the text notation of search filters that knows nothing about how filters are
  written here, and the proof that it understands every written filter as what it was written for.
  The reader is strict: it takes no value with an unescaped parenthesis, backslash or null
  character, no empty piece between two wildcards, and no composite without branches.
Main exports:
  utf8, Assertion.content, DirectoryFilter, DirectoryFilter.read, DirectoryFilter.ofText?,
  Filter.understood, Filter.Readable, read_written
-/
import DirectoryQuery.Filter.Basic
import DirectoryQuery.Json.Reader

namespace DirectoryQuery

open Text

/-- The octets of a text. -/
def utf8 (text : List Char) : List UInt8 := text.flatMap String.utf8EncodeChar

theorem utf8_cons (c : Char) (text : List Char) :
    utf8 (c :: text) = String.utf8EncodeChar c ++ utf8 text := rfl

theorem utf8_eq_nil_iff {text : List Char} : utf8 text = [] ↔ text = [] := by
  constructor
  · intro empty
    cases text with
    | nil => rfl
    | cons c text =>
        rw [utf8_cons, List.append_eq_nil_iff] at empty
        exact absurd empty.1 String.utf8EncodeChar_ne_nil
  · rintro rfl
    rfl

theorem utf8_append (front back : List Char) : utf8 (front ++ back) = utf8 front ++ utf8 back :=
  List.flatMap_append

theorem prefix_of_utf8_eq {piece text : List Char} {rest : List UInt8}
    (whole : utf8 text = utf8 piece ++ rest) : ∃ after, text = piece ++ after := by
  have front : piece <+: text := by
    apply List.isPrefix_of_utf8Encode_append_eq_utf8Encode rest.toByteArray
    have bytes := congrArg List.toByteArray whole.symm
    rwa [List.toByteArray_append] at bytes
  obtain ⟨after, same⟩ := front
  exact ⟨after, same.symm⟩

theorem utf8_injective : Function.Injective utf8 := by
  intro text other same
  have whole : utf8 text = utf8 other ++ [] := by simpa using same
  obtain ⟨after, rfl⟩ := prefix_of_utf8_eq whole
  have empty : utf8 after = [] := by simpa [utf8_append] using same
  rw [utf8_eq_nil_iff.1 empty, List.append_nil]

/-- The octets that an assertion value stands for. -/
def Assertion.content : Assertion → List UInt8
  | .text characters => utf8 characters
  | .octets content => content

/-- A search filter as a directory understands it.  Values are octets, and the tests for equality,
for presence and for parts of a value are kept apart. -/
inductive DirectoryFilter where
  | equality (attributeName : String) (value : List UInt8)
  | atMost (attributeName : String) (value : List UInt8)
  | atLeast (attributeName : String) (value : List UInt8)
  | present (attributeName : String)
  /-- A value that starts with `first`, ends with `last` and has the `inner` parts in between, in
  their order; an empty `first` or `last` leaves that end open. -/
  | substrings (attributeName : String) (first : List UInt8) (inner : List (List UInt8))
      (last : List UInt8)
  | negation (operand : DirectoryFilter)
  | composite (kind : Connective) (branches : List DirectoryFilter)
deriving Repr, Inhabited

namespace DirectoryFilter

/-! ### Reading values -/

/-- The octets of a value between its wildcards. -/
structure Pieces where
  first : List UInt8
  others : List (List UInt8)
deriving Repr, DecidableEq

namespace Pieces

/-- Pieces with octets in front of the first of them. -/
def preceded (octets : List UInt8) (pieces : Pieces) : Pieces :=
  { pieces with first := octets ++ pieces.first }

/-- Pieces with a wildcard in front of all of them. -/
def opened (pieces : Pieces) : Pieces := ⟨[], pieces.first :: pieces.others⟩

theorem preceded_preceded (front octets : List UInt8) (pieces : Pieces) :
    (pieces.preceded octets).preceded front = pieces.preceded (front ++ octets) := by
  simp [preceded]

end Pieces

/-- The octet that two hexadecimal digits write. -/
def octet? (high low : Char) : Option UInt8 :=
  match Json.hexValue? high, Json.hexValue? low with
  | some high, some low => some (UInt8.ofNat (high * 16 + low))
  | _, _ => none

/-- The characters that stand in a value only as escaped octets.  The wildcard is not among them. -/
def isForbidden (c : Char) : Bool := c == '\\' || c == '(' || c == ')' || c == '\x00'

/-- Reads a value.  A backslash and two hexadecimal digits are one octet, a wildcard ends a piece,
and any other character that is allowed stands for its own octets. -/
def readPieces : List Char → Option Pieces
  | [] => some ⟨[], []⟩
  | '*' :: rest => (readPieces rest).map Pieces.opened
  | '\\' :: high :: low :: rest =>
    match octet? high low with
    | some octet => (readPieces rest).map (Pieces.preceded [octet])
    | none => none
  | c :: rest =>
    if isForbidden c then none
    else (readPieces rest).map (Pieces.preceded (String.utf8EncodeChar c))

/-! ### Reading tests -/

/-- The sign between attribute and value. -/
inductive Sign where
  | equal
  | atMost
  | atLeast
deriving Repr, DecidableEq

/-- A test cut at its first sign. -/
structure TestParts where
  attributeName : List Char
  sign : Sign
  value : List Char
deriving Repr, DecidableEq

/-- Cuts a test at its first sign; the attribute is what precedes it. -/
def splitTest : List Char → Option TestParts
  | [] => none
  | '=' :: value => some ⟨[], .equal, value⟩
  | '<' :: '=' :: value => some ⟨[], .atMost, value⟩
  | '>' :: '=' :: value => some ⟨[], .atLeast, value⟩
  | c :: rest =>
    (splitTest rest).map fun parts => { parts with attributeName := c :: parts.attributeName }

/-- The test for a value made of pieces: for equality with a single one, for presence if there is
nothing but a wildcard, and for the parts of a value otherwise. -/
def ofPieces (attributeName : String) (first : List UInt8) (others : List (List UInt8)) :
    DirectoryFilter :=
  match others.getLast? with
  | none => .equality attributeName first
  | some last =>
    if first = [] ∧ others.dropLast = [] ∧ last = [] then .present attributeName
    else .substrings attributeName first others.dropLast last

theorem ofPieces_concat (attributeName : String) {first last : List UInt8}
    {inner : List (List UInt8)} (something : ¬(first = [] ∧ inner = [] ∧ last = [])) :
    ofPieces attributeName first (inner ++ [last]) =
      .substrings attributeName first inner last := by
  rw [ofPieces, List.getLast?_concat, List.dropLast_concat]
  exact if_neg something

/-- The test that an attribute, a sign and the pieces of a value make up. -/
def ofParts? (attributeName : String) (sign : Sign) (pieces : Pieces) : Option DirectoryFilter :=
  match sign, pieces.others with
  | .equal, others =>
    if [] ∈ others.dropLast then none else some (ofPieces attributeName pieces.first others)
  | .atMost, [] => some (.atMost attributeName pieces.first)
  | .atLeast, [] => some (.atLeast attributeName pieces.first)
  | _, _ => none

/-- Reads a test without its parentheses. -/
def readTest (text : List Char) : Option DirectoryFilter := do
  let parts ← splitTest text
  if parts.attributeName = [] then none
  else
    let pieces ← readPieces parts.value
    ofParts? (String.ofList parts.attributeName) parts.sign pieces

/-! ### Reading filters -/

mutual

/-- Reads a filter from the front of a text, and returns what follows it. -/
def read (text : List Char) : Option (DirectoryFilter × List Char) :=
  match text with
  | '(' :: '!' :: rest =>
    match read rest with
    | some (operand, ')' :: after) => some (.negation operand, after)
    | _ => none
  | '(' :: '&' :: rest => readComposite .conjunction rest
  | '(' :: '|' :: rest => readComposite .disjunction rest
  | '(' :: rest =>
    match rest.dropWhile (· != ')') with
    | _ :: after => (readTest (rest.takeWhile (· != ')'))).map fun test => (test, after)
    | [] => none
  | _ => none
termination_by (text.length, 0)

/-- Reads the branches of a composite, of which there is at least one. -/
def readComposite (kind : Connective) (text : List Char) :
    Option (DirectoryFilter × List Char) :=
  match readBranches text with
  | some (first :: others, after) => some (.composite kind (first :: others), after)
  | _ => none
termination_by (text.length, 2)

/-- Reads filters up to a closing parenthesis.  A filter is never empty, so that the test for a
shorter rest never fails. -/
def readBranches (text : List Char) : Option (List DirectoryFilter × List Char) :=
  match text with
  | ')' :: after => some ([], after)
  | text =>
    match read text with
    | some (branch, rest) =>
      if rest.length < text.length then
        (readBranches rest).map fun (others, after) => (branch :: others, after)
      else
        none
    | none => none
termination_by (text.length, 1)

end

/-- The filter that a whole text is. -/
def ofText? (text : String) : Option DirectoryFilter :=
  match read text.toList with
  | some (filter, []) => some filter
  | _ => none

/-! ### Written values -/

theorem readPieces_plain {c : Char} (rest : List Char) (noWildcard : c ≠ '*')
    (allowed : isForbidden c = false) :
    readPieces (c :: rest) =
      (readPieces rest).map (Pieces.preceded (String.utf8EncodeChar c)) := by
  have noBackslash : c ≠ '\\' := by
    rintro rfl
    cases allowed
  rw [readPieces]
  · simp [allowed]
  · exact noWildcard
  · intro high low more same
    exact absurd same noBackslash

theorem hexValue?_hexDigit :
    ∀ digit < 16, Json.hexValue? (Quoted.hexDigit digit) = some digit := by
  decide

theorem octet?_hexDigits {octet : Nat} (small : octet < 256) :
    octet? (Quoted.hexDigit (octet / 16)) (Quoted.hexDigit (octet % 16)) =
      some (UInt8.ofNat octet) := by
  have high : Json.hexValue? (Quoted.hexDigit (octet / 16)) = some (octet / 16) :=
    hexValue?_hexDigit _ (by omega)
  have low : Json.hexValue? (Quoted.hexDigit (octet % 16)) = some (octet % 16) :=
    hexValue?_hexDigit _ (by omega)
  have whole : octet / 16 * 16 + octet % 16 = octet := by omega
  simp only [octet?, high, low, whole]

theorem readPieces_escapedOctet {octet : Nat} (small : octet < 256) (rest : List Char) :
    readPieces (escapedOctet octet ++ rest) =
      (readPieces rest).map (Pieces.preceded [UInt8.ofNat octet]) := by
  simp only [escapedOctet, List.cons_append, List.nil_append, readPieces, octet?_hexDigits small]

/-- The characters that are special in a filter have a single octet each. -/
theorem utf8EncodeChar_special {c : Char} (special : isFilterSpecial c = true) :
    c.toNat < 256 ∧ String.utf8EncodeChar c = [UInt8.ofNat c.toNat] := by
  simp only [isFilterSpecial, Bool.or_eq_true, beq_iff_eq] at special
  rcases special with (((rfl | rfl) | rfl) | rfl) | rfl <;> decide

theorem isForbidden_of_not_special {c : Char} (ordinary : isFilterSpecial c = false) :
    c ≠ '*' ∧ isForbidden c = false := by
  simp only [isFilterSpecial, Bool.or_eq_false_iff, beq_eq_false_iff_ne] at ordinary
  obtain ⟨⟨⟨⟨backslash, asterisk⟩, opening⟩, closing⟩, null⟩ := ordinary
  refine ⟨asterisk, ?_⟩
  simp only [isForbidden, Bool.or_eq_false_iff, beq_eq_false_iff_ne]
  exact ⟨⟨⟨backslash, opening⟩, closing⟩, null⟩

theorem map_preceded_preceded (front octets : List UInt8) (pieces : Option Pieces) :
    (pieces.map (Pieces.preceded octets)).map (Pieces.preceded front) =
      pieces.map (Pieces.preceded (front ++ octets)) := by
  simp [Option.map_map, Function.comp_def, Pieces.preceded_preceded]

theorem map_preceded_nil (pieces : Option Pieces) : pieces.map (Pieces.preceded []) = pieces := by
  cases pieces <;> rfl

theorem escaped_cons (c : Char) (text : List Char) :
    escaped (c :: text) =
      (if isFilterSpecial c then escapedOctet c.toNat else [c]) ++ escaped text := rfl

/-- An escaped text is read as its octets. -/
theorem readPieces_escaped (text rest : List Char) :
    readPieces (escaped text ++ rest) = (readPieces rest).map (Pieces.preceded (utf8 text)) := by
  induction text with
  | nil => exact (map_preceded_nil _).symm
  | cons c text ih =>
      rw [escaped_cons, utf8_cons, List.append_assoc, ← map_preceded_preceded, ← ih]
      split
      · next special =>
          obtain ⟨small, octets⟩ := utf8EncodeChar_special special
          rw [readPieces_escapedOctet small, octets]
      · next ordinary =>
          obtain ⟨noWildcard, allowed⟩ := isForbidden_of_not_special (by simpa using ordinary)
          exact readPieces_plain _ noWildcard allowed

/-- Escaped octets are read as these octets. -/
theorem readPieces_escapedOctets (content : List UInt8) (rest : List Char) :
    readPieces ((content.flatMap fun octet => escapedOctet octet.toNat) ++ rest) =
      (readPieces rest).map (Pieces.preceded content) := by
  induction content with
  | nil => exact (map_preceded_nil _).symm
  | cons octet content ih =>
      have whole : Pieces.preceded (octet :: content) = Pieces.preceded ([octet] ++ content) := rfl
      rw [List.flatMap_cons, List.append_assoc, whole, ← map_preceded_preceded, ← ih,
        readPieces_escapedOctet octet.toNat_lt, UInt8.ofNat_toNat]

/-- A written value is read as its octets. -/
theorem readPieces_written (assertion : Assertion) (rest : List Char) :
    readPieces (assertion.written ++ rest) =
      (readPieces rest).map (Pieces.preceded assertion.content) := by
  cases assertion with
  | text characters => exact readPieces_escaped characters rest
  | octets content => exact readPieces_escapedOctets content rest

/-- Written values with wildcards between them are read as their octets, one piece each. -/
theorem readPieces_joinWith (first : Assertion) (others : List Assertion) :
    readPieces (joinWith wildcard first.written (others.map Assertion.written)) =
      some ⟨first.content, others.map Assertion.content⟩ := by
  induction others generalizing first with
  | nil =>
      have whole := readPieces_written first []
      rw [List.append_nil] at whole
      simp [joinWith, whole, readPieces, Pieces.preceded]
  | cons next others ih =>
      rw [List.map_cons, joinWith, readPieces_written, wildcard, readPieces, ← wildcard, ih]
      simp [Pieces.preceded, Pieces.opened]

/-- What is read as a value holds no closing parenthesis. -/
theorem notMem_of_readPieces {text : List Char} {pieces : Pieces}
    (found : readPieces text = some pieces) : ')' ∉ text := by
  induction text using readPieces.induct generalizing pieces with
  | case1 => simp
  | case2 rest ih =>
      simp only [readPieces, Option.map_eq_some_iff] at found
      obtain ⟨inner, found, -⟩ := found
      simpa using ih found
  | case3 high low rest octet digits ih =>
      simp only [readPieces, digits, Option.map_eq_some_iff] at found
      obtain ⟨inner, found, -⟩ := found
      have noDigit : Json.hexValue? ')' = none := by decide
      have high' : high ≠ ')' := by
        rintro rfl
        simp [octet?, noDigit] at digits
      have low' : low ≠ ')' := by
        rintro rfl
        cases value : Json.hexValue? high <;> simp [octet?, noDigit, value] at digits
      simp [ih found, high'.symm, low'.symm]
  | case4 high low rest digits =>
      simp [readPieces, digits] at found
  | case5 c rest noWildcard noEscape forbidden =>
      rw [readPieces] at found
      · simp [forbidden] at found
      · exact noWildcard
      · exact noEscape
  | case6 c rest noWildcard noEscape allowed ih =>
      rw [readPieces] at found
      · rw [if_neg allowed, Option.map_eq_some_iff] at found
        obtain ⟨inner, found, -⟩ := found
        have ordinary : c ≠ ')' := by
          rintro rfl
          exact allowed rfl
        simp [ih found, ordinary.symm]
      · exact noWildcard
      · exact noEscape

/-! ### Written tests -/

/-- The characters that the notation gives a meaning outside values. -/
def structural : List Char := ['(', ')', '=', '<', '>', '!', '&', '|']

end DirectoryFilter

/-- A name that the notation of filters can tell from what surrounds it. -/
structure IsPlainName (name : String) : Prop where
  nonempty : name.toList ≠ []
  plain : ∀ c ∈ name.toList, c ∉ DirectoryFilter.structural

namespace DirectoryFilter

theorem splitTest_append {name : List Char} (plain : ∀ c ∈ name, c ∉ structural)
    (rest : List Char) :
    splitTest (name ++ rest) =
      (splitTest rest).map fun parts =>
        { parts with attributeName := name ++ parts.attributeName } := by
  induction name with
  | nil =>
      rw [List.nil_append]
      cases splitTest rest <;> rfl
  | cons c name ih =>
      have ordinary : c ∉ structural := plain c List.mem_cons_self
      simp only [structural, List.mem_cons, List.not_mem_nil, not_or] at ordinary
      obtain ⟨-, -, equal, less, greater, -⟩ := ordinary
      rw [List.cons_append, splitTest]
      · rw [ih fun d found => plain d (List.mem_cons_of_mem _ found), Option.map_map]
        rfl
      · exact equal
      · intro value same
        exact absurd same less
      · intro value same
        exact absurd same greater

/-- The characters of a sign. -/
def Sign.written : Sign → List Char
  | .equal => ['=']
  | .atMost => ['<', '=']
  | .atLeast => ['>', '=']

theorem splitTest_written {name : List Char} (plain : ∀ c ∈ name, c ∉ structural) (sign : Sign)
    (value : List Char) :
    splitTest (name ++ sign.written ++ value) = some ⟨name, sign, value⟩ := by
  rw [List.append_assoc, splitTest_append plain]
  cases sign <;> simp [Sign.written, splitTest]

/-- A test is read from its parts. -/
theorem readTest_written {name : String} (plain : IsPlainName name) (sign : Sign)
    {value : List Char} {pieces : Pieces} (readable : readPieces value = some pieces) :
    readTest (name.toList ++ sign.written ++ value) = ofParts? name sign pieces := by
  rw [readTest, splitTest_written plain.plain]
  simp [plain.nonempty, readable]

/-- No part of a test closes its parentheses. -/
theorem ne_closing_of_mem_test {name : String} (plain : IsPlainName name) (sign : Sign)
    {value : List Char} {pieces : Pieces} (readable : readPieces value = some pieces) :
    ∀ c ∈ name.toList ++ sign.written ++ value, (c != ')') = true := by
  intro c found
  rw [bne_iff_ne]
  rw [List.mem_append, List.mem_append] at found
  rcases found with (found | found) | found
  · rintro rfl
    exact plain.plain _ found (by decide)
  · rintro rfl
    cases sign <;> exact absurd found (by decide)
  · rintro rfl
    exact notMem_of_readPieces readable found

/-- A test in its parentheses is read from its parts, and what follows it is left. -/
theorem read_testWritten {name : String} (plain : IsPlainName name) (sign : Sign)
    {value : List Char} {pieces : Pieces} {test : DirectoryFilter}
    (readable : readPieces value = some pieces) (made : ofParts? name sign pieces = some test)
    (rest : List Char) :
    read (Filter.testWritten name sign.written value ++ rest) = some (test, rest) := by
  have unclosed := ne_closing_of_mem_test plain sign readable
  have shape : Filter.testWritten name sign.written value ++ rest =
      '(' :: (name.toList ++ sign.written ++ value ++ ')' :: rest) := by
    simp [Filter.testWritten]
  have front : (name.toList ++ sign.written ++ value ++ ')' :: rest).takeWhile (· != ')') =
      name.toList ++ sign.written ++ value := by
    rw [List.takeWhile_append_of_pos unclosed]
    simp
  have back : (name.toList ++ sign.written ++ value ++ ')' :: rest).dropWhile (· != ')') =
      ')' :: rest := by
    rw [List.dropWhile_append_of_pos unclosed]
    simp
  -- The first character of the name is none that starts another kind of filter.
  have headed : ∀ {c : Char} {tail : List Char},
      name.toList ++ sign.written ++ value ++ ')' :: rest = c :: tail → c ∉ structural := by
    intro c tail same
    obtain ⟨first, others, named⟩ := List.exists_cons_of_ne_nil plain.nonempty
    rw [named] at same
    injection same with same
    exact plain.plain c (by simp [named, same])
  rw [shape, read]
  · rw [back, front, readTest_written plain sign readable, made]
    rfl
  · exact fun tail same => headed same (by decide)
  · exact fun tail same => headed same (by decide)
  · exact fun tail same => headed same (by decide)

end DirectoryFilter

/-! ### Written filters -/

namespace Filter

mutual

/-- A filter as a directory is to understand it. -/
def understood : Filter → DirectoryFilter
  | .matching attributeName first others =>
    .ofPieces attributeName first.content (others.map Assertion.content)
  | .atMost attributeName value => .atMost attributeName value.content
  | .atLeast attributeName value => .atLeast attributeName value.content
  | .negation operand => .negation (understood operand)
  | .composite kind branches => .composite kind (understoodAll branches)

/-- Filters as a directory is to understand them. -/
def understoodAll : List Filter → List DirectoryFilter
  | [] => []
  | filter :: rest => understood filter :: understoodAll rest

end

/-- A filter whose text can be told apart: attributes have plain names, there is something between
each two wildcards, and no composite is without branches. -/
inductive Readable : Filter → Prop where
  | matching {attributeName : String} {first : Assertion} {others : List Assertion}
      (plain : IsPlainName attributeName)
      (inner : ∀ piece ∈ others.dropLast, piece.content ≠ []) :
      Readable (.matching attributeName first others)
  | atMost {attributeName : String} {value : Assertion} (plain : IsPlainName attributeName) :
      Readable (.atMost attributeName value)
  | atLeast {attributeName : String} {value : Assertion} (plain : IsPlainName attributeName) :
      Readable (.atLeast attributeName value)
  | negation {operand : Filter} (readable : Readable operand) : Readable (.negation operand)
  | composite {kind : Connective} {branches : List Filter} (nonempty : branches ≠ [])
      (each : ∀ branch ∈ branches, Readable branch) : Readable (.composite kind branches)

theorem understoodAll_eq_map (filters : List Filter) :
    understoodAll filters = filters.map understood := by
  induction filters with
  | nil => rfl
  | cons filter rest ih => rw [understoodAll, ih, List.map_cons]

/-- Every written filter starts with an opening parenthesis. -/
theorem written_eq_cons (filter : Filter) : ∃ tail, filter.written = '(' :: tail := by
  cases filter <;> exact ⟨_, rfl⟩

end Filter

namespace DirectoryFilter

theorem readBranches_writtenAll {branches : List Filter}
    (each : ∀ branch ∈ branches, ∀ rest,
      read (branch.written ++ rest) = some (branch.understood, rest)) (rest : List Char) :
    readBranches (Filter.writtenAll branches ++ ')' :: rest) =
      some (branches.map Filter.understood, rest) := by
  induction branches with
  | nil => rw [Filter.writtenAll, List.nil_append, readBranches, List.map_nil]
  | cons branch branches ih =>
      have first := each branch List.mem_cons_self
        (Filter.writtenAll branches ++ ')' :: rest)
      have others := ih fun other found => each other (List.mem_cons_of_mem _ found)
      obtain ⟨tail, headed⟩ := branch.written_eq_cons
      rw [Filter.writtenAll, List.append_assoc, readBranches]
      · have shorter : (Filter.writtenAll branches ++ ')' :: rest).length <
            (branch.written ++ (Filter.writtenAll branches ++ ')' :: rest)).length := by
          simp only [headed, List.length_append, List.length_cons]
          omega
        rw [first]
        simp only [if_pos shorter, others, Option.map_some, List.map_cons]
      · intro after same
        rw [headed] at same
        injection same with same
        cases same

/-- A written filter is read as what it was written for, and what follows it is left. -/
theorem read_written {filter : Filter} (readable : filter.Readable) :
    ∀ rest, read (filter.written ++ rest) = some (filter.understood, rest) := by
  induction readable with
  | @matching attributeName first others plain inner =>
      intro rest
      have values := readPieces_joinWith first others
      have made : ofParts? attributeName .equal ⟨first.content, others.map Assertion.content⟩ =
          some (ofPieces attributeName first.content (others.map Assertion.content)) := by
        have nonempty : [] ∉ (others.map Assertion.content).dropLast := by
          rw [← List.map_dropLast]
          intro found
          obtain ⟨piece, listed, empty⟩ := List.mem_map.1 found
          exact inner piece listed empty
        simp [ofParts?, nonempty]
      exact read_testWritten plain .equal values made rest
  | @atMost attributeName value plain =>
      intro rest
      exact read_testWritten plain .atMost (readPieces_joinWith value []) rfl rest
  | @atLeast attributeName value plain =>
      intro rest
      exact read_testWritten plain .atLeast (readPieces_joinWith value []) rfl rest
  | @negation operand readable ih =>
      intro rest
      have shape : (Filter.negation operand).written ++ rest =
          '(' :: '!' :: (operand.written ++ ')' :: rest) := by
        simp [Filter.written]
      rw [shape, read, ih]
      rfl
  | @composite kind branches nonempty each ih =>
      intro rest
      have shape : (Filter.composite kind branches).written ++ rest =
          '(' :: Filter.mark kind :: (Filter.writtenAll branches ++ ')' :: rest) := by
        simp [Filter.written]
      have inside : readComposite kind (Filter.writtenAll branches ++ ')' :: rest) =
          some (.composite kind (branches.map Filter.understood), rest) := by
        obtain ⟨first, others, rfl⟩ := List.exists_cons_of_ne_nil nonempty
        rw [readComposite, readBranches_writtenAll ih]
        rfl
      rw [shape, Filter.understood, Filter.understoodAll_eq_map]
      cases kind with
      | conjunction =>
          rw [Filter.mark, read]
          exact inside
      | disjunction =>
          rw [Filter.mark, read]
          exact inside

/-- The text of a filter is a filter, and the one that it was written for. -/
theorem ofText?_text {filter : Filter} (readable : filter.Readable) :
    ofText? filter.text = some filter.understood := by
  have whole := read_written readable []
  rw [List.append_nil] at whole
  simp [ofText?, Filter.text, whole]

end DirectoryFilter

end DirectoryQuery
