/-
Module: DirectoryQuery.Proofs.Name.Notation
Purpose: A reader of the text notation of relative names that knows nothing about how names are
  written here, and what it makes of the relative names that are.  The reader is strict: it takes no
  value with an unescaped separator, quotation mark, angle bracket, backslash or null character, and
  none that begins with a bare number sign.
Main exports:
  DistinguishedName.ValuePart, DistinguishedName.readParts?, DistinguishedName.readValue?,
  DistinguishedName.readRdn?, readValue?_escapeValue, readRdn?_rdn
-/
import Mathlib.Data.List.DropRight
import DirectoryQuery.Proofs.Filter.Notation
import DirectoryQuery.Proofs.Name.Escaping

namespace DirectoryQuery.DistinguishedName

/-! ### Reading values -/

/-- A part of a value: a character that stands for itself, or one or more octets behind a
backslash. -/
inductive ValuePart where
  | bare (c : Char)
  | escaped (octets : List UInt8)
deriving DecidableEq

/-- The octets of a part. -/
def ValuePart.octets : ValuePart → List UInt8
  | .bare c => String.utf8EncodeChar c
  | .escaped octets => octets

/-- The characters that a backslash makes stand for themselves. -/
def isEscapable (c : Char) : Bool := isReserved c || c == '#' || c == ' '

/-- The characters that stand in a value only behind a backslash.  The equals sign may stand alone.
-/
def isForbidden (c : Char) : Bool := isReserved c && c != '='

/-- Where a reader stands: between parts, behind a backslash, or behind the first digit of an octet. -/
inductive PartScan where
  | between
  | escape
  | secondDigit (first : Char)

/-- Cuts a value into its parts.  A backslash stands before a character with a meaning of its own or
before the two hexadecimal digits of an octet. -/
def readPartsFrom? : PartScan → List Char → Option (List ValuePart)
  | .between, [] => some []
  | .between, c :: rest =>
    if c = '\\' then readPartsFrom? .escape rest
    else if isForbidden c then none
    else (readPartsFrom? .between rest).map (ValuePart.bare c :: ·)
  | .escape, c :: rest =>
    if isEscapable c then
      (readPartsFrom? .between rest).map (ValuePart.escaped (String.utf8EncodeChar c) :: ·)
    else
      readPartsFrom? (.secondDigit c) rest
  | .secondDigit first, c :: rest =>
    match DirectoryFilter.octet? first c with
    | some octet => (readPartsFrom? .between rest).map (ValuePart.escaped [octet] :: ·)
    | none => none
  | _, [] => none

/-- The parts of a value. -/
def readParts? (text : List Char) : Option (List ValuePart) := readPartsFrom? .between text

/-- Parts without the bare spaces at both ends. -/
def trimmed (parts : List ValuePart) : List ValuePart :=
  (parts.dropWhile (· == .bare ' ')).rdropWhile (· == .bare ' ')

/-- Reads a value.  Spaces at its ends count only behind a backslash, and a bare number sign at its
beginning would announce another notation. -/
def readValue? (text : List Char) : Option (List UInt8) :=
  (readParts? text).bind fun parts =>
    if (trimmed parts).head? = some (.bare '#') then none
    else some ((trimmed parts).flatMap ValuePart.octets)

/-- Reads a relative name of one attribute: what precedes the first equals sign, and the value behind
it. -/
def readRdn? (text : List Char) : Option (String × List UInt8) :=
  match text.dropWhile (· != '=') with
  | [] => none
  | _ :: value =>
    if text.takeWhile (· != '=') = [] then none
    else (readValue? value).map fun octets => (String.ofList (text.takeWhile (· != '=')), octets)

/-! ### Reading escaped values -/

theorem readParts?_nil : readParts? [] = some [] := rfl

theorem readParts?_escapable {c : Char} (special : isEscapable c = true) (rest : List Char) :
    readParts? ('\\' :: c :: rest) =
      (readParts? rest).map (ValuePart.escaped (String.utf8EncodeChar c) :: ·) := by
  rw [readParts?, readPartsFrom?, if_pos rfl, readPartsFrom?, if_pos special, readParts?]

theorem readParts?_bare {c : Char} (ordinary : isReserved c = false) (rest : List Char) :
    readParts? (c :: rest) = (readParts? rest).map (ValuePart.bare c :: ·) := by
  have noBackslash : c ≠ '\\' := by
    rintro rfl
    cases ordinary
  have allowed : ¬isForbidden c = true := by
    rw [isForbidden, ordinary]
    exact Bool.false_ne_true
  rw [readParts?, readPartsFrom?, if_neg noBackslash, if_neg allowed, readParts?]

/-- The part that a character of a value is written as. -/
def partOf (c : Char) : ValuePart :=
  if isReserved c then .escaped (String.utf8EncodeChar c) else .bare c

/-- The parts of a value whose first character is guarded. -/
def guardedParts : List Char → List ValuePart
  | [] => []
  | c :: rest =>
    (if c = '#' ∨ c = ' ' then .escaped (String.utf8EncodeChar c) else partOf c) :: rest.map partOf

theorem octets_partOf (c : Char) : (partOf c).octets = String.utf8EncodeChar c := by
  unfold partOf
  split <;> rfl

theorem flatMap_octets_map_partOf (text : List Char) :
    (text.map partOf).flatMap ValuePart.octets = utf8 text := by
  rw [List.flatMap_map, utf8]
  exact congrArg text.flatMap (funext octets_partOf)

theorem flatMap_octets_guardedParts (text : List Char) :
    (guardedParts text).flatMap ValuePart.octets = utf8 text := by
  cases text with
  | nil => rfl
  | cons c rest =>
      rw [guardedParts, List.flatMap_cons, flatMap_octets_map_partOf, utf8_cons]
      split
      · rfl
      · rw [octets_partOf]

theorem partOf_ne_bare {c d : Char} (other : c ≠ d) : partOf c ≠ .bare d := by
  unfold partOf
  split
  · exact ValuePart.noConfusion
  · intro same
    exact other (ValuePart.bare.inj same)

theorem readParts?_escapeReserved (text rest : List Char) :
    readParts? (escapeReserved text ++ rest) =
      (readParts? rest).map (text.map partOf ++ ·) := by
  induction text with
  | nil => exact Option.map_id'.symm
  | cons c text ih =>
      rw [escapeReserved_cons, List.append_assoc]
      cases reserved : isReserved c with
      | true =>
          have special : isEscapable c = true := by simp [isEscapable, reserved]
          rw [if_pos rfl, List.cons_append, List.cons_append, List.nil_append,
            readParts?_escapable special, ih, Option.map_map]
          simp [Function.comp_def, partOf, reserved]
      | false =>
          rw [if_neg Bool.false_ne_true, List.cons_append, List.nil_append,
            readParts?_bare reserved, ih, Option.map_map]
          simp [Function.comp_def, partOf, reserved]

theorem readParts?_guardFront (text rest : List Char) :
    readParts? (guardFront (escapeReserved text) ++ rest) =
      (readParts? rest).map (guardedParts text ++ ·) := by
  cases text with
  | nil => exact Option.map_id'.symm
  | cons c text =>
      by_cases guarded : c = '#' ∨ c = ' '
      · have special : isEscapable c = true := by
          rcases guarded with rfl | rfl <;> rfl
        have unreserved : isReserved c = false := by
          rcases guarded with rfl | rfl <;> rfl
        rw [escapeReserved_cons, if_neg (by rw [unreserved]; exact Bool.false_ne_true),
          List.cons_append, List.nil_append, guardFront_cons, if_pos guarded, List.cons_append,
          List.cons_append, readParts?_escapable special, readParts?_escapeReserved, Option.map_map]
        simp [Function.comp_def, guardedParts, guarded]
      · have same : guardFront (escapeReserved (c :: text)) = escapeReserved (c :: text) := by
          rw [escapeReserved_cons]
          cases reserved : isReserved c with
          | true => rfl
          | false =>
              rw [if_neg Bool.false_ne_true, List.cons_append, List.nil_append, guardFront_cons,
                if_neg guarded]
        have parts : guardedParts (c :: text) = (c :: text).map partOf := by
          rw [guardedParts, if_neg guarded, List.map_cons]
        rw [same, parts, readParts?_escapeReserved]

/-! ### Values as they are written -/

theorem head?_guardedParts (text : List Char) :
    (guardedParts text).head? ≠ some (.bare ' ') ∧ (guardedParts text).head? ≠ some (.bare '#') := by
  cases text with
  | nil => exact ⟨(Option.some_ne_none _).symm, (Option.some_ne_none _).symm⟩
  | cons c rest =>
      rw [guardedParts, List.head?_cons, Ne, Ne, Option.some.injEq, Option.some.injEq]
      by_cases guarded : c = '#' ∨ c = ' '
      · rw [if_pos guarded]
        exact ⟨ValuePart.noConfusion, ValuePart.noConfusion⟩
      · rw [if_neg guarded]
        rw [not_or] at guarded
        exact ⟨partOf_ne_bare guarded.2, partOf_ne_bare guarded.1⟩

theorem getLast?_guardedParts {text : List Char} (last : text.getLast? ≠ some ' ') :
    (guardedParts text).getLast? ≠ some (.bare ' ') := by
  rcases List.eq_nil_or_concat' text with rfl | ⟨front, c, rfl⟩
  · exact (Option.some_ne_none _).symm
  · have other : c ≠ ' ' := by simpa using last
    cases front with
    | nil =>
        -- The last character is the first one.
        exact (head?_guardedParts [c]).1
    | cons d front =>
        rw [List.cons_append, guardedParts, List.map_append, List.map_singleton, ← List.cons_append,
          List.getLast?_concat, Ne, Option.some.injEq]
        exact partOf_ne_bare other

theorem trimmed_eq_self {parts : List ValuePart} (first : parts.head? ≠ some (.bare ' '))
    (last : parts.getLast? ≠ some (.bare ' ')) : trimmed parts = parts := by
  have front : parts.dropWhile (· == .bare ' ') = parts := by
    cases parts with
    | nil => rfl
    | cons part rest =>
        have other : (part == .bare ' ') = false := by simpa using first
        rw [List.dropWhile_cons, other]
        rfl
  rw [trimmed, front, List.rdropWhile_eq_self_iff]
  intro some space
  apply last
  rw [List.getLast?_eq_some_getLast some, eq_of_beq space]

/-- A value whose parts begin and end with no bare space and do not begin with a number sign has the
octets of its parts. -/
theorem readValue?_eq {text : List Char} {parts : List ValuePart}
    (cut : readParts? text = some parts) (noSpace : parts.head? ≠ some (.bare ' '))
    (noSign : parts.head? ≠ some (.bare '#')) (last : parts.getLast? ≠ some (.bare ' ')) :
    readValue? text = some (parts.flatMap ValuePart.octets) := by
  rw [readValue?, cut, Option.bind_some, trimmed_eq_self noSpace last, if_neg noSign]

/-- But for a lone space, a value is read as itself from the form that it has in a name. -/
theorem readValue?_escapeValue {value : List Char} (other : value ≠ [' ']) :
    readValue? (escapeValue value) = some (utf8 value) := by
  rcases eq_space_or_concat_or value with rfl | ⟨front, nonempty, rfl⟩ | last
  · exact absurd rfl other
  · have cut : readParts? (escapeValue (front ++ [' '])) =
        some (guardedParts front ++ [.escaped (String.utf8EncodeChar ' ')]) := by
      rw [escapeValue_concat_space nonempty, readParts?_guardFront, readParts?_escapable rfl]
      rfl
    have headed : (guardedParts front ++ [ValuePart.escaped (String.utf8EncodeChar ' ')]).head? =
        (guardedParts front).head? := by
      apply List.head?_append_of_ne_nil
      cases front with
      | nil => exact absurd rfl nonempty
      | cons c rest => exact List.cons_ne_nil _ _
    have ended : (guardedParts front ++ [ValuePart.escaped (String.utf8EncodeChar ' ')]).getLast? ≠
        some (.bare ' ') := by
      rw [List.getLast?_concat, Ne, Option.some.injEq]
      exact ValuePart.noConfusion
    obtain ⟨noSpace, noSign⟩ := head?_guardedParts front
    rw [readValue?_eq cut (headed ▸ noSpace) (headed ▸ noSign) ended, List.flatMap_append,
      flatMap_octets_guardedParts, utf8_append]
    rfl
  · have cut : readParts? (escapeValue value) = some (guardedParts value) := by
      have whole := readParts?_guardFront value []
      rw [List.append_nil] at whole
      rw [escapeValue_eq last, whole, readParts?_nil, Option.map_some, List.append_nil]
    obtain ⟨noSpace, noSign⟩ := head?_guardedParts value
    rw [readValue?_eq cut noSpace noSign (getLast?_guardedParts last), flatMap_octets_guardedParts]

/-- A lone space is read as a backslash: the first backslash escapes the second one, and so the space
behind it does not count. -/
theorem readValue?_escapeValue_space : readValue? (escapeValue [' ']) = some (utf8 ['\\']) := by
  decide

/-- The value that is read from a relative name with a value of its own: that value, but for a lone
space. -/
def shownValue (value : String) : List UInt8 :=
  if value = " " then utf8 ['\\'] else utf8 value.toList

/-- A relative name is read as the attribute and the value that it was made for. -/
theorem readRdn?_rdn {attributeType : String} (nonempty : attributeType ≠ "")
    (plain : '=' ∉ attributeType.toList) (value : String) :
    readRdn? (rdn attributeType value).toList = some (attributeType, shownValue value) := by
  have whole : (rdn attributeType value).toList =
      attributeType.toList ++ '=' :: escapeValue value.toList := by
    simp [rdn]
  have shown : readValue? (escapeValue value.toList) = some (shownValue value) := by
    unfold shownValue
    split
    · next space =>
        rw [space]
        exact readValue?_escapeValue_space
    · next other =>
        apply readValue?_escapeValue
        intro space
        exact other (String.toList_inj.1 space)
  have before : ∀ c ∈ attributeType.toList, (c != '=') = true := by
    intro c found
    rw [bne_iff_ne]
    rintro rfl
    exact plain found
  have named : attributeType.toList ≠ [] := fun empty =>
    nonempty (String.toList_eq_nil_iff.1 empty)
  have cut : (rdn attributeType value).toList.dropWhile (· != '=') =
      '=' :: escapeValue value.toList := by
    rw [whole, List.dropWhile_append_of_pos before]
    rfl
  have front : (rdn attributeType value).toList.takeWhile (· != '=') = attributeType.toList := by
    rw [whole, List.takeWhile_append_of_pos before]
    simp
  unfold readRdn?
  rw [cut]
  dsimp only
  rw [front, if_neg named, shown, Option.map_some, String.ofList_toList]

end DirectoryQuery.DistinguishedName
