/-
Module: DirectoryQuery.Proofs.Name.NormalForm
Purpose: Names that were read are in a normal form: reading the text of one gives the same name.  Such
  a name is made of assertions that nothing is wrong with and that no white space surrounds, and its
  text is cut into just these assertions.
Main exports:
  Assertion.IsSound, isSound_of_readPiece, DistinguishedName.settled, DistinguishedName.IsSettled,
  isSettled_of_parse, isWhole_of_parse, IsSettled.parse_text, parse_text_of_parse
-/
import DirectoryQuery.Proofs.Name.Cutting
import DirectoryQuery.Proofs.Name.Text

namespace DirectoryQuery.DistinguishedName

open Text

/-! ### Attributes -/

variable {attributeType : List Char}

/-- The characters of attributes lie between two ranges of white space. -/
theorem range_of_isTypeChar {c : Char} (typed : isTypeChar c = true) :
    0x21 ≤ c.toNat ∧ c.toNat ≤ 0x7A := by
  unfold isTypeChar at typed
  delta Char.isAlphanum Char.isAlpha Char.isUpper Char.isLower Char.isDigit at typed
  simp only [Bool.or_eq_true, Bool.and_eq_true, decide_eq_true_eq, beq_iff_eq, ge_iff_le,
    UInt32.le_iff_toNat_le] at typed
  rcases typed with ((⟨low, high⟩ | ⟨low, high⟩) | ⟨low, high⟩) | rfl
  · exact ⟨Nat.le_trans (by decide) low, Nat.le_trans high (by decide)⟩
  · exact ⟨Nat.le_trans (by decide) low, Nat.le_trans high (by decide)⟩
  · exact ⟨Nat.le_trans (by decide) low, Nat.le_trans high (by decide)⟩
  · decide

theorem isBlank_of_isTypeChar {c : Char} (typed : isTypeChar c = true) : isBlank c = false := by
  obtain ⟨low, high⟩ := range_of_isTypeChar typed
  have apart : ∀ range ∈ blanks.ranges, range.2 < 0x21 ∨ 0x7A < range.1 := by decide
  by_contra blank
  rw [Bool.not_eq_false, isBlank, CodePointSet.contains_iff] at blank
  obtain ⟨range, listed, first, last⟩ := blank
  have outside := apart range listed
  omega

/-- An attribute without a fault holds no white space. -/
theorem isBlank_of_attributeProblem? (sound : attributeProblem? attributeType = none) :
    ∀ c ∈ attributeType, isBlank c = false := by
  unfold attributeProblem? at sound
  split at sound
  · cases sound
  · split at sound
    · next form =>
        subst form
        have visible : "<GUID".toList.all (!isBlank ·) = true := by decide
        simpa using visible
    · split at sound
      · cases sound
      · next none =>
          intro c found
          apply isBlank_of_isTypeChar
          simpa using List.find?_eq_none.1 none c found

theorem ne_nil_of_attributeProblem? (sound : attributeProblem? attributeType = none) :
    attributeType ≠ [] := by
  rintro rfl
  cases sound

theorem trim_of_attributeProblem? (sound : attributeProblem? attributeType = none) :
    trim attributeType = attributeType := by
  have visible := isBlank_of_attributeProblem? sound
  apply trim_eq_self_of_ends
  · intro c first
    exact visible c (List.mem_of_head? first)
  · intro c last
    exact visible c (List.mem_of_getLast? last)

/-! ### Sound assertions -/

theorem valueProblem?_eq_none_iff {piece value : List Char} :
    valueProblem? piece value = none ↔
      value ≠ [] ∧ value.head? ≠ some '#' ∧ valueProblemFrom? .anything value = none := by
  cases value with
  | nil => simp [valueProblem?]
  | cons c rest =>
      by_cases sign : c = '#'
      · simp [valueProblem?, sign]
      · simp [valueProblem?, sign]

/-- An assertion that nothing is wrong with, and whose value no white space surrounds. -/
structure Assertion.IsSound (assertion : Assertion) : Prop where
  typed : attributeProblem? assertion.attributeType = none
  valued : ∀ piece, valueProblem? piece assertion.value = none
  trimmed : trim assertion.value = assertion.value

theorem isSound_of_readPiece {piece : Piece} {assertion : Assertion}
    (read : readPiece piece = .ok assertion) : assertion.IsSound := by
  unfold readPiece at read
  dsimp only at read
  split at read
  · cases read
  · next sound =>
      cases read
      obtain ⟨typed, valued⟩ := Option.or_eq_none_iff.1 sound
      rw [valueProblem?_eq_none_iff] at valued
      exact ⟨typed, fun piece => valueProblem?_eq_none_iff.2 valued, trim_trim _⟩

theorem splitAfter_append {previous : Char} (front : previous ≠ '\\')
    (plain : ∀ c ∈ attributeType, c ≠ '\\' ∧ c ∉ [',', '+', '=']) (value : List Char) :
    splitAfter previous (attributeType ++ '=' :: value) = some (attributeType, value) := by
  induction attributeType generalizing previous with
  | nil => simp [splitAfter, front]
  | cons c rest ih =>
      obtain ⟨head, tail⟩ := List.forall_mem_cons.1 plain
      have other : c ≠ '=' := by
        rintro rfl
        exact head.2 (by decide)
      simp [splitAfter, other, ih head.1 tail]

namespace Assertion.IsSound

variable {assertion : Assertion}

theorem isClear (sound : assertion.IsSound) : assertion.IsClear where
  typed := ne_nil_of_attributeProblem? sound.typed
  plain := plain_of_attributeProblem? sound.typed
  closed := sealed_of_valueProblem? (by simp [needsEscape]) (sound.valued [])

/-- The text of an assertion is split where its parts meet. -/
theorem splitPiece?_text (sound : assertion.IsSound) :
    splitPiece? assertion.text = some (assertion.attributeType, assertion.value) := by
  obtain ⟨c, rest, form⟩ := List.exists_cons_of_ne_nil (ne_nil_of_attributeProblem? sound.typed)
  have plain := plain_of_attributeProblem? sound.typed
  rw [form, List.forall_mem_cons] at plain
  have other : c ≠ '=' := by
    rintro rfl
    exact plain.1.2 (by decide)
  rw [Assertion.text, form, List.cons_append, splitPiece?, if_neg other,
    splitAfter_append plain.1.1 plain.2]
  rfl

/-- The piece that an assertion makes up is read as the assertion. -/
theorem readPiece_piece (sound : assertion.IsSound) : readPiece assertion.piece = .ok assertion := by
  simp only [readPiece, piece, sound.splitPiece?_text, Option.getD_some,
    trim_of_attributeProblem? sound.typed, sound.trimmed, sound.typed, sound.valued, Option.or_none]

end Assertion.IsSound

theorem mapM_readPiece {assertions : List Assertion}
    (each : ∀ assertion ∈ assertions, assertion.IsSound) :
    (assertions.map Assertion.piece).mapM readPiece = .ok assertions := by
  induction assertions with
  | nil => rfl
  | cons assertion rest ih =>
      obtain ⟨head, tail⟩ := List.forall_mem_cons.1 each
      rw [List.map_cons, List.mapM_cons, head.readPiece_piece, ih tail]
      rfl

/-! ### Joined assertions -/

/-- Assertions with the joints that the text of their name shows: behind each but the last a plus sign,
if that is what joins it to the next one, and otherwise a comma. -/
def settled : List Assertion → List Assertion
  | [] => []
  | [assertion] => [{ assertion with joint := .none }]
  | assertion :: next :: rest =>
    { assertion with joint := if assertion.joint = .plus then .plus else .comma } ::
      settled (next :: rest)

theorem settled_eq_nil_iff {assertions : List Assertion} :
    settled assertions = [] ↔ assertions = [] := by
  match assertions with
  | [] => simp [settled]
  | [_] => simp [settled]
  | _ :: _ :: _ => simp [settled]

theorem isChain_settled {assertions : List Assertion} (some : assertions ≠ []) :
    IsChain (settled assertions) := by
  induction assertions with
  | nil => exact absurd rfl some
  | cons assertion rest ih =>
      cases rest with
      | nil => exact .last rfl
      | cons next rest =>
          have later := ih (List.cons_ne_nil _ _)
          obtain ⟨first, others, form⟩ : ∃ first others, settled (next :: rest) = first :: others := by
            cases rest <;> exact ⟨_, _, rfl⟩
          rw [settled, form]
          rw [form] at later
          apply IsChain.joined _ later
          dsimp only
          split <;> simp

theorem isSound_settled {assertions : List Assertion}
    (each : ∀ assertion ∈ assertions, assertion.IsSound) :
    ∀ assertion ∈ settled assertions, assertion.IsSound := by
  induction assertions with
  | nil => exact each
  | cons assertion rest ih =>
      obtain ⟨head, tail⟩ := List.forall_mem_cons.1 each
      have same (joint : Joint) : ({ assertion with joint := joint } : Assertion).IsSound :=
        ⟨head.typed, head.valued, head.trimmed⟩
      cases rest with
      | nil => exact List.forall_mem_singleton.2 (same _)
      | cons next rest => exact List.forall_mem_cons.2 ⟨same _, ih tail⟩

/-- Settled joints group assertions into the same relative names. -/
theorem groupRdns_settled (open? : Option (List Char)) (assertions : List Assertion) :
    groupRdns open? (settled assertions) = groupRdns open? assertions := by
  induction assertions generalizing open? with
  | nil => rfl
  | cons assertion rest ih =>
      cases rest with
      | nil =>
          cases joint : assertion.joint <;>
            simp [settled, groupRdns_cons, groupRdns, joint, Assertion.text]
      | cons next rest =>
          cases joint : assertion.joint <;>
            simp [settled, groupRdns_cons _ _ (settled (next :: rest)),
              groupRdns_cons _ _ (next :: rest), joint, Assertion.text, ih]

theorem groupRdns_ne_nil (open? : Option (List Char)) (assertion : Assertion)
    (rest : List Assertion) : groupRdns open? (assertion :: rest) ≠ [] := by
  induction rest generalizing open? assertion with
  | nil => cases open? <;> cases joint : assertion.joint <;> simp [groupRdns, joint]
  | cons next rest ih =>
      rw [groupRdns_cons]
      dsimp only
      split
      · exact ih _ next
      · exact List.cons_ne_nil _ _

/-- The relative names with commas between them are the assertions with their settled joints. -/
theorem intercalate_groupRdns (open? : Option (List Char)) (assertion : Assertion)
    (rest : List Assertion) :
    [','].intercalate ((groupRdns open? (assertion :: rest)).map String.toList) =
      (open?.elim [] fun before => before ++ ['+']) ++ spelled (settled (assertion :: rest)) := by
  induction rest generalizing open? assertion with
  | nil =>
      cases open? <;> cases joint : assertion.joint <;>
        simp [groupRdns, settled, spelled, joint, Joint.text, Assertion.text]
  | cons next rest ih =>
      have front : (open?.elim assertion.text fun before => before ++ '+' :: assertion.text) =
          (open?.elim [] fun before => before ++ ['+']) ++ assertion.text := by
        cases open? <;> simp
      rw [groupRdns_cons, front, settled, spelled_cons]
      dsimp only
      by_cases plus : assertion.joint = .plus
      · rw [if_pos plus, if_pos plus, ih]
        simp [Joint.text, Assertion.text]
      · obtain ⟨rdn, others, form⟩ := List.exists_cons_of_ne_nil (groupRdns_ne_nil none next rest)
        have later := ih none next
        rw [form] at later
        rw [if_neg plus, if_neg plus, form, List.map_cons, List.map_cons,
          List.intercalate_cons_cons, ← List.map_cons, later]
        simp [Joint.text, Assertion.text]

/-! ### Names in normal form -/

/-- A name that sound assertions make up. -/
def IsSettled (name : DistinguishedName) : Prop :=
  ∃ assertions : List Assertion, (∀ assertion ∈ assertions, assertion.IsSound) ∧
    name.rdns = groupRdns none assertions

theorem exists_of_mem_mapM {pieces : List Piece} {assertions : List Assertion}
    (all : pieces.mapM readPiece = .ok assertions) :
    ∀ assertion ∈ assertions, ∃ piece, readPiece piece = .ok assertion := by
  induction pieces generalizing assertions with
  | nil =>
      cases all
      simp
  | cons piece rest ih =>
      rw [List.mapM_cons] at all
      cases head : readPiece piece with
      | error problem =>
          rw [head] at all
          cases all
      | ok first =>
          cases tail : rest.mapM readPiece with
          | error problem =>
              rw [head, tail] at all
              cases all
          | ok others =>
              rw [head, tail] at all
              cases all
              intro assertion found
              rcases List.mem_cons.1 found with rfl | later
              · exact ⟨piece, head⟩
              · exact ih tail assertion later

/-- A name that was read is in normal form. -/
theorem isSettled_of_parse {text : String} {name : DistinguishedName}
    (read : parse text = .ok name) : name.IsSettled := by
  unfold parse at read
  split at read
  · cases read
    exact ⟨[], by simp, rfl⟩
  · split at read
    · cases read
    · split at read
      · next assertions all =>
          cases read
          refine ⟨assertions, ?_, rfl⟩
          intro assertion found
          obtain ⟨piece, one⟩ := exists_of_mem_mapM all assertion found
          exact isSound_of_readPiece one
      · cases read

/-- A name that was read consists of whole relative names. -/
theorem isWhole_of_parse {text : String} {name : DistinguishedName}
    (read : parse text = .ok name) : ∀ rdn ∈ name.rdns, IsWhole rdn := by
  obtain ⟨assertions, each, form⟩ := isSettled_of_parse read
  rw [form]
  apply isWhole_of_mem_groupRdns
  · intro assertion found
    exact (each assertion found).isClear.sealed_text.mono (by decide)
  · simp

/-- The text of sound assertions is read as the name that they make up. -/
theorem parse_spelled {assertions : List Assertion} (some : assertions ≠ [])
    (each : ∀ assertion ∈ assertions, assertion.IsSound) {text : String}
    (spelt : text.toList = spelled (settled assertions)) :
    parse text = .ok ⟨groupRdns none assertions⟩ := by
  have sound := isSound_settled each
  have parts : cut text.toList = (settled assertions).map Assertion.piece := by
    rw [spelt]
    exact cut_spelled (isChain_settled some) fun assertion found => (sound assertion found).isClear
  obtain ⟨first, others, form⟩ : ∃ first others, settled assertions = first :: others :=
    List.exists_cons_of_ne_nil fun none => some (settled_eq_nil_iff.1 none)
  have visible : trim text.toList ≠ [] := by
    apply List.ne_nil_of_mem
    apply mem_trim (c := '=') _ (by decide)
    rw [spelt, form, spelled_cons, Assertion.text]
    simp
  have all := mapM_readPiece sound
  rw [parse, if_neg visible, parts, ← groupRdns_settled]
  rw [form, List.map_cons] at all ⊢
  dsimp only
  rw [all]

/-- The text of a name in normal form is read as the name. -/
theorem IsSettled.parse_text {name : DistinguishedName} (canonical : name.IsSettled) :
    parse name.text = .ok name := by
  obtain ⟨rdns⟩ := name
  obtain ⟨assertions, each, form⟩ := canonical
  dsimp only at form
  subst form
  cases assertions with
  | nil => rfl
  | cons assertion rest =>
      apply parse_spelled (List.cons_ne_nil _ _) each
      rw [text, String.toList_intercalate]
      exact intercalate_groupRdns none assertion rest

/-- A name is in normal form if and only if its text is read as the name. -/
theorem isSettled_iff {name : DistinguishedName} :
    name.IsSettled ↔ parse name.text = .ok name :=
  ⟨IsSettled.parse_text, isSettled_of_parse⟩

/-- Reading is idempotent: what was read is read again, from its own text, as the same name. -/
theorem parse_text_of_parse {text : String} {name : DistinguishedName}
    (read : parse text = .ok name) : parse name.text = .ok name :=
  (isSettled_of_parse read).parse_text

/-- White space around parts goes, escaped characters and joined parts stay. -/
theorem parse_text_of_parse_spaced :
    parse " cn = a\\, b + sn=\\41 c ,dc= com " =
        .ok ⟨["cn=a\\, b+sn=\\41 c", "dc=com"]⟩ ∧
      parse (text ⟨["cn=a\\, b+sn=\\41 c", "dc=com"]⟩) =
        .ok ⟨["cn=a\\, b+sn=\\41 c", "dc=com"]⟩ :=
  have read : parse " cn = a\\, b + sn=\\41 c ,dc= com " =
      .ok ⟨["cn=a\\, b+sn=\\41 c", "dc=com"]⟩ := by decide +kernel
  ⟨read, parse_text_of_parse read⟩

end DirectoryQuery.DistinguishedName
