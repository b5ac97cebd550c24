/-
Module: DirectoryQuery.Proofs.Name.Cutting
Purpose: Assertions that are joined by commas and plus signs are cut where they were joined.  A live
  separator is told from the others by the equals sign of the assertion behind it, and no separator
  within an assertion is live.
Main exports:
  DistinguishedName.Footing.after, Assertion.IsClear, DistinguishedName.IsChain,
  DistinguishedName.spelled, cut_spelled
-/
import DirectoryQuery.Name.Parser
import DirectoryQuery.Proofs.Name.Escaping

namespace DirectoryQuery.DistinguishedName

/-! ### Live characters -/

/-- The footing behind a text. -/
def Footing.after (footing : Footing) (text : List Char) : Footing := text.foldl Footing.step footing

theorem markFrom_append (footing : Footing) (front back : List Char) :
    markFrom footing (front ++ back) =
      markFrom footing front ++ markFrom (footing.after front) back := by
  induction front generalizing footing with
  | nil => rfl
  | cons c front ih =>
      rw [List.cons_append, markFrom, markFrom, ih, List.cons_append]
      rfl

theorem length_markFrom (footing : Footing) (text : List Char) :
    (markFrom footing text).length = text.length := by
  induction text generalizing footing with
  | nil => rfl
  | cons c rest ih => rw [markFrom, List.length_cons, ih, List.length_cons]

namespace Sealed

variable {marks text : List Char} {c : Char}

/-- Behind a sealed text the next character is live again. -/
theorem after_free (closed : Sealed marks text) : Footing.free.after text = .free := by
  induction closed with
  | nil => rfl
  | plain ordinary _ _ ih => simpa [Footing.after, Footing.step, ordinary] using ih
  | escaped _ ih => simpa [Footing.after, Footing.step] using ih

/-- The marked characters of a sealed text are not live. -/
theorem notMem_markFrom (closed : Sealed marks text) (marked : c ∈ marks) (other : c ≠ '\\') :
    (c, true) ∉ markFrom .free text := by
  induction closed with
  | nil => simp [markFrom]
  | plain ordinary unmarked _ ih =>
      rw [markFrom, Footing.step, if_neg ordinary, List.mem_cons, not_or]
      refine ⟨?_, ih⟩
      intro same
      injection same with head
      exact unmarked (head ▸ marked)
  | escaped _ ih => simpa [markFrom, Footing.step, Footing.isFree, other] using ih

end Sealed

/-! ### Searching for live characters -/

section Searching

variable {wanted : Char} {found start : Nat} {marks before after : List (Char × Bool)}

theorem findIdx?_split (absent : (wanted, true) ∉ before) :
    (before ++ (wanted, true) :: after).findIdx? (· == (wanted, true)) = some before.length := by
  induction before with
  | nil => simp [List.findIdx?_cons]
  | cons mark before ih =>
      rw [List.mem_cons, not_or] at absent
      rw [List.cons_append, List.findIdx?_cons, ih absent.2, beq_eq_false_iff_ne.2 (Ne.symm absent.1)]
      rfl

theorem firstLive?_eq_some (split : marks.drop start = before ++ (wanted, true) :: after)
    (absent : (wanted, true) ∉ before) :
    firstLive? wanted start marks = some (start + before.length) := by
  rw [firstLive?, split, findIdx?_split absent]
  rfl

theorem firstLive?_eq_none (absent : (wanted, true) ∉ marks.drop start) :
    firstLive? wanted start marks = none := by
  rw [firstLive?, Option.map_eq_none_iff, List.findIdx?_eq_none_iff]
  intro mark listed
  rw [beq_eq_false_iff_ne]
  rintro rfl
  exact absent listed

/-- A character that is not live up to some other one is found behind it. -/
theorem length_lt_of_firstLive? {other : Char × Bool} (absent : (wanted, true) ∉ before)
    (different : (wanted, true) ≠ other)
    (first : firstLive? wanted 0 (before ++ other :: after) = some found) :
    before.length < found := by
  rw [firstLive?, List.drop_zero, Option.map_eq_some_iff] at first
  obtain ⟨index, here, rfl⟩ := first
  obtain ⟨bound, equal, -⟩ := List.findIdx?_eq_some_iff_getElem.1 here
  rw [beq_iff_eq] at equal
  rw [Nat.zero_add]
  rcases Nat.lt_trichotomy index before.length with inside | rfl | behind
  · rw [List.getElem_append_left inside] at equal
    exact absurd (equal ▸ List.getElem_mem inside) absent
  · simp only [List.getElem_append_right (Nat.le_refl _), Nat.sub_self,
      List.getElem_cons_zero] at equal
    exact absurd equal.symm different
  · exact behind

theorem firstLive?_isSome (live : (wanted, true) ∈ marks) :
    (firstLive? wanted 0 marks).isSome = true := by
  rw [firstLive?, Option.isSome_map, List.findIdx?_isSome, List.any_eq_true]
  exact ⟨_, live, beq_self_eq_true _⟩

theorem lastLive?_eq_some {stop : Nat} {between : List (Char × Bool)}
    (split : (marks.take stop).drop start = (wanted, true) :: between)
    (single : (wanted, true) ∉ between) : lastLive? wanted start stop marks = some start := by
  have last : ((wanted, true) :: between).reverse.findIdx? (· == (wanted, true)) =
      some between.length := by
    rw [List.reverse_cons, findIdx?_split (by simpa using single), List.length_reverse]
  rw [lastLive?, split, last, Option.map_some, List.length_cons]
  congr 1
  omega

/-- A separator with an equals sign behind it, and something but no further separator between them, is
where a piece ends. -/
theorem pieceEnd?_eq_some {separator : Char} {between : List (Char × Bool)}
    (some : between ≠ []) (single : (separator, true) ∉ between)
    (equal : ('=', true) ∉ between) :
    pieceEnd? separator before.length
        (before ++ (separator, true) :: (between ++ ('=', true) :: after)) =
      .some before.length := by
  have split : (before ++ (separator, true) :: (between ++ ('=', true) :: after)).drop
      (before.length + 1) = between ++ ('=', true) :: after := by
    simp [List.drop_append]
  have filled : before.length + 1 < before.length + 1 + between.length :=
    Nat.lt_add_of_pos_right (List.length_pos_iff.2 some)
  have span : ((before ++ (separator, true) :: (between ++ ('=', true) :: after)).take
      (before.length + 1 + between.length)).drop before.length =
        (separator, true) :: between := by
    rw [Nat.add_assoc, List.take_length_add_append]
    simp [Nat.add_comm 1]
  rw [pieceEnd?, firstLive?_eq_some split equal]
  dsimp only
  rw [if_pos filled, lastLive?_eq_some span single]

/-- The separators of a name. -/
def separators : List Char := [',', '+']

variable {text : List Char} {between : List (Char × Bool)}

theorem firstPiece_comma
    (split : marked text = before ++ (',', true) :: (between ++ ('=', true) :: after))
    (apart : ∀ c ∈ separators, (c, true) ∉ before) (some : between ≠ [])
    (single : (',', true) ∉ between) (equal : ('=', true) ∉ between) :
    firstPiece text = (before.length, .comma) := by
  have comma : firstLive? ',' 0 (marked text) = .some before.length := by
    rw [split, firstLive?_eq_some rfl (apart ',' (by decide)), Nat.zero_add]
  have ends : pieceEnd? ',' before.length (marked text) = .some before.length := by
    rw [split, pieceEnd?_eq_some some single equal]
  rw [firstPiece, comma, Option.bind_some, ends]
  cases plus : firstLive? '+' 0 (marked text) with
  | none => rfl
  | some found =>
      -- A plus sign can only stand behind the comma.
      rw [split] at plus
      have behind := length_lt_of_firstLive? (apart '+' (by decide)) (by simp) plus
      simp [Nat.not_lt.2 (Nat.le_of_lt behind)]

theorem firstPiece_plus
    (split : marked text = before ++ ('+', true) :: (between ++ ('=', true) :: after))
    (apart : ∀ c ∈ separators, (c, true) ∉ before) (some : between ≠ [])
    (single : ('+', true) ∉ between) (equal : ('=', true) ∉ between) :
    firstPiece text = (before.length, .plus) := by
  have plus : firstLive? '+' 0 (marked text) = .some before.length := by
    rw [split, firstLive?_eq_some rfl (apart '+' (by decide)), Nat.zero_add]
  have ends : pieceEnd? '+' before.length (marked text) = .some before.length := by
    rw [split, pieceEnd?_eq_some some single equal]
  have first : (firstLive? ',' 0 (marked text)).all (before.length < ·) = true := by
    cases comma : firstLive? ',' 0 (marked text) with
    | none => rfl
    | some found =>
        rw [split] at comma
        have behind := length_lt_of_firstLive? (apart ',' (by decide)) (by simp) comma
        exact decide_eq_true behind
  rw [firstPiece, plus]
  dsimp only
  rw [if_pos first, ends]

theorem firstPiece_whole (apart : ∀ c ∈ separators, (c, true) ∉ marked text) :
    firstPiece text = (text.length, .none) := by
  have comma : firstLive? ',' 0 (marked text) = none := firstLive?_eq_none (apart ',' (by decide))
  have plus : firstLive? '+' 0 (marked text) = none := firstLive?_eq_none (apart '+' (by decide))
  rw [firstPiece, comma, plus]
  rfl

end Searching

/-! ### Assertions -/

/-- An assertion that shows its parts: neither a separator nor an equals sign but the one between its
parts stands in it without a backslash. -/
structure Assertion.IsClear (assertion : Assertion) : Prop where
  typed : assertion.attributeType ≠ []
  plain : ∀ c ∈ assertion.attributeType, c ≠ '\\' ∧ c ∉ [',', '+', '=']
  closed : Sealed ([',', '+', '=']) assertion.value

namespace Assertion.IsClear

variable {assertion : Assertion}

/-- No separator stands in the text of an assertion without a backslash. -/
theorem sealed_text (clear : assertion.IsClear) : Sealed separators assertion.text := by
  apply ((Sealed.of_forall clear.plain).mono (by decide)).append
  exact .plain (by decide) (by decide) (clear.closed.mono (by decide))

/-- The text of an assertion begins with an ordinary character, and what follows is sealed. -/
theorem exists_text_eq (clear : assertion.IsClear) :
    ∃ c rest, assertion.text = c :: rest ∧ c ≠ '\\' ∧ Sealed separators rest := by
  obtain ⟨c, others, form⟩ := List.exists_cons_of_ne_nil clear.typed
  have plain := clear.plain
  rw [form, List.forall_mem_cons] at plain
  refine ⟨c, others ++ '=' :: assertion.value, by rw [Assertion.text, form]; rfl, plain.1.1, ?_⟩
  apply ((Sealed.of_forall plain.2).mono (by decide)).append
  exact .plain (by decide) (by decide) (clear.closed.mono (by decide))

theorem after_text (clear : assertion.IsClear) :
    Footing.start.after assertion.text = .free := by
  obtain ⟨c, rest, form, ordinary, closed⟩ := clear.exists_text_eq
  have tail := closed.after_free
  rw [form]
  simpa [Footing.after, Footing.step, ordinary] using tail

/-- No separator in the text of an assertion is live. -/
theorem notMem_marked (clear : assertion.IsClear) :
    ∀ c ∈ separators, (c, true) ∉ marked assertion.text := by
  obtain ⟨first, rest, form, ordinary, closed⟩ := clear.exists_text_eq
  intro c listed
  have other : c ≠ '\\' := by
    rintro rfl
    exact absurd listed (by decide)
  rw [form, marked, markFrom, Footing.step, if_neg ordinary]
  simp [Footing.isFree, closed.notMem_markFrom listed other]

/-- The first equals sign in a text that an assertion begins stands behind the attribute. -/
theorem exists_markFrom (clear : assertion.IsClear) (more : List Char) :
    ∃ between after, markFrom .free (assertion.text ++ more) = between ++ ('=', true) :: after ∧
      between ≠ [] ∧ ∀ c ∈ [',', '+', '='], (c, true) ∉ between := by
  have closed : Sealed ([',', '+', '=']) assertion.attributeType := .of_forall clear.plain
  refine ⟨markFrom .free assertion.attributeType, markFrom .free (assertion.value ++ more), ?_, ?_,
    ?_⟩
  · rw [Assertion.text, List.append_assoc, markFrom_append, closed.after_free, List.cons_append]
    rfl
  · intro none
    have length := length_markFrom .free assertion.attributeType
    rw [none] at length
    exact clear.typed (List.length_eq_zero_iff.1 length.symm)
  · intro c listed
    apply closed.notMem_markFrom listed
    rintro rfl
    exact absurd listed (by decide)

theorem equal_mem_marked (clear : assertion.IsClear) : ('=', true) ∈ marked assertion.text := by
  obtain ⟨c, others, form⟩ := List.exists_cons_of_ne_nil clear.typed
  have plain := clear.plain
  rw [form, List.forall_mem_cons] at plain
  have closed : Sealed ([',', '+', '=']) others := .of_forall plain.2
  rw [Assertion.text, form, List.cons_append, marked, markFrom, Footing.step, if_neg plain.1.1,
    markFrom_append, closed.after_free, markFrom]
  simp [Footing.isFree]

end Assertion.IsClear

/-! ### Cutting -/

/-- The piece that an assertion makes up. -/
def Assertion.piece (assertion : Assertion) : Piece := ⟨assertion.text, assertion.joint⟩

/-- The text of assertions, each with what joins it to the next one. -/
def spelled (assertions : List Assertion) : List Char :=
  assertions.flatMap fun assertion => assertion.text ++ assertion.joint.text

theorem spelled_cons (assertion : Assertion) (rest : List Assertion) :
    spelled (assertion :: rest) = assertion.text ++ (assertion.joint.text ++ spelled rest) := by
  rw [spelled, List.flatMap_cons, List.append_assoc, spelled]

/-- Assertions each of which is joined to the next one, while nothing is joined to the last. -/
inductive IsChain : List Assertion → Prop where
  | last {assertion : Assertion} (alone : assertion.joint = .none) : IsChain [assertion]
  | joined {assertion next : Assertion} {rest : List Assertion} (more : assertion.joint ≠ .none)
      (later : IsChain (next :: rest)) : IsChain (assertion :: next :: rest)

theorem cutAfter_eq (pieces : List Piece) {text : List Char} (nonempty : text ≠ []) :
    cutAfter pieces text =
      cutAfter (attach pieces ⟨text.take (firstPiece text).1, (firstPiece text).2⟩)
        (text.drop ((firstPiece text).1 + 1)) := by
  cases text with
  | nil => exact absurd rfl nonempty
  | cons c rest => rw [cutAfter, List.drop_succ_cons]

namespace Assertion.IsClear

variable {assertion next : Assertion}

/-- An assertion is not taken for a part of the one before it. -/
theorem attach_piece (clear : assertion.IsClear) (pieces : List Piece) :
    attach pieces assertion.piece = assertion.piece :: pieces := by
  cases pieces with
  | nil => rfl
  | cons last earlier =>
      rw [attach]
      exact if_pos (firstLive?_isSome clear.equal_mem_marked)

theorem firstPiece_text (clear : assertion.IsClear) :
    firstPiece assertion.text = (assertion.text.length, .none) :=
  firstPiece_whole clear.notMem_marked

/-- The first piece ends where an assertion is joined to the next one. -/
theorem firstPiece_joined (clear : assertion.IsClear) (clear' : next.IsClear)
    (more : assertion.joint ≠ .none) (rest : List Char) :
    firstPiece (assertion.text ++ (assertion.joint.text ++ (next.text ++ rest))) =
      (assertion.text.length, assertion.joint) := by
  obtain ⟨between, after, behind, some, apart⟩ := clear'.exists_markFrom rest
  have split {separator : Char} (ordinary : separator ≠ '\\') :
      marked (assertion.text ++ separator :: (next.text ++ rest)) =
        marked assertion.text ++ (separator, true) :: (between ++ ('=', true) :: after) := by
    rw [marked, markFrom_append, clear.after_text, markFrom, Footing.step, if_neg ordinary, behind]
    rfl
  have length := length_markFrom .start assertion.text
  cases joint : assertion.joint with
  | none => exact absurd joint more
  | comma =>
      rw [← length]
      exact firstPiece_comma (split (by decide)) clear.notMem_marked some (apart _ (by decide))
        (apart _ (by decide))
  | plus =>
      rw [← length]
      exact firstPiece_plus (split (by decide)) clear.notMem_marked some (apart _ (by decide))
        (apart _ (by decide))

end Assertion.IsClear

/-- A chain of assertions is cut into these assertions. -/
theorem cutAfter_spelled {assertions : List Assertion} (chain : IsChain assertions)
    (each : ∀ assertion ∈ assertions, assertion.IsClear) (pieces : List Piece) :
    cutAfter pieces (spelled assertions) = pieces.reverse ++ assertions.map Assertion.piece := by
  induction chain generalizing pieces with
  | @last assertion alone =>
      have clear := each assertion List.mem_cons_self
      have shape : spelled [assertion] = assertion.text := by
        simp [spelled, alone, Joint.text]
      rw [shape, cutAfter_eq _ assertion.text_ne_nil, clear.firstPiece_text]
      dsimp only
      rw [List.take_length, ← alone, ← Assertion.piece, clear.attach_piece,
        List.drop_eq_nil_of_le (Nat.le_succ _), cutAfter]
      simp
  | @joined assertion next rest more later ih =>
      rw [List.forall_mem_cons] at each
      have clear := each.1
      have clear' := each.2 next List.mem_cons_self
      have nonempty : spelled (assertion :: next :: rest) ≠ [] := by
        rw [spelled_cons]
        exact List.append_ne_nil_of_left_ne_nil assertion.text_ne_nil _
      have first : firstPiece (spelled (assertion :: next :: rest)) =
          (assertion.text.length, assertion.joint) := by
        rw [spelled_cons, spelled_cons]
        exact clear.firstPiece_joined clear' more _
      have length : assertion.joint.text.length = 1 := by
        cases joint : assertion.joint with
        | none => exact absurd joint more
        | comma => rfl
        | plus => rfl
      rw [cutAfter_eq _ nonempty, first]
      dsimp only
      rw [spelled_cons, List.take_left, ← Assertion.piece, clear.attach_piece, ← List.drop_drop,
        List.drop_left, ← length, List.drop_left, ih each.2]
      simp

/-- Cutting gives assertions back that were joined. -/
theorem cut_spelled {assertions : List Assertion} (chain : IsChain assertions)
    (each : ∀ assertion ∈ assertions, assertion.IsClear) :
    cut (spelled assertions) = assertions.map Assertion.piece := by
  rw [cut, cutAfter_spelled chain each, List.reverse_nil, List.nil_append]

end DirectoryQuery.DistinguishedName
