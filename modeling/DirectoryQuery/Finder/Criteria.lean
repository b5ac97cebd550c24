/-
Module: DirectoryQuery.Finder.Criteria
Purpose: Reading the criteria of a finder name as properties and keywords.
Main exports:
  Segment, Criteria, CriteriaFault, Failure, Step, Entity.steps, Entity.readCriteria
-/
import DirectoryQuery.Entity.Basic
import DirectoryQuery.Finder.Keyword
import DirectoryQuery.Text.LetterCase
import DirectoryQuery.Text.Split

namespace DirectoryQuery

open Text

/-!
Criteria are segments with `And` or `Or` between them.  A segment is the name of a property with its
first letter in upper case and a keyword, possibly the empty one.  Since properties and keywords may
hold each other's letters, criteria can have several readings.  They are tried in a fixed order:
longer properties before shorter ones, longer keywords before shorter ones, `And` before `Or`; the
first reading that reaches the end is taken.
-/

/-- A property and the keyword behind it. -/
structure Segment where
  property : String
  keyword : Keyword
deriving Repr, DecidableEq, Inhabited

/-- Segments, each but the first with the connective before it. -/
structure Criteria where
  first : Segment
  others : List (Connective × Segment)
deriving Repr, DecidableEq, Inhabited

namespace Criteria

/-- Criteria with a segment put in front. -/
def preceded (segment : Segment) (kind : Connective) (criteria : Criteria) : Criteria :=
  ⟨segment, (kind, criteria.first) :: criteria.others⟩

/-- All segments. -/
def segments (criteria : Criteria) : List Segment :=
  criteria.first :: criteria.others.map (·.2)

end Criteria

/-- What stops a reading. -/
inductive CriteriaFault where
  | notQueryable (property : String) (reason : Unqueryable)
  | unknownProperty (entity found : String) (available : List String)
  | unsupportedKeyword (keyword property : String)
  | unknownKeyword (keyword property : String)
deriving Repr, DecidableEq

/-- A fault and the number of characters from its place to the end. -/
structure Failure where
  remaining : Nat
  fault : CriteriaFault
deriving Repr, DecidableEq

/-- Of two failures the one that got further; the first of them if none did. -/
def Failure.further? : Option Failure → Option Failure → Option Failure
  | none, later => later
  | some earlier, none => some earlier
  | some earlier, some later =>
    some (if later.remaining < earlier.remaining then later else earlier)

/-- A way to go on at a place in criteria. -/
inductive Step where
  /-- The segment reaches the end. -/
  | last (segment : Segment)
  /-- A connective follows the segment, and behind it there is more to read. -/
  | joined (segment : Segment) (kind : Connective) (rest : List Char)
  /-- There is no way to go on. -/
  | stuck (failure : Failure)
deriving Repr, DecidableEq

/-- The outcome of reading: criteria, or the failure that got furthest. -/
inductive Reading where
  | read (criteria : Criteria)
  | failed (failure : Option Failure)
deriving Repr, DecidableEq

/-! ### Candidates -/

/-- A property and the form of its name in criteria. -/
structure Candidate where
  property : String
  spelling : List Char
deriving Repr, DecidableEq

/-- The order in which candidates are tried: by length, longer ones first, then by code points. -/
def Candidate.triedBefore (a b : Candidate) : Bool :=
  decide (b.spelling.length < a.spelling.length) ||
    (a.spelling.length == b.spelling.length && noLater a.spelling b.spelling)

/-- The properties of an entity in the order in which they are tried. -/
def Entity.candidates (entity : Entity) : List Candidate :=
  (entity.propertyNames.map fun name => ⟨name, capitalize name.toList⟩).mergeSort
    Candidate.triedBefore

/-! ### Words between segments -/

/-- The word for a connective between segments. -/
def Connective.segmentWord : Connective → List Char
  | .conjunction => "And".toList
  | .disjunction => "Or".toList

/-- The connectives in the order in which they are tried. -/
def Connective.tried : List Connective := [.conjunction, .disjunction]

/-- Whether a text starts with a connective and a capital letter. -/
def startsNextSegment (text : List Char) : Bool :=
  Connective.tried.any fun kind =>
    match afterPrefix? kind.segmentWord text with
    | some (c :: _) => c.isUpper
    | _ => false

/-- The characters up to the next segment. -/
def untilNextSegment : List Char → List Char
  | [] => []
  | c :: rest => if startsNextSegment (c :: rest) then [] else c :: untilNextSegment rest

/-! ### Steps -/

/-- The steps from the end of a segment on: the end of the text, or a connective with something
behind it. -/
def stepsAfterSegment (segment : Segment) (rest : List Char) : List Step :=
  match rest with
  | [] => [.last segment]
  | rest =>
    Connective.tried.filterMap fun kind =>
      match afterPrefix? kind.segmentWord rest with
      | some (c :: more) => some (.joined segment kind (c :: more))
      | _ => none

/-- The fault that stands for a property behind which no keyword leads on. -/
def keywordFault (property : String) (rest : List Char) : CriteriaFault :=
  let found := String.ofList (untilNextSegment rest)
  if found ∈ Keyword.unsupported then .unsupportedKeyword found property
  else .unknownKeyword found property

/-- The steps from the end of a property on, one keyword after the other. -/
def stepsAfterProperty (property : String) (rest : List Char) : List Step :=
  (Keyword.byLength.flatMap fun keyword =>
    match afterPrefix? keyword.word.toList rest with
    | some more => stepsAfterSegment ⟨property, keyword⟩ more
    | none => []) ++
  [.stuck ⟨rest.length, keywordFault property rest⟩]

/-- Why a property may not be queried; a property without an attribute counts as transient. -/
def Entity.unqueryable? (entity : Entity) (property : String) : Option Unqueryable :=
  match entity.get? property with
  | some found => found.unqueryable?
  | none => some .transient

/-- The steps for a candidate that the text starts with. -/
def Entity.candidateSteps (entity : Entity) (text : List Char) (candidate : Candidate) :
    List Step :=
  match afterPrefix? candidate.spelling text with
  | none => []
  | some rest =>
    match entity.unqueryable? candidate.property with
    | some reason => [.stuck ⟨text.length, .notQueryable candidate.property reason⟩]
    | none => stepsAfterProperty candidate.property rest

/-- Whether the text starts with a candidate that may be queried. -/
def Entity.fits (entity : Entity) (text : List Char) (candidate : Candidate) : Bool :=
  candidate.spelling.isPrefixOf text && (entity.unqueryable? candidate.property).isNone

/-- All steps at the front of a text, in the order in which they are tried. -/
def Entity.steps (entity : Entity) (text : List Char) : List Step :=
  let found := String.ofList (untilNextSegment text)
  entity.candidates.flatMap (entity.candidateSteps text) ++
    if entity.candidates.any (entity.fits text) then []
    else [.stuck ⟨text.length, .unknownProperty entity.name found entity.queryableProperties⟩]

/-! ### Readings -/

theorem length_lt_of_joined_mem_stepsAfterSegment {segment other : Segment} {kind : Connective}
    {text rest : List Char} (found : Step.joined other kind rest ∈ stepsAfterSegment segment text) :
    rest.length < text.length := by
  unfold stepsAfterSegment at found
  split at found
  · simp at found
  · rw [List.mem_filterMap] at found
    obtain ⟨tried, _, found⟩ := found
    split at found
    · next c more after =>
      simp only [Option.some.injEq, Step.joined.injEq] at found
      obtain ⟨_, _, rfl⟩ := found
      have size := length_of_afterPrefix? after
      have positive : 0 < tried.segmentWord.length := by cases tried <;> decide
      omega
    · simp at found

theorem length_lt_of_joined_mem_steps {entity : Entity} {segment : Segment} {kind : Connective}
    {text rest : List Char} (found : Step.joined segment kind rest ∈ entity.steps text) :
    rest.length < text.length := by
  unfold Entity.steps at found
  rw [List.mem_append] at found
  rcases found with found | found
  · rw [List.mem_flatMap] at found
    obtain ⟨candidate, _, found⟩ := found
    unfold Entity.candidateSteps at found
    split at found
    · simp at found
    · next behind after =>
      have size := length_of_afterPrefix? after
      split at found
      · simp at found
      · unfold stepsAfterProperty at found
        rw [List.mem_append, List.mem_flatMap] at found
        rcases found with ⟨keyword, _, found⟩ | found
        · split at found
          · next more afterKeyword =>
            have inner := length_lt_of_joined_mem_stepsAfterSegment found
            have keywordSize := length_of_afterPrefix? afterKeyword
            omega
          · simp at found
        · simp at found
  · split at found <;> simp at found

/-- A failure met on the way to an outcome counts only if nothing is read. -/
def Reading.afterFailure (failure : Option Failure) : Reading → Reading
  | .read criteria => .read criteria
  | .failed later => .failed (Failure.further? failure later)

mutual

/-- The first reading of a whole text as criteria, or the failure that got furthest. -/
def Entity.readCriteria (entity : Entity) (text : List Char) : Reading :=
  entity.readSteps text (entity.steps text) fun _ known => known
termination_by (text.length, (entity.steps text).length + 1)

/-- The first reading that starts with one of the given steps at the front of a text. -/
def Entity.readSteps (entity : Entity) (text : List Char) (steps : List Step)
    (known : ∀ step ∈ steps, step ∈ entity.steps text) : Reading :=
  match steps with
  | [] => .failed none
  | .last segment :: _ => .read ⟨segment, []⟩
  | .stuck failure :: others =>
    (entity.readSteps text others fun step found => known step (.tail _ found)).afterFailure
      (some failure)
  | .joined segment kind rest :: others =>
    match entity.readCriteria rest with
    | .read criteria => .read (criteria.preceded segment kind)
    | .failed failure =>
      (entity.readSteps text others fun step found => known step (.tail _ found)).afterFailure
        failure
termination_by (text.length, steps.length)
decreasing_by
  · simp_wf
    exact Prod.Lex.right _ (by simp)
  · simp_wf
    exact Prod.Lex.left _ _ (length_lt_of_joined_mem_steps (known _ (.head _)))
  · simp_wf
    exact Prod.Lex.right _ (by simp)

end

end DirectoryQuery
