/-
Module: DirectoryQuery.Finder.Parser
Purpose: Reading the name of a finder into the predicate that it looks for.
Main exports:
  Finder, FinderFault, FinderError, FinderError.report, Criteria.predicate, Finder.parse
-/
import DirectoryQuery.Finder.Criteria
import DirectoryQuery.Finder.Subject
import DirectoryQuery.Report

namespace DirectoryQuery

/-- A finder: its name, and the predicate that it looks for, with placeholders in the order in which
the arguments are given. -/
structure Finder where
  descriptor : String
  predicate : Predicate
  parameters : List Parameter
deriving Inhabited

namespace Finder

/-- The number of arguments. -/
def arity (finder : Finder) : Nat := finder.parameters.length

end Finder

/-! ### Faults -/

/-- What is wrong with the name of a finder. -/
inductive FinderFault where
  | subject (fault : SubjectFault)
  | criteria (fault : CriteriaFault)
  | unreadable
  | mixedConnectives
deriving Repr, DecidableEq

/-- The name of a finder that cannot be read, and why. -/
structure FinderError where
  descriptor : String
  fault : FinderFault
deriving Repr, DecidableEq

/-- The words for the reason why a property cannot be queried. -/
def Unqueryable.phrase : Unqueryable → String
  | .identifier => "the identifier"
  | .transient => "transient"

/-- The wording of a fault of the criteria. -/
def CriteriaFault.message : CriteriaFault → String
  | .notQueryable property reason =>
    "property '" ++ property ++ "' is " ++ reason.phrase ++ " and cannot be queried"
  | .unknownProperty entity found _ =>
    "no property matches '" ++ found ++ "' on '" ++ entity ++ "'"
  | .unsupportedKeyword keyword property =>
    "keyword '" ++ keyword ++ "' on '" ++ property ++ "' has no directory filter equivalent"
  | .unknownKeyword keyword property =>
    "unrecognized keyword '" ++ keyword ++ "' after '" ++ property ++ "'"

/-- What a caller is told about a fault of the criteria.  For an unknown property the names that
resemble it are suggested. -/
def CriteriaFault.report (fault : CriteriaFault) (descriptor : String) : Report :=
  match fault with
  | .unknownProperty _ found available =>
    let fragment := String.ofList (withoutKeyword found.toList)
    .ofUnreadable fault.message descriptor (some fragment) available
  | _ => .ofUnreadable fault.message descriptor none []

/-- What a caller is told about a fault of the subject. -/
def SubjectFault.report (fault : SubjectFault) (descriptor : String) : Report :=
  let unreadable message := Report.ofUnreadable message descriptor none []
  match fault with
  | .malformed => unreadable "expected a name of the form 'findBy<Property>...'"
  | .noCriteria => unreadable "no criteria after 'By'"
  | .limited subject =>
    .unsupported "limit"
      (some ("'" ++ subject ++ "' in '" ++ descriptor ++ "' requests result limiting"))
  | .distinct => .unsupported "distinct" (some ("'" ++ descriptor ++ "' requests distinct results"))
  | .sorted => .unsupported "sorting" (some ("'" ++ descriptor ++ "' declares an OrderBy clause"))

/-- What a caller is told. -/
def FinderError.report (error : FinderError) : Report :=
  match error.fault with
  | .subject fault => fault.report error.descriptor
  | .criteria fault => fault.report error.descriptor
  | .unreadable => .ofUnreadable "unreadable criteria" error.descriptor none []
  | .mixedConnectives =>
    .ofUnreadable "mixing 'And' and 'Or' is ambiguous; no precedence is defined" error.descriptor
      none []

/-! ### Predicates -/

namespace Segment

/-- The placeholder of a segment, if its operator takes a value. -/
def placeholder? (segment : Segment) (index : Nat) : Option Parameter :=
  if segment.keyword.operator.takesValue then some ⟨index, segment.property⟩ else none

/-- The predicate of a segment; its placeholder gets the given index. -/
def predicate (segment : Segment) (index : Nat) : Predicate :=
  let value := ((segment.placeholder? index).map Value.parameter).getD .null
  let positive := Predicate.comparison (.plain segment.property) segment.keyword.operator value
  if segment.keyword.isNegated then .negation positive else positive

/-- The number of arguments that a segment takes. -/
def arity (segment : Segment) : Nat := if segment.keyword.operator.takesValue then 1 else 0

end Segment

namespace Criteria

/-- The predicates of segments whose placeholders count from the given index on. -/
def predicatesFrom : (index : Nat) → List Segment → List Predicate
  | _, [] => []
  | index, segment :: rest =>
    segment.predicate index :: predicatesFrom (index + segment.arity) rest

/-- The placeholders of segments, counted from the given index on. -/
def placeholdersFrom : (index : Nat) → List Segment → List Parameter
  | _, [] => []
  | index, segment :: rest =>
    (segment.placeholder? index).toList ++ placeholdersFrom (index + segment.arity) rest

/-- The placeholders of criteria. -/
def placeholders (criteria : Criteria) : List Parameter := placeholdersFrom 0 criteria.segments

/-- Whether both connectives occur. -/
def mixesConnectives (criteria : Criteria) : Bool :=
  criteria.others.any (·.1 == .conjunction) && criteria.others.any (·.1 == .disjunction)

/-- The predicate of criteria that do not mix connectives: that of a lone segment, else a flat
composite. -/
def predicate (criteria : Criteria) : Predicate :=
  let first := criteria.first.predicate 0
  match criteria.others with
  | [] => first
  | (kind, _) :: _ =>
    .composite kind first (predicatesFrom criteria.first.arity (criteria.others.map (·.2)))

end Criteria

namespace Finder

/-- The finder that criteria stand for. -/
def ofCriteria (descriptor : String) (criteria : Criteria) : Except FinderError Finder :=
  if criteria.mixesConnectives then .error ⟨descriptor, .mixedConnectives⟩
  else .ok ⟨descriptor, criteria.predicate, criteria.placeholders⟩

/-- The finder with a name. -/
def parse (entity : Entity) (descriptor : String) : Except FinderError Finder :=
  match criteriaOf descriptor with
  | .error fault => .error ⟨descriptor, .subject fault⟩
  | .ok body =>
    match entity.readCriteria body with
    | .failed (some failure) => .error ⟨descriptor, .criteria failure.fault⟩
    | .failed none => .error ⟨descriptor, .unreadable⟩
    | .read criteria => ofCriteria descriptor criteria

end Finder

end DirectoryQuery
