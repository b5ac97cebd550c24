/-
Module: DirectoryQuery.Proofs.Repository.Session
Purpose: What comes of the calls of a session.  A call either fails before anything is searched or
  searches once, for the query that was asked for; and nothing but the answer to this query connects
  it with the calls before it.
Main exports:
  Question, Repository.question, Repository.plan, Repository.perform_eq, Repository.logged,
  Repository.Concludes, Repository.Answers, Repository.perform_congr, Session.session_run,
  Session.run_exact
-/
import DirectoryQuery.Proofs.Repository.Finders
import DirectoryQuery.Repository.Session

namespace DirectoryQuery

/-! ### Outcomes -/

namespace Outcome

variable {α β γ : Type}

theorem andThen_of_error {outcome : Outcome α} {error : CallError}
    (failed : outcome.result = .error error) (next : α → Outcome β) :
    outcome.andThen next = ⟨outcome.searched, outcome.warnings, .error error⟩ := by
  unfold andThen
  rw [failed]

theorem andThen_of_ok {outcome : Outcome α} {value : α} (made : outcome.result = .ok value)
    (next : α → Outcome β) :
    outcome.andThen next = ⟨outcome.searched ++ (next value).searched,
      outcome.warnings ++ (next value).warnings, (next value).result⟩ := by
  unfold andThen
  rw [made]

theorem andThen_assoc (outcome : Outcome α) (next : α → Outcome β) (last : β → Outcome γ) :
    (outcome.andThen next).andThen last = outcome.andThen fun value => (next value).andThen last := by
  cases made : outcome.result with
  | error error =>
      rw [andThen_of_error made, andThen_of_error made, andThen_of_error rfl]
  | ok value =>
      rw [andThen_of_ok made, andThen_of_ok made]
      cases between : (next value).result with
      | error error => simp [andThen, between]
      | ok value' => simp [andThen, between]

theorem map_andThen (outcome : Outcome α) (next : α → Outcome β) (make : β → γ) :
    (outcome.andThen next).map make = outcome.andThen fun value => (next value).map make :=
  andThen_assoc _ _ _

theorem map_map (outcome : Outcome α) (make : α → β) (make' : β → γ) :
    (outcome.map make).map make' = outcome.map (make' ∘ make) :=
  andThen_assoc _ _ _

theorem searched_map (outcome : Outcome α) (make : α → β) :
    (outcome.map make).searched = outcome.searched := by
  cases made : outcome.result with
  | error error => rw [map, andThen_of_error made]
  | ok value => simp [map, andThen_of_ok made, of]

theorem result_map (outcome : Outcome α) (make : α → β) :
    (outcome.map make).result = outcome.result.map make := by
  cases made : outcome.result with
  | error error =>
      rw [map, andThen_of_error made]
      rfl
  | ok value =>
      rw [map, andThen_of_ok made]
      rfl

end Outcome

/-! ### What a call asks for -/

/-- What a call asks for: a predicate, the arguments for it, and wishes. -/
structure Question where
  predicate : Option Predicate
  arguments : List Value := []
  keywords : List (String × Value) := []
  parameters : Option SearchParameters

/-- Whether a call searches, and does not only make a query. -/
def Call.searches : Call → Bool
  | .queryFor _ _ _ _ => false
  | _ => true

namespace Repository

variable {α : Type} {repository : Repository} {call : Call}

/-- What a finder asks for.  The wishes of the caller take the place of those of the declaration. -/
def finderQuestion (repository : Repository) (name : String) (arguments : List Value)
    (keywords : List (String × Value)) (parameters : Option SearchParameters) :
    Except CallError Question :=
  match repository.kind.member? name with
  | none => .error (.noMember repository.kind.name name)
  | some .other => .error .notAFinder
  | some (.finder declaration) =>
    match finderCall.clash? keywords with
    | some clash => .error (.request (.clash clash))
    | none =>
      match repository.kind.finder? declaration.name with
      | none => .error (.neverRead declaration.literal repository.kind.name)
      | some finder =>
        .ok ⟨some finder.predicate, arguments, keywords, parameters.or declaration.parameters⟩

/-- What an expression asks for. -/
def expressionQuestion (expression : Option Expression) (parameters : Option SearchParameters) :
    Except CallError Question :=
  match expression with
  | none => .ok { predicate := none, parameters := parameters }
  | some expression =>
    match expression.toPredicate with
    | .error error => .error (.expression error)
    | .ok predicate => .ok { predicate := some predicate, parameters := parameters }

/-- What a call asks for. -/
def question (repository : Repository) : Call → Except CallError Question
  | .find expression parameters => expressionQuestion expression parameters
  | .findOne expression parameters => expressionQuestion expression parameters
  | .findAll parameters => expressionQuestion none parameters
  | .queryFor predicate arguments keywords parameters =>
    .ok ⟨predicate, arguments, keywords, parameters⟩
  | .finder name arguments keywords parameters =>
    repository.finderQuestion name arguments keywords parameters

/-- The query for what is asked for. -/
def ask (repository : Repository) : Except CallError Question → Outcome Query
  | .error error => .of (.error error)
  | .ok question =>
    repository.queryFor question.predicate question.arguments question.keywords
      question.parameters

/-- The query for what a call asks for. -/
def plan (repository : Repository) (call : Call) : Outcome Query :=
  repository.ask (repository.question call)

/-- Whether a call is for one entry at most. -/
def isSingle (repository : Repository) : Call → Bool
  | .findOne _ _ => true
  | .finder name _ _ _ =>
    match repository.kind.member? name with
    | some (.finder declaration) => declaration.single
    | _ => false
  | _ => false

/-- What a search finds: all entries, or the only one. -/
def settle (directory : Directory α) (one : Bool) (query : Query) : Outcome (Found α) :=
  if one then ((search directory query).andThen single).map .entry
  else (search directory query).map .entries

theorem find_eq (directory : Directory α) (expression : Option Expression)
    (parameters : Option SearchParameters) :
    repository.find directory expression parameters =
      (repository.ask (expressionQuestion expression parameters)).andThen (search directory) := by
  cases expression with
  | none => rfl
  | some expression =>
      simp only [find, expressionQuestion]
      cases expression.toPredicate <;> rfl

theorem call_eq (directory : Directory α) (name : String) (arguments : List Value)
    (keywords : List (String × Value)) (parameters : Option SearchParameters) :
    repository.call directory name arguments keywords parameters =
      (repository.ask (repository.finderQuestion name arguments keywords parameters)).andThen
        (settle directory (repository.isSingle (.finder name arguments keywords parameters))) := by
  unfold call finderQuestion
  cases held : repository.kind.member? name with
  | none => rfl
  | some member =>
      cases member with
      | other => rfl
      | finder declaration =>
          have one : repository.isSingle (.finder name arguments keywords parameters) =
              declaration.single := by
            rw [isSingle, held]
          rw [one]
          dsimp only
          cases finderCall.clash? keywords with
          | some clash => rfl
          | none =>
              dsimp only
              rw [callDeclared]
              cases repository.kind.finder? declaration.name with
              | none => rfl
              | some finder =>
                  cases declaration.single with
                  | false => exact Outcome.map_andThen _ _ _
                  | true =>
                      dsimp only
                      rw [if_pos rfl, Outcome.andThen_assoc]
                      exact Outcome.map_andThen _ _ _

/-- Whatever the call, it is planned before anything is searched. -/
theorem perform_eq (directory : Directory α) (call : Call) :
    repository.perform directory call = (repository.plan call).andThen fun query =>
      if call.searches then (settle directory (repository.isSingle call) query).map .found
      else .of (.ok (.query query)) := by
  cases call with
  | find expression parameters =>
      rw [perform, find_eq, Outcome.map_andThen]
      simp only [Call.searches, if_true, isSingle, settle, Bool.false_eq_true, if_false,
        Outcome.map_map]
      rfl
  | findOne expression parameters =>
      rw [perform, findOne, find_eq, Outcome.andThen_assoc, Outcome.map_andThen]
      simp only [Call.searches, if_true, isSingle, settle, Outcome.map_map]
      rfl
  | findAll parameters =>
      rw [perform, find_eq, Outcome.map_andThen]
      simp only [Call.searches, if_true, isSingle, settle, Bool.false_eq_true, if_false,
        Outcome.map_map]
      rfl
  | queryFor predicate arguments keywords parameters => rfl
  | finder name arguments keywords parameters =>
      rw [perform, call_eq, Outcome.map_andThen]
      rfl

/-! ### What a call searches, and what comes of it -/

/-- Planning searches nothing. -/
theorem searched_plan (repository : Repository) (call : Call) :
    (repository.plan call).searched = [] := by
  unfold plan
  cases repository.question call with
  | error error => rfl
  | ok question =>
      rw [ask, queryFor]
      split
      · rfl
      · split <;> rfl

/-- The queries that a call sends to the directory. -/
def logged (repository : Repository) (call : Call) : List Query :=
  if call.searches then (repository.plan call).result.toOption.toList else []

/-- What a search comes to, by the answer to its query. -/
inductive Concludes : (one : Bool) → Except String (List α) → Except CallError (Found α) → Prop where
  | failed (one : Bool) (failure : String) :
      Concludes one (.error failure) (.error (.directory failure))
  | all (entries : List α) : Concludes false (.ok entries) (.ok (.entries entries))
  | none : Concludes true (.ok []) (.ok (.entry .none))
  | only (entry : α) : Concludes true (.ok [entry]) (.ok (.entry (some entry)))
  | several {entries : List α} (many : 1 < entries.length) :
      Concludes true (.ok entries) (.error (.severalEntries entries.length))

theorem searched_settle (directory : Directory α) (one : Bool) (query : Query) :
    (settle directory one query).searched = [query] := by
  unfold settle search
  cases directory query with
  | error failure => cases one <;> rfl
  | ok entries =>
      cases one with
      | false => rfl
      | true => rcases entries with _ | ⟨entry, _ | ⟨other, rest⟩⟩ <;> rfl

theorem concludes_settle (directory : Directory α) (one : Bool) (query : Query) :
    Concludes one (directory query) (settle directory one query).result := by
  unfold settle search
  cases directory query with
  | error failure => cases one <;> exact .failed _ failure
  | ok entries =>
      cases one with
      | false => exact .all entries
      | true =>
          rcases entries with _ | ⟨entry, _ | ⟨other, rest⟩⟩
          · exact .none
          · exact .only entry
          · exact .several (by simp)

/-- What comes of a call: it fails where it is planned; or it gives the query; or it searches and comes
to what the answer leads to. -/
inductive Answers (repository : Repository) (directory : Directory α) :
    Call → Except CallError (Reply α) → Prop where
  | refused {call : Call} {error : CallError}
      (planned : (repository.plan call).result = .error error) :
      Answers repository directory call (.error error)
  | query {call : Call} {query : Query} (still : call.searches = false)
      (planned : (repository.plan call).result = .ok query) :
      Answers repository directory call (.ok (.query query))
  | found {call : Call} {query : Query} {result : Except CallError (Found α)}
      (searches : call.searches = true) (planned : (repository.plan call).result = .ok query)
      (concluded : Concludes (repository.isSingle call) (directory query) result) :
      Answers repository directory call (result.map .found)

/-- A call sends the query that it is planned for, if there is one and if the call searches. -/
theorem searched_perform (directory : Directory α) (call : Call) :
    (repository.perform directory call).searched = repository.logged call := by
  rw [perform_eq, logged]
  cases planned : (repository.plan call).result with
  | error error =>
      rw [Outcome.andThen_of_error planned, searched_plan]
      cases call.searches <;> rfl
  | ok query =>
      rw [Outcome.andThen_of_ok planned, searched_plan]
      cases call.searches with
      | false => rfl
      | true =>
          rw [if_pos rfl, Outcome.searched_map, searched_settle]
          rfl

theorem answers_perform (directory : Directory α) (call : Call) :
    repository.Answers directory call (repository.perform directory call).result := by
  rw [perform_eq]
  cases planned : (repository.plan call).result with
  | error error =>
      rw [Outcome.andThen_of_error planned]
      exact .refused planned
  | ok query =>
      rw [Outcome.andThen_of_ok planned]
      cases searches : call.searches with
      | false => exact .query searches planned
      | true =>
          rw [if_pos rfl, Outcome.result_map]
          exact .found searches planned (concludes_settle directory _ query)

/-- Of a directory only the answers to the queries that a call sends matter for the call. -/
theorem perform_congr {directory directory' : Directory α} {call : Call}
    (same : ∀ query ∈ repository.logged call, directory query = directory' query) :
    repository.perform directory call = repository.perform directory' call := by
  rw [perform_eq, perform_eq]
  cases planned : (repository.plan call).result with
  | error error => rw [Outcome.andThen_of_error planned, Outcome.andThen_of_error planned]
  | ok query =>
      rw [Outcome.andThen_of_ok planned, Outcome.andThen_of_ok planned]
      cases searches : call.searches with
      | false => rfl
      | true =>
          have sent : query ∈ repository.logged call := by
            simp [logged, searches, planned, Except.toOption]
          have settled (one : Bool) : settle directory one query = settle directory' one query := by
            unfold settle search
            rw [same query sent]
          rw [settled]

/-- A finder that does not stray asks for the predicate that its own finder name is read as. -/
theorem exists_finderQuestion {name descriptor : String} {declaration : Declaration}
    {keywords : List (String × Value)} (read : repository.kind.IsRead)
    (chosen : repository.kind.entity = some repository.entity)
    (found : repository.kind.member? name = some (.finder declaration))
    (own : declaration.name = name)
    (named : (Member.finder declaration).descriptor? = some descriptor)
    (apart : finderCall.clash? keywords = none) (arguments : List Value)
    (parameters : Option SearchParameters) :
    ∃ finder, Finder.parse repository.entity descriptor = .ok finder ∧
      repository.question (.finder name arguments keywords parameters) =
        .ok ⟨some finder.predicate, arguments, keywords,
          parameters.or declaration.parameters⟩ := by
  have readings := read.readings repository.entity chosen
  have nearest := RepositoryKind.descriptor?_eq_of_member? found named
  obtain ⟨finder, parsed⟩ := readings.exists_parse nearest
  have known : repository.kind.finder? name = some finder :=
    readings.lookup_eq_some_iff.2 ⟨descriptor, nearest, parsed⟩
  refine ⟨finder, parsed, ?_⟩
  simp only [question, finderQuestion, found, apart, own, known]

/-! ### Too many entries -/

theorem question_ne_severalEntries (repository : Repository) (call : Call) (count : Nat) :
    repository.question call ≠ .error (.severalEntries count) := by
  have expressions (expression : Option Expression) (parameters : Option SearchParameters) :
      expressionQuestion expression parameters ≠ .error (.severalEntries count) := by
    unfold expressionQuestion
    split
    · simp
    · split <;> simp
  cases call with
  | find expression parameters => exact expressions expression parameters
  | findOne expression parameters => exact expressions expression parameters
  | findAll parameters => exact expressions none parameters
  | queryFor predicate arguments keywords parameters => simp [question]
  | finder name arguments keywords parameters =>
      unfold question finderQuestion
      dsimp only
      split
      · simp
      · simp
      · split
        · simp
        · split <;> simp

theorem plan_ne_severalEntries (repository : Repository) (call : Call) (count : Nat) :
    (repository.plan call).result ≠ .error (.severalEntries count) := by
  unfold plan
  cases asked : repository.question call with
  | error error =>
      intro failed
      cases failed
      exact question_ne_severalEntries repository call count asked
  | ok question =>
      rw [ask, queryFor]
      split
      · simp [Outcome.of]
      · split
        · simp [Outcome.of]
        · intro failed
          obtain ⟨error, -, same⟩ := mapError_eq_error_iff.1 failed
          cases same

theorem settle_eq_severalEntries_iff {directory : Directory α} {one : Bool} {query : Query}
    {count : Nat} :
    (settle directory one query).result = .error (.severalEntries count) ↔
      one = true ∧ ∃ entries, directory query = .ok entries ∧ entries.length = count ∧
        1 < count := by
  have concluded := concludes_settle directory one query
  constructor
  · intro failed
    rw [failed] at concluded
    generalize answered : directory query = answer at concluded
    cases concluded with
    | several many => exact ⟨rfl, _, rfl, rfl, many⟩
  · intro several
    obtain ⟨rfl, entries, answered, rfl, many⟩ := several
    rw [answered] at concluded
    generalize ended : (settle directory true query).result = result at concluded
    cases concluded with
    | none => simp at many
    | only entry => simp at many
    | several many => rfl

/-- A call finds too many entries just if it is for one at most and is answered with several. -/
theorem perform_eq_severalEntries_iff {directory : Directory α} {call : Call} {count : Nat} :
    (repository.perform directory call).result = .error (.severalEntries count) ↔
      repository.isSingle call = true ∧ ∃ query entries,
        (repository.plan call).result = .ok query ∧ directory query = .ok entries ∧
          entries.length = count ∧ 1 < count := by
  rw [perform_eq]
  cases planned : (repository.plan call).result with
  | error error =>
      rw [Outcome.andThen_of_error planned]
      have other : error ≠ .severalEntries count := by
        intro same
        rw [same] at planned
        exact plan_ne_severalEntries repository call count planned
      simp [other]
  | ok query =>
      rw [Outcome.andThen_of_ok planned]
      cases searches : call.searches with
      | false =>
          have several : repository.isSingle call = false := by
            cases call <;> first | rfl | cases searches
          simp [several, Outcome.of]
      | true =>
          dsimp only
          rw [if_pos rfl, Outcome.result_map, map_eq_error_iff, settle_eq_severalEntries_iff]
          simp

end Repository

/-! ### Sessions -/

namespace Session

variable {σ τ α : Type} {server : Server σ α} {repository : Repository}

/-- What calls do to a session depends on the queries that they send, each of them on its own. -/
theorem session_run (server : Server σ α) (repository : Repository) (session : Session σ)
    (calls : List Call) :
    (session.run server repository calls).1 =
      ⟨(calls.flatMap repository.logged).foldl server.next session.state,
        session.log ++ calls.flatMap repository.logged⟩ := by
  induction calls generalizing session with
  | nil => simp [run]
  | cons call rest ih =>
      rw [run]
      dsimp only
      rw [ih, step]
      simp [Repository.searched_perform]

theorem length_outcomes_run (server : Server σ α) (repository : Repository)
    (session : Session σ) (calls : List Call) :
    (session.run server repository calls).2.length = calls.length := by
  induction calls generalizing session with
  | nil => rfl
  | cons call rest ih => simp [run, ih]

/-- What comes of a call in a session is what comes of the call on its own, by the answers that the
server has then. -/
theorem getElem?_outcomes_run (session : Session σ) (before : List Call) (call : Call)
    (after : List Call) :
    (session.run server repository (before ++ call :: after)).2[before.length]? =
      some (repository.perform
        (server.answer (session.run server repository before).1.state) call) := by
  induction before generalizing session with
  | nil => rfl
  | cons first rest ih =>
      simp only [List.cons_append, run, List.length_cons, List.getElem?_cons_succ]
      exact ih _

/-- Each call of a session sends at most the query that it is planned for, and none if planning fails or
if it only makes the query.  What comes of it follows from this query and the answer to it: it is the
same in every session in which the query is answered in the same way, whatever calls and failures
there were before. -/
theorem run_exact (server : Server σ α) (repository : Repository) (session : Session σ)
    (calls : List Call) :
    (session.run server repository calls).1.log =
        session.log ++ calls.flatMap repository.logged ∧
      (session.run server repository calls).2.length = calls.length ∧
      ∀ before call after, calls = before ++ call :: after →
        ∃ outcome, (session.run server repository calls).2[before.length]? = some outcome ∧
          outcome.searched = repository.logged call ∧
          repository.Answers (server.answer (session.run server repository before).1.state) call
            outcome.result ∧
          (∀ count, outcome.result = .error (.severalEntries count) ↔
            repository.isSingle call = true ∧ ∃ query entries,
              (repository.plan call).result = .ok query ∧
                server.answer (session.run server repository before).1.state query =
                  .ok entries ∧
                entries.length = count ∧ 1 < count) ∧
          ∀ (τ : Type) (server' : Server τ α) (session' : Session τ) (before' after' : List Call),
            (∀ query ∈ repository.logged call,
              server.answer (session.run server repository before).1.state query =
                server'.answer (session'.run server' repository before').1.state query) →
            (session'.run server' repository (before' ++ call :: after')).2[before'.length]? =
              some outcome := by
  refine ⟨by rw [session_run], length_outcomes_run _ _ _ _, ?_⟩
  intro before call after split
  subst split
  refine ⟨_, getElem?_outcomes_run session before call after, Repository.searched_perform _ _,
    Repository.answers_perform _ _, fun count => Repository.perform_eq_severalEntries_iff, ?_⟩
  intro τ server' session' before' after' same
  rw [getElem?_outcomes_run session' before' call after', Repository.perform_congr same]

/-- A repository for persons. -/
def people : Repository := ⟨Kinds.people, .person, {}⟩

/-- A server that is busy at first, and then gives as many entries as it was sent queries before. -/
def slowServer : Server Nat Nat where
  answer sent _ := if sent = 0 then .error "busy" else .ok (List.range sent)
  next sent _ := sent + 1

/-- The query for all persons. -/
def everyone : Query where
  base := ⟨["ou=people"]⟩
  filter := "(&(objectclass=person)(objectclass=top))"
  scope := .subtree
  attributes := Entity.person.persistedAttributes
  countLimit := 0
  timeLimit := 0

theorem plan_everyone : (people.plan (.findOne none none)).result = .ok everyone := by
  have filter : (Filter.composite .conjunction Entity.person.classTests).text =
      everyone.filter := by
    decide +kernel
  show (Query.assemble .person (Filter.composite .conjunction Entity.person.classTests).text
    {} {}).mapError CallError.assembly = _
  rw [filter]
  rfl

/-- The last of three calls that come after a failed one finds too many persons, in this session and in
any other one that is as far. -/
theorem run_exact_people :
    ∃ outcome,
      (run slowServer people ⟨0, []⟩ [.finder "nobody" [] [] none, .findAll none,
        .findOne none none, .findOne none none]).2[3]? = some outcome ∧
      outcome.searched = [everyone] ∧ outcome.result = .error (.severalEntries 2) ∧
      (run slowServer people ⟨2, []⟩ [.findOne none none]).2[0]? = some outcome := by
  obtain ⟨-, -, each⟩ := run_exact slowServer people ⟨0, []⟩ [.finder "nobody" [] [] none,
    .findAll none, .findOne none none, .findOne none none]
  obtain ⟨outcome, listed, searched, -, several, same⟩ := each [.finder "nobody" [] [] none,
    .findAll none, .findOne none none] (.findOne none none) [] rfl
  have sent : (run slowServer people ⟨0, []⟩ [.finder "nobody" [] [] none, .findAll none,
      .findOne none none]).1.state = 2 := by
    rfl
  rw [sent] at several same
  refine ⟨outcome, listed, ?_, ?_, ?_⟩
  · rw [searched, Repository.logged, plan_everyone]
    rfl
  · exact (several 2).2 ⟨rfl, everyone, [0, 1], plan_everyone, rfl, rfl, by decide⟩
  · exact same Nat slowServer ⟨2, []⟩ [] [] fun query listed => rfl

end Session

end DirectoryQuery
