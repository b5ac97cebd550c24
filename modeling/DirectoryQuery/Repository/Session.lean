/-
Module: DirectoryQuery.Repository.Session
Purpose: Sessions: calls of a repository, one after the other, while a server answers the queries.  The
  server may change with each query that it is sent; the repository stays as it is.
Main exports:
  Call, Reply, Repository.perform, Server, Session, Session.step, Session.run
-/
import DirectoryQuery.Repository.Search

namespace DirectoryQuery

/-- The calls that a repository takes. -/
inductive Call where
  | find (expression : Option Expression) (parameters : Option SearchParameters)
  | findOne (expression : Option Expression) (parameters : Option SearchParameters)
  | findAll (parameters : Option SearchParameters)
  | queryFor (predicate : Option Predicate) (arguments : List Value)
    (keywords : List (String × Value)) (parameters : Option SearchParameters)
  | finder (name : String) (arguments : List Value) (keywords : List (String × Value))
    (parameters : Option SearchParameters)

/-- What a call gives. -/
inductive Reply (α : Type) where
  | query (query : Query)
  | found (found : Repository.Found α)

/-- Performs a call. -/
def Repository.perform {α : Type} (repository : Repository) (directory : Directory α) :
    Call → Outcome (Reply α)
  | .find expression parameters =>
    (repository.find directory expression parameters).map fun entries => .found (.entries entries)
  | .findOne expression parameters =>
    (repository.findOne directory expression parameters).map fun entry => .found (.entry entry)
  | .findAll parameters =>
    (repository.find directory none parameters).map fun entries => .found (.entries entries)
  | .queryFor predicate arguments keywords parameters =>
    (repository.queryFor predicate arguments keywords parameters).map .query
  | .finder name arguments keywords parameters =>
    (repository.call directory name arguments keywords parameters).map .found

/-- A server: what it answers to a query in a state of its own, and the state that it is in then. -/
structure Server (σ α : Type) where
  answer : σ → Directory α
  next : σ → Query → σ

/-- A session: the state of the server, and the queries that it was sent. -/
structure Session (σ : Type) where
  state : σ
  log : List Query

namespace Session

variable {σ α : Type}

/-- The session after a call, and what came of the call. -/
def step (server : Server σ α) (repository : Repository) (session : Session σ) (call : Call) :
    Session σ × Outcome (Reply α) :=
  let outcome := repository.perform (server.answer session.state) call
  (⟨outcome.searched.foldl server.next session.state, session.log ++ outcome.searched⟩, outcome)

/-- The session after calls, one after the other, and what came of each. -/
def run (server : Server σ α) (repository : Repository) :
    Session σ → List Call → Session σ × List (Outcome (Reply α))
  | session, [] => (session, [])
  | session, call :: rest =>
    let (between, outcome) := session.step server repository call
    let (final, outcomes) := run server repository between rest
    (final, outcome :: outcomes)

end Session

end DirectoryQuery
