import RecordStore.Plan.Call
import RecordStore.Schema.Access

-- Queries that are opened on a collection and extended, one call after the other.
--
-- A call for a connective gives no query. What it gives waits for the filter
-- that the connective joins.

namespace RecordStore

structure OpenQuery where
  schema : Schema
  plan : Plan

-- A query that waits for its next filter.
structure BooleanExpression where
  query : OpenQuery

def Schema.findBy (schema : Schema) (name : String) (givens : List Given) :
    Except Error OpenQuery := do
  return { schema, plan := ← Plan.find name givens }

namespace OpenQuery

def connect (q : OpenQuery) (connective : Connective) : Except Error BooleanExpression := do
  return ⟨{ q with plan := ← q.plan.connect connective }⟩

def sortBy (q : OpenQuery) (name : String) : Except Error OpenQuery := do
  return { q with plan := ← q.plan.sortBy name }

def slice (q : OpenQuery) (start stop : Int) : Except Error OpenQuery := do
  return { q with plan := ← q.plan.slice start stop }

def compile (q : OpenQuery) : Query := .find q.schema.name q.plan

def run {σ : Type} (q : OpenQuery) (conn : Connector σ) (s : σ) : Except Error (List Record) × σ :=
  q.schema.find conn q.plan s

end OpenQuery

def BooleanExpression.filter (e : BooleanExpression) (name : String) (givens : List Given) :
    Except Error OpenQuery := do
  return { e.query with plan := ← e.query.plan.pushFilter name givens }

-- The calls by which a query is made. There is a connective exactly where a filter follows.
inductive Chain where
  | findBy (name : String) (givens : List Given)
  | filter (chain : Chain) (connective : Connective) (name : String) (givens : List Given)
  | sortBy (chain : Chain) (name : String)
  | slice (chain : Chain) (start stop : Int)

namespace Chain

def run (schema : Schema) : Chain → Except Error OpenQuery
  | findBy name givens => schema.findBy name givens
  | filter chain c name givens => do (← (← chain.run schema).connect c).filter name givens
  | sortBy chain name => do (← chain.run schema).sortBy name
  | slice chain start stop => do (← chain.run schema).slice start stop

-- A call for a plan alone does not always extend a query.
def extend? (chain : Chain) : Plan.Call → Option Chain
  | .filter c name givens => some (chain.filter c name givens)
  | .sortBy name => some (chain.sortBy name)
  | .slice start stop => some (chain.slice start stop)
  | .find .. | .connect _ => none

def ofCalls? (name : String) (givens : List Given) (calls : List Plan.Call) : Option Chain :=
  calls.foldlM extend? (findBy name givens)

end Chain

end RecordStore
