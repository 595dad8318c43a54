import RecordStore.Proofs.Plan.Question
import RecordStore.Query.Chain

namespace RecordStore

namespace Plan

variable {plan plan' : Plan} {plan? : Option Plan} {before calls : List Call} {call : Call}
  {c : Connective}

-- Calls go on from where those before them have led.
theorem build?_append (h : build? plan? before = some (.ok plan)) (calls : List Call) :
    build? plan? (before ++ calls) = build? (some plan) calls := by
  induction before generalizing plan? with
  | nil =>
    cases plan? with
    | none => cases h
    | some => cases h; rfl
  | cons call before ih =>
    rw [List.cons_append, build?]
    rw [build?] at h
    cases called : call? plan? call with
    | none => rw [called] at h; cases h
    | some result =>
      rw [called] at h
      cases result with
      | error => cases h
      | ok next => exact ih h

theorem build?_append_of_error (h : build? plan? before = some (.error e)) (calls : List Call) :
    build? plan? (before ++ calls) = some (.error e) := by
  induction before generalizing plan? with
  | nil => cases plan? <;> cases h
  | cons call before ih =>
    rw [List.cons_append, build?]
    rw [build?] at h
    cases called : call? plan? call with
    | none => rw [called] at h; cases h
    | some result =>
      rw [called] at h
      cases result with
      | error => cases h; rfl
      | ok next => exact ih h

theorem build?_singleton (plan? : Option Plan) (call : Call) :
    build? plan? [call] = call? plan? call := by
  unfold build?
  cases call? plan? call with
  | none => rfl
  | some result => cases result <;> rfl

-- It makes no difference whether the connective of a filter has been called for before.
theorem build?_connect_filter (plan : Plan) (c : Connective) (name : String) (givens : List Given) :
    build? (some plan) [.connect c, .filter c name givens] = some (plan.filter c name givens) := by
  unfold build?
  cases connected : plan.connect c with
  | error e => simp [call?, Plan.filter, connected, Bind.bind, Except.bind]
  | ok plan' =>
    have again : plan'.connect c = .ok plan' := by
      rw [eq_of_connect connected]
      exact if_pos rfl
    have called : call? (some plan) (.connect c) = some (.ok plan') := congrArg some connected
    rw [called]
    have same : plan'.filter c name givens = plan.filter c name givens := by
      simp only [Plan.filter, connected, again]
    exact (build?_singleton (some plan') _).trans (congrArg some same)

end Plan

namespace Chain

-- The calls for a plan that are the same as those of a chain.
inductive Makes : Chain → List Plan.Call → Prop where
  | findBy : Makes (.findBy name givens) [.find name givens]
  | filter (makes : Makes chain calls) :
    Makes (.filter chain c name givens) (calls ++ [.filter c name givens])
  | connected (makes : Makes chain calls) :
    Makes (.filter chain c name givens) (calls ++ [.connect c, .filter c name givens])
  | sortBy (makes : Makes chain calls) : Makes (.sortBy chain name) (calls ++ [.sortBy name])
  | slice (makes : Makes chain calls) :
    Makes (.slice chain start stop) (calls ++ [.slice start stop])

-- A query has the plan that is built, or fails with the same error.
def Alike (schema : Schema) (query : Except Error OpenQuery)
    (built : Option (Except Error Plan)) : Prop :=
  ∃ result, built = some result ∧ query = result.map (OpenQuery.mk schema)

variable {schema : Schema} {query : Except Error OpenQuery} {calls more : List Plan.Call}
  {chain chain' : Chain}
  {next : OpenQuery → Except Error OpenQuery}

theorem Alike.extend (alike : Alike schema query (Plan.build? none calls))
    (step : ∀ plan, Alike schema (next ⟨schema, plan⟩) (Plan.build? (some plan) more)) :
    Alike schema (query >>= next) (Plan.build? none (calls ++ more)) := by
  have ⟨result, built, eq⟩ := alike
  rw [eq]
  cases result with
  | error e => exact ⟨.error e, Plan.build?_append_of_error built more, rfl⟩
  | ok plan =>
    rw [Plan.build?_append built]
    exact step plan

theorem filter_eq_map (schema : Schema) (plan : Plan) (name : String) (givens : List Given) :
    BooleanExpression.filter ⟨⟨schema, plan⟩⟩ name givens =
      (plan.pushFilter name givens).map (OpenQuery.mk schema) := by
  rw [BooleanExpression.filter]
  cases plan.pushFilter name givens <;> rfl

theorem alike_filter (schema : Schema) (plan : Plan) (c : Connective) (name : String)
    (givens : List Given) :
    Alike schema (do (← OpenQuery.connect ⟨schema, plan⟩ c).filter name givens)
      (some (plan.filter c name givens)) := by
  refine ⟨_, rfl, ?_⟩
  simp only [OpenQuery.connect, BooleanExpression.filter, Plan.filter]
  cases plan.connect c with
  | error e => rfl
  | ok plan' => exact filter_eq_map schema plan' name givens

-- By induction on the calls of a chain.
theorem Makes.alike (makes : chain.Makes calls) (schema : Schema) :
    Alike schema (chain.run schema) (Plan.build? none calls) := by
  induction makes with
  | @findBy name givens =>
    rw [Plan.build?_singleton]
    refine ⟨_, rfl, ?_⟩
    simp only [run, Schema.findBy]
    cases Plan.find name givens <;> rfl
  | filter _ ih =>
    refine ih.extend fun plan => ?_
    rw [Plan.build?_singleton]
    exact alike_filter schema plan _ _ _
  | connected _ ih =>
    refine ih.extend fun plan => ?_
    rw [Plan.build?_connect_filter]
    exact alike_filter schema plan _ _ _
  | @sortBy _ _ name _ ih =>
    refine ih.extend fun plan => ?_
    rw [Plan.build?_singleton]
    refine ⟨_, rfl, ?_⟩
    simp only [OpenQuery.sortBy]
    cases plan.sortBy name <;> rfl
  | @slice _ _ start stop _ ih =>
    refine ih.extend fun plan => ?_
    rw [Plan.build?_singleton]
    refine ⟨_, rfl, ?_⟩
    simp only [OpenQuery.slice]
    cases plan.slice start stop <;> rfl

theorem makes_of_foldlM {before : List Plan.Call} (makes : chain.Makes before)
    (h : calls.foldlM extend? chain = some chain') : chain'.Makes (before ++ calls) := by
  induction calls generalizing chain before with
  | nil =>
    rw [List.append_nil]
    cases h
    exact makes
  | cons call calls ih =>
    rw [List.foldlM_cons] at h
    have ⟨next, extended, h⟩ := Option.bind_eq_some_iff.mp h
    rw [List.append_cons]
    refine ih ?_ h
    cases call with
    | find | connect => cases extended
    | filter => cases extended; exact .filter makes
    | sortBy => cases extended; exact .sortBy makes
    | slice => cases extended; exact .slice makes

-- Without a call for a connective alone, there is such a chain.
theorem exists_foldlM (extending : ∀ call ∈ calls, (∀ name givens, call ≠ .find name givens) ∧
    ∀ c, call ≠ .connect c) (chain : Chain) :
    ∃ chain', calls.foldlM extend? chain = some chain' := by
  induction calls generalizing chain with
  | nil => exact ⟨chain, rfl⟩
  | cons call calls ih =>
    have ⟨⟨not_find, not_connect⟩, others⟩ := List.forall_mem_cons.mp extending
    rw [List.foldlM_cons]
    cases call with
    | find name givens => exact absurd rfl (not_find name givens)
    | connect c => exact absurd rfl (not_connect c)
    | filter c name givens => exact ih others (chain.filter c name givens)
    | sortBy name => exact ih others (chain.sortBy name)
    | slice start stop => exact ih others (chain.slice start stop)

theorem makes_of_ofCalls? (h : ofCalls? name givens calls = some chain) :
    chain.Makes (.find name givens :: calls) :=
  makes_of_foldlM .findBy h

end Chain
end RecordStore
