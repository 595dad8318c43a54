import RecordStore.Plan

namespace RecordStore.Plan

inductive Call where
  | find (name : String) (givens : List Given)
  | filter (connective : Connective) (name : String) (givens : List Given)
  | connect (connective : Connective)
  | sortBy (name : String)
  | slice (start stop : Int)

-- A plan is started by a finder. All other calls need a plan.
def call? (plan? : Option Plan) : Call → Option (Except Error Plan)
  | .find name givens => some (Plan.find name givens)
  | .filter c name givens => plan?.map (·.filter c name givens)
  | .connect c => plan?.map (·.connect c)
  | .sortBy name => plan?.map (·.sortBy name)
  | .slice start stop => plan?.map (·.slice start stop)

-- A failed call leaves the plan as it was.
def afterCall (plan? : Option Plan) (result : Option (Except Error Plan)) : Option Plan :=
  match result with
  | some (.ok plan) => some plan
  | _ => plan?

-- The results of all calls and the plan at the end.
def calls (plan? : Option Plan) : List Call → List (Option (Except Error Plan)) × Option Plan
  | [] => ([], plan?)
  | c :: cs =>
    let result := call? plan? c
    let (results, last) := calls (afterCall plan? result) cs
    (result :: results, last)

-- The plan at the end, unless a call fails.
def build? (plan? : Option Plan) : List Call → Option (Except Error Plan)
  | [] => plan?.map .ok
  | c :: cs =>
    match call? plan? c with
    | some (.ok plan) => build? (some plan) cs
    | failure => failure

end RecordStore.Plan
