import RecordStore.Environment
import RecordStore.Value.Order

namespace RecordStore

variable (env : Environment)

-- A missing attribute reads as `null`.
def NameMap.value (document : Fields) (name : String) : Value :=
  (document.get? name).getD .null

namespace Filter

def readPattern (p : PatternSource) : Except Error (String → Bool) :=
  match env.pattern p with
  | some occursIn => .ok occursIn
  | none => .error (.invalidPattern p.source)

-- The pattern of a filter that takes one. A string stands for its own source.
def pattern (f : Filter) : Except Error (String → Bool) :=
  match f.operand with
  | .pattern p => readPattern env p
  | .value (.string source) => readPattern env ⟨source, false⟩
  | .value v => .error (.patternType f.field v)

end Filter

-- The patterns of a plan by the names of their filters.
abbrev Patterns := NameMap (String → Bool)

-- All patterns are read before any document is looked at.
def Plan.patterns (plan : Plan) : Except Error Patterns :=
  (plan.filters.filter (·.operator.takesPattern)).foldlM
    (fun patterns f => do return patterns.insert f.bind (← f.pattern env)) ∅

namespace Filter

-- Patterns occur in strings only.
def patternOccurs (f : Filter) (patterns : Patterns) (v : Value) : Bool :=
  match patterns.get? f.bind, v with
  | some occursIn, .string text => occursIn text
  | _, _ => false

-- A pattern is never compared as a value.
def operandValue (f : Filter) : Value :=
  match f.operand with
  | .value v => v
  | .pattern _ => .null

def holds (patterns : Patterns) (document : Fields) (f : Filter) : Bool :=
  let field := document.value f.field
  let operand := f.operandValue
  let reversed := f.comparator.isReversed
  match f.operator with
  | .eq => field.equals operand
  | .ne => !field.equals operand
  | .gt => field.compare operand == .gt
  | .gte => field.compare operand != .lt
  | .lt => field.compare operand == .lt
  | .lte => field.compare operand != .gt
  | .isIn => if reversed then operand.isIn field else field.isIn operand
  | .notIn => if reversed then !operand.isIn field else !field.isIn operand
  | .like => f.patternOccurs patterns field
  | .notLike => !f.patternOccurs patterns field
  | .allIn => operand.elements.all (·.isIn field)
  | .noneIn => !operand.elements.any (·.isIn field)
  | .anyIn => operand.elements.any (·.isIn field)
  | .anyNotIn => operand.elements.any fun v => !v.isIn field

end Filter

def Plan.holds (plan : Plan) (patterns : Patterns) (document : Fields) : Bool :=
  match plan.connective with
  | .and => plan.filters.all (·.holds patterns document)
  | .or => plan.filters.any (·.holds patterns document)

def SortKey.compare (key : SortKey) (a b : Fields) : Ordering :=
  match key.direction with
  | .ascending => (a.value key.field).compare (b.value key.field)
  | .descending => (b.value key.field).compare (a.value key.field)

-- The first key that tells the documents apart decides.
def compareBy : List SortKey → Fields → Fields → Ordering
  | [], _, _ => .eq
  | key :: keys, a, b => (key.compare a b).then (compareBy keys a b)

-- Documents that no key tells apart keep their order.
def sortDocuments (keys : List SortKey) (documents : List Fields) : List Fields :=
  documents.mergeSort fun a b => compareBy keys a b != .gt

def Window.apply (window : Option Window) (documents : List Fields) : List Fields :=
  match window with
  | some w => (documents.drop w.offset).take w.count
  | none => documents

def Plan.select (plan : Plan) (documents : List Fields) : Except Error (List Fields) := do
  let patterns ← plan.patterns env
  return Window.apply plan.window
    (sortDocuments plan.sorts (documents.filter (plan.holds patterns)))

end RecordStore
