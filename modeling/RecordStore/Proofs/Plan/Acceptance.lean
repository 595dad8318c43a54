import RecordStore.Proofs.Plan.Call
import RecordStore.Proofs.Query.Chain

namespace RecordStore.Plan

namespace Call

def connective? : Call → Option Connective
  | filter c .. | connect c => some c
  | find .. | sortBy _ | slice .. => none

-- The calls that add a filter.
def isFilter : Call → Bool
  | find .. | filter .. => true
  | connect _ | sortBy _ | slice .. => false

def sorter? : Call → Option String
  | sortBy name => some name
  | find .. | filter .. | connect _ | slice .. => none

def window? : Call → Option Window
  | slice start stop => some ⟨start.toNat, (stop - start).toNat⟩
  | find .. | filter .. | connect _ | sortBy _ => none

-- A connective is the same as all those before it.
def Agrees (call : Call) (before : List Call) : Prop :=
  ∀ c ∈ call.connective?, ∀ c' ∈ before.filterMap connective?, c' = c

theorem agrees_of_eq_none {call : Call} (h : call.connective? = none) (before : List Call) :
    call.Agrees before := by
  intro c held
  rw [h] at held
  cases held

-- What is wrong with a call that is not well-formed.
def defect : Call → ErrorKind
  | slice .. => .invalidBounds
  | find .. | filter .. | connect _ | sortBy _ => .grammar

-- How a call fails after others. The connective is compared before all else.
inductive Fails (before : List Call) : Call → ErrorKind → Prop where
  | mixed (disagrees : ¬call.Agrees before) : Fails before call .mixedConnective
  | malformed (agrees : call.Agrees before) (malformed : ¬call.WellFormed) :
    Fails before call call.defect

theorem Fails.not_accepted {call : Call} (fails : call.Fails before kind) :
    ¬(call.Agrees before ∧ call.WellFormed) := by
  cases fails with
  | mixed disagrees => exact fun accepted => disagrees accepted.1
  | malformed _ malformed => exact fun accepted => malformed accepted.2

end Call

-- All calls are as they should be, and no two of them differ in the connective.
def Acceptable (calls : List Call) : Prop :=
  (∀ call ∈ calls, call.WellFormed) ∧
    ∀ c₁ ∈ calls.filterMap Call.connective?, ∀ c₂ ∈ calls.filterMap Call.connective?, c₁ = c₂

variable {plan plan' : Plan} {name : String} {givens : List Given} {c : Connective} {call : Call}
  {before calls : List Call}

-- What the calls for a plan have made of it.
structure MadeBy (plan : Plan) (calls : List Call) : Prop where
  filters : ∃ conditions, List.Forall₂ Call.Asks (calls.filter Call.isFilter) conditions ∧
    plan.filters = conditions.mapIdx fun i c => c.filter i
  sorts : List.Forall₂ Name.IsSorter (calls.filterMap Call.sorter?) plan.sorts
  window : plan.window = (calls.filterMap Call.window?).getLast?
  connective : ∀ c, plan.connective? = some c ↔ c ∈ calls.filterMap Call.connective?

theorem madeBy_find (asks : (Call.find name givens).Asks condition) :
    MadeBy ⟨[condition.filter 0], none, [], none⟩ [.find name givens] where
  filters := ⟨[condition], .cons asks .nil, rfl⟩
  sorts := .nil
  window := rfl
  connective _ := ⟨nofun, nofun⟩

theorem MadeBy.connect_eq_ok (made : plan.MadeBy before) (agrees : (Call.connect c).Agrees before) :
    plan.connect c = .ok { plan with connective? := some c } := by
  unfold Plan.connect
  split
  case h_1 current held =>
    have eq := agrees c rfl current ((made.connective current).mp held)
    rw [if_pos eq, ← eq, ← held]
  case h_2 => rfl

theorem MadeBy.connect_eq_error (made : plan.MadeBy before)
    (disagrees : ¬(Call.connect c).Agrees before) :
    plan.connect c = .error .mixedConnective := by
  unfold Plan.connect
  split
  case h_1 current held =>
    refine if_neg fun eq => disagrees fun c' is c'' mem => ?_
    cases is
    have held' := (made.connective c'').mpr mem
    exact (Option.some.inj (held'.symm.trans held)).trans eq
  case h_2 free =>
    refine absurd (fun c' _ c'' mem => ?_) disagrees
    nomatch free.symm.trans ((made.connective c'').mpr mem)

theorem filterMap_concat_none {f : α → Option β} (h : f a = none) (xs : List α) :
    (xs ++ [a]).filterMap f = xs.filterMap f := by
  rw [List.filterMap_append, List.filterMap_cons_none h, List.filterMap_nil, List.append_nil]

-- A connective is held together with those that it agrees with.
theorem mem_connectives_iff (held : call.connective? = some c) (agrees : call.Agrees before)
    (c' : Connective) :
    some c = some c' ↔ c' ∈ (before ++ [call]).filterMap Call.connective? := by
  rw [List.filterMap_append, List.mem_append, List.filterMap_cons_some held, List.filterMap_nil,
    List.mem_singleton, Option.some_inj]
  constructor
  · exact fun eq => .inr eq.symm
  · intro mem
    cases mem with
    | inl mem => exact (agrees c held c' mem).symm
    | inr eq => exact eq.symm

-- What one call adds.
theorem MadeBy.extend (made : plan.MadeBy before) (agrees : call.Agrees before)
    (extended : plan.Extends call plan') : plan'.MadeBy (before ++ [call]) := by
  cases extended with
  | @filter _ _ _ condition asks =>
    have ⟨conditions, asked, eq⟩ := made.filters
    constructor
    case filters =>
      refine ⟨conditions ++ [condition], ?_, by simp [eq]⟩
      rw [List.filter_append]
      exact List.rel_append asked (.cons asks .nil)
    case sorts => rw [filterMap_concat_none rfl]; exact made.sorts
    case window => rw [filterMap_concat_none rfl]; exact made.window
    case connective => exact mem_connectives_iff rfl agrees
  | connect =>
    constructor
    case filters => simpa [Call.isFilter] using made.filters
    case sorts => rw [filterMap_concat_none rfl]; exact made.sorts
    case window => rw [filterMap_concat_none rfl]; exact made.window
    case connective => exact mem_connectives_iff rfl agrees
  | sortBy named =>
    constructor
    case filters => simpa [Call.isFilter] using made.filters
    case sorts =>
      rw [List.filterMap_append]
      exact List.rel_append made.sorts (.cons named .nil)
    case window => rw [filterMap_concat_none rfl]; exact made.window
    case connective => rw [filterMap_concat_none rfl]; exact made.connective
  | slice =>
    constructor
    case filters => simpa [Call.isFilter] using made.filters
    case sorts => rw [filterMap_concat_none rfl]; exact made.sorts
    case window => rw [List.filterMap_append]; exact List.getLast?_concat.symm
    case connective => rw [filterMap_concat_none rfl]; exact made.connective

theorem MadeBy.call?_of_extends (made : plan.MadeBy before) (agrees : call.Agrees before)
    (extended : plan.Extends call plan') : Plan.call? (some plan) call = some (.ok plan') := by
  cases extended with
  | filter asks =>
    have connected := made.connect_eq_ok agrees
    exact congrArg some (bind_eq_ok_iff.mpr ⟨_, connected, pushFilter_of_asks asks _⟩)
  | connect => exact congrArg some (made.connect_eq_ok agrees)
  | sortBy named => exact congrArg some (sortBy_of_isSorter named plan)
  | slice bounds => exact congrArg some (slice_of_bounds bounds plan)

-- A call that cannot be made fails as it should.
theorem MadeBy.call?_eq_error (made : plan.MadeBy before) (extending : ¬call.isFind)
    (refused : ¬(call.Agrees before ∧ call.WellFormed)) :
    ∃ e, Plan.call? (some plan) call = some (.error e) ∧ call.Fails before e.kind := by
  cases call with
  | find => exact absurd rfl extending
  | filter c name givens =>
    cases Classical.em ((Call.filter c name givens).Agrees before) with
    | inl agrees =>
      have eq : plan.filter c name givens =
          Plan.pushFilter { plan with connective? := some c } name givens := by
        rw [Plan.filter, made.connect_eq_ok agrees]
        rfl
      cases result : Plan.pushFilter { plan with connective? := some c } name givens with
      | ok plan' => exact absurd ⟨agrees, wellFormed_of_pushFilter result c⟩ refused
      | error e =>
        refine ⟨e, congrArg some (eq.trans result), ?_⟩
        rw [kind_of_pushFilter result]
        exact .malformed agrees fun wellFormed => refused ⟨agrees, wellFormed⟩
    | inr disagrees =>
      have failed := made.connect_eq_error disagrees
      exact ⟨_, congrArg some (bind_eq_error_iff.mpr (.inl failed)), .mixed disagrees⟩
  | connect c =>
    have disagrees : ¬(Call.connect c).Agrees before := fun agrees => refused ⟨agrees, trivial⟩
    exact ⟨_, congrArg some (made.connect_eq_error disagrees), .mixed disagrees⟩
  | sortBy name =>
    have agrees : (Call.sortBy name).Agrees before := Call.agrees_of_eq_none rfl before
    cases result : plan.sortBy name with
    | ok plan' => exact absurd ⟨agrees, wellFormed_of_sortBy result⟩ refused
    | error e =>
      refine ⟨e, congrArg some result, ?_⟩
      rw [kind_of_sortBy result]
      exact .malformed agrees fun wellFormed => refused ⟨agrees, wellFormed⟩
  | slice start stop =>
    have agrees : (Call.slice start stop).Agrees before := Call.agrees_of_eq_none rfl before
    cases result : plan.slice start stop with
    | ok plan' => exact absurd ⟨agrees, wellFormed_of_slice result⟩ refused
    | error e =>
      refine ⟨e, congrArg some result, ?_⟩
      rw [kind_of_slice result]
      exact .malformed agrees fun wellFormed => refused ⟨agrees, wellFormed⟩

theorem acceptable_nil : Acceptable [] := by
  simp [Acceptable]

theorem acceptable_concat_iff :
    Acceptable (before ++ [call]) ↔ Acceptable before ∧ call.Agrees before ∧ call.WellFormed := by
  constructor
  case mp =>
    intro ⟨wellFormed, same⟩
    have left {c} (mem : c ∈ before.filterMap Call.connective?) :
        c ∈ (before ++ [call]).filterMap Call.connective? := by
      rw [List.filterMap_append]
      exact List.mem_append_left _ mem
    refine ⟨⟨fun other mem => wellFormed other (List.mem_append_left _ mem),
      fun c₁ mem₁ c₂ mem₂ => same c₁ (left mem₁) c₂ (left mem₂)⟩, fun c held c' mem => ?_,
      wellFormed call (by simp)⟩
    exact same c' (left mem) c (List.mem_filterMap.mpr ⟨call, by simp, held⟩)
  case mpr =>
    intro ⟨⟨wellFormed, same⟩, agrees, last⟩
    refine ⟨List.forall_mem_append.mpr ⟨wellFormed, List.forall_mem_singleton.mpr last⟩, ?_⟩
    cases held : call.connective? with
    | none => rwa [filterMap_concat_none held]
    | some c =>
      intro c₁ mem₁ c₂ mem₂
      have eq₁ := (mem_connectives_iff held agrees c₁).mpr mem₁
      have eq₂ := (mem_connectives_iff held agrees c₂).mpr mem₂
      exact Option.some.inj (eq₁.symm.trans eq₂)

theorem Acceptable.of_append (acceptable : Acceptable (before ++ calls)) : Acceptable before := by
  refine ⟨fun call mem => acceptable.1 call (List.mem_append_left _ mem), fun c₁ mem₁ c₂ mem₂ => ?_⟩
  have same := acceptable.2
  rw [List.filterMap_append] at same
  exact same c₁ (List.mem_append_left _ mem₁) c₂ (List.mem_append_left _ mem₂)

-- The first call that is not accepted fails.
def Refused (calls : List Call) (kind : ErrorKind) : Prop :=
  ∃ before call after, calls = before ++ call :: after ∧ Acceptable before ∧ call.Fails before kind

theorem Refused.not_acceptable (refused : Refused calls kind) : ¬Acceptable calls := by
  have ⟨before, call, after, eq, _, fails⟩ := refused
  intro acceptable
  rw [eq, List.append_cons] at acceptable
  exact fails.not_accepted (acceptable_concat_iff.mp acceptable.of_append).2

-- By induction on the calls: either all of them are accepted, or else one of them is
-- the first that fails.
theorem MadeBy.build? (made : plan.MadeBy before) (acceptable : Acceptable before)
    (extending : ∀ call ∈ calls, ¬call.isFind) :
    (Acceptable (before ++ calls) ∧
      ∃ plan', Plan.build? (some plan) calls = some (.ok plan') ∧ plan'.MadeBy (before ++ calls)) ∨
    ∃ e, Plan.build? (some plan) calls = some (.error e) ∧ Refused (before ++ calls) e.kind := by
  induction calls generalizing plan before with
  | nil =>
    rw [List.append_nil]
    exact .inl ⟨acceptable, plan, rfl, made⟩
  | cons call calls ih =>
    obtain ⟨not_find, extending⟩ := List.forall_mem_cons.mp extending
    cases Classical.em (call.Agrees before ∧ call.WellFormed) with
    | inl accepted =>
      obtain ⟨plan', extended⟩ := exists_extends plan accepted.2 not_find
      have acceptable' := acceptable_concat_iff.mpr ⟨acceptable, accepted⟩
      simp only [Plan.build?, made.call?_of_extends accepted.1 extended]
      rw [List.append_cons]
      exact ih (made.extend accepted.1 extended) acceptable' extending
    | inr refused =>
      obtain ⟨e, failed, fails⟩ := made.call?_eq_error not_find refused
      simp only [Plan.build?, failed]
      exact .inr ⟨e, rfl, before, call, calls, rfl, acceptable, fails⟩

theorem build?_find (name : String) (givens : List Given)
    (extending : ∀ call ∈ calls, ¬call.isFind) :
    (Acceptable (.find name givens :: calls) ∧
      ∃ plan, build? none (.find name givens :: calls) = some (.ok plan) ∧
        plan.MadeBy (.find name givens :: calls)) ∨
    ∃ e, build? none (.find name givens :: calls) = some (.error e) ∧
      Refused (.find name givens :: calls) e.kind := by
  have agrees : (Call.find name givens).Agrees [] := Call.agrees_of_eq_none rfl []
  cases Classical.em (Call.find name givens).WellFormed with
  | inl wellFormed =>
    obtain ⟨condition, asks⟩ := wellFormed
    have acceptable : Acceptable ([] ++ [.find name givens]) :=
      acceptable_concat_iff.mpr ⟨acceptable_nil, agrees, condition, asks⟩
    simp only [build?, call?, find_of_asks asks]
    exact (madeBy_find asks).build? acceptable extending
  | inr malformed =>
    cases result : Plan.find name givens with
    | ok plan => exact absurd (wellFormed_of_find result) malformed
    | error e =>
      simp only [build?, call?, result]
      refine .inr ⟨e, rfl, [], .find name givens, calls, rfl, acceptable_nil, ?_⟩
      rw [kind_of_find result]
      exact .malformed agrees malformed

-- The bounds of a slice are signed words, and so is their difference.
theorem window?_of_words {start stop : Int64}
    (bounds : (Call.slice start.toInt stop.toInt).WellFormed) :
    (stop - start).toInt = stop.toInt - start.toInt ∧
      (Call.slice start.toInt stop.toInt).window? =
        some ⟨start.toUInt64.toNat, (stop - start).toUInt64.toNat⟩ := by
  have ⟨positive, lt⟩ := bounds
  have start_nonneg : 0 ≤ start := Int64.le_iff_toInt_le.mpr positive
  have le : start ≤ stop := Int64.le_iff_toInt_le.mpr (Int.le_of_lt lt)
  have difference : (stop - start).toInt = stop.toInt - start.toInt := by
    have upper := stop.toInt_lt
    rw [Int64.toInt_sub, Int.bmod_eq_of_le] <;> omega
  refine ⟨difference, ?_⟩
  rw [Int64.toNat_toUInt64_of_le start_nonneg,
    Int64.toNat_toUInt64_of_le (Int64.sub_nonneg_of_le start_nonneg le), Call.window?, ← difference]
  rfl

-- The calls for a plan succeed if and only if they are acceptable, and otherwise the first that is
-- not fails. Chains of the same calls give the same.
theorem built_iff_acceptable (name : String) (givens : List Given) (calls : List Call)
    (extending : ∀ call ∈ calls, ¬call.isFind) :
    let all := Call.find name givens :: calls
    ((∃ plan, build? none all = some (.ok plan)) ↔ Acceptable all) ∧
    (¬Acceptable all → ∃ e, build? none all = some (.error e) ∧ Refused all e.kind) ∧
    (∀ plan, build? none all = some (.ok plan) → plan.MadeBy all) ∧
    (∀ start stop : Int64, .slice start.toInt stop.toInt ∈ all → Acceptable all →
      (stop - start).toInt = stop.toInt - start.toInt ∧
        (Call.slice start.toInt stop.toInt).window? =
          some ⟨start.toUInt64.toNat, (stop - start).toUInt64.toNat⟩) ∧
    (∀ (chain : Chain) (schema : Schema), chain.Makes all →
      Chain.Alike schema (chain.run schema) (build? none all)) ∧
    ((∀ c, .connect c ∉ calls) →
      ∃ chain, Chain.ofCalls? name givens calls = some chain ∧ chain.Makes all) := by
  intro all
  have built : (Acceptable all ∧ ∃ plan, build? none all = some (.ok plan) ∧ plan.MadeBy all) ∨
      ∃ e, build? none all = some (.error e) ∧ Refused all e.kind :=
        build?_find name givens extending
  refine ⟨?_, fun not_acceptable => ?_, fun plan success => ?_, fun start stop mem acceptable => ?_,
    fun chain schema makes => makes.alike schema, fun unconnected => ?_⟩
  case refine_1 =>
    cases built with
    | inl success =>
      have ⟨acceptable, plan, success, _⟩ := success
      exact ⟨fun _ => acceptable, fun _ => ⟨plan, success⟩⟩
    | inr failure =>
      have ⟨e, failed, refused⟩ := failure
      refine ⟨fun ⟨plan, success⟩ => ?_, fun acceptable => absurd acceptable refused.not_acceptable⟩
      nomatch failed.symm.trans success
  case refine_2 => exact built.resolve_left fun success => not_acceptable success.1
  case refine_3 =>
    cases built with
    | inl success' =>
      have ⟨_, plan', success', made⟩ := success'
      cases success'.symm.trans success
      exact made
    | inr failure =>
      have ⟨e, failed, _⟩ := failure
      nomatch failed.symm.trans success
  case refine_4 => exact window?_of_words (acceptable.1 _ mem)
  case refine_5 =>
    have chained :
        ∀ call ∈ calls, (∀ name givens, call ≠ .find name givens) ∧ ∀ c, call ≠ .connect c :=
      fun call mem => ⟨fun _ _ eq => extending call mem (eq ▸ rfl),
        fun c eq => unconnected c (eq ▸ mem)⟩
    have ⟨chain, of_calls⟩ := Chain.exists_foldlM chained (.findBy name givens)
    exact ⟨chain, of_calls, Chain.makes_of_ofCalls? of_calls⟩

-- A connective that has been called for without a filter binds all later ones. That is found out
-- before a name is read, or its values are counted.
theorem built_iff_acceptable_of_mixed :
    let find := Call.find "findByPriceGreaterThan" [.value .null]
    let calls :=
      [.connect .and, .sortBy "sortByNameAsc", .slice 2 5, .filter .and "nameNot" [], .slice 7 9]
    (∀ call ∈ calls, ¬call.isFind) ∧ Acceptable (find :: calls) ∧
      (∃ plan, build? none (find :: calls) = some (.ok plan) ∧ plan.window = some ⟨7, 2⟩ ∧
        plan.connective? = some .and) ∧
      ∃ e, build? none (find :: calls ++ [.filter .or "nameMatching" []]) = some (.error e) ∧
        e.kind = .mixedConnective ∧
        Refused (find :: calls ++ [.filter .or "nameMatching" []]) e.kind := by
  intro find calls
  have extending : ∀ call ∈ calls, ¬call.isFind := by simp [calls, Call.isFind]
  have extending' : ∀ call ∈ calls ++ [.filter .or "nameMatching" []], ¬call.isFind := by
    simp [calls, Call.isFind]
  have ⟨accepted, _, made, _⟩ :=
    built_iff_acceptable "findByPriceGreaterThan" [.value .null] calls extending
  have ⟨accepted', refused, _⟩ :=
    built_iff_acceptable "findByPriceGreaterThan" [.value .null] _ extending'
  have built : ∃ plan, build? none (find :: calls) = some (.ok plan) := ⟨_, rfl⟩
  have failed : build? none (find :: calls ++ [.filter .or "nameMatching" []]) =
      some (.error .mixedConnective) := rfl
  have ⟨plan, success⟩ := built
  have not_acceptable : ¬Acceptable (find :: calls ++ [.filter .or "nameMatching" []]) := by
    intro acceptable
    have ⟨_, success'⟩ := accepted'.mpr acceptable
    nomatch failed.symm.trans success'
  have ⟨e, failed', refused'⟩ := refused not_acceptable
  cases failed.symm.trans failed'
  have connected : plan.connective? = some .and :=
    ((made plan success).connective .and).mpr
      (List.mem_filterMap.mpr ⟨.connect .and, by simp [calls], rfl⟩)
  exact ⟨extending, accepted.mp built, ⟨plan, success, (made plan success).window, connected⟩,
    _, failed, rfl, refused'⟩

end RecordStore.Plan
