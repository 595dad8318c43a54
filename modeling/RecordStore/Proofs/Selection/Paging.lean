import RecordStore.Proofs.NameMap
import RecordStore.Store

-- Pages of results: slices that follow one another make up the slice that they span.

namespace RecordStore

namespace Window

variable {start stop : Int64}

-- The width of the numbers that count items in memory.
def addressBits : Nat := 64

def addressed (word : UInt64) : Nat := (word.toBitVec.setWidth addressBits).toNat

-- The window in machine words. Differences wrap around, and conversions keep the bits for which
-- there is room.
def ofWords (start stop : Int64) : Except Error Window :=
  if start < 0 then .error (.negativeStart start.toInt)
  else if stop ≤ start then .error (.emptySlice start.toInt stop.toInt)
  else .ok ⟨addressed start.toUInt64, addressed (stop - start).toUInt64⟩

-- Neither the difference of the bounds nor any conversion changes a number, so that the window is
-- the one that it is without any limit to numbers.
structure Exact (start stop : Int64) : Prop where
  difference : (stop - start).toInt = stop.toInt - start.toInt
  offset : (start.toUInt64.toNat : Int) = start.toInt
  count : ((stop - start).toUInt64.toNat : Int) = (stop - start).toInt
  offsetAddress : addressed start.toUInt64 = start.toUInt64.toNat
  countAddress : addressed (stop - start).toUInt64 = (stop - start).toUInt64.toNat
  window : ofWords start stop = ofSlice start.toInt stop.toInt

theorem addressed_eq (word : UInt64) : addressed word = word.toNat := by
  rw [addressed, addressBits, BitVec.setWidth_eq, UInt64.toNat_toBitVec]

theorem toNat_toUInt64 {word : Int64} (nonneg : 0 ≤ word.toInt) :
    (word.toUInt64.toNat : Int) = word.toInt := by
  rw [Int64.toNat_toUInt64_of_le (Int64.le_iff_toInt_le.mpr nonneg)]
  exact Int.toNat_of_nonneg nonneg

-- How far bounds are apart that are not negative is a word itself.
theorem toInt_sub (nonneg : 0 ≤ start.toInt) (lt : start.toInt < stop.toInt) :
    (stop - start).toInt = stop.toInt - start.toInt := by
  have := stop.toInt_lt
  rw [Int64.toInt_sub]
  exact Int.bmod_eq_of_le (by omega) (by omega)

theorem ofWords_eq_ofSlice (start stop : Int64) :
    ofWords start stop = ofSlice start.toInt stop.toInt := by
  simp only [ofWords, ofSlice, Int64.lt_iff_toInt_lt, Int64.le_iff_toInt_le, Int64.toInt_zero]
  split
  case isTrue => rfl
  case isFalse negative =>
    split
    case isTrue => rfl
    case isFalse le =>
      have nonneg := Int.not_lt.mp negative
      have difference := toInt_sub nonneg (Int.not_le.mp le)
      have count : ((stop - start).toUInt64.toNat : Int) = (stop - start).toInt :=
        toNat_toUInt64 (by omega)
      rw [addressed_eq, addressed_eq, ← difference, ← count, ← toNat_toUInt64 nonneg]
      rfl

theorem exact_of_bounds (nonneg : 0 ≤ start.toInt) (lt : start.toInt < stop.toInt) :
    Exact start stop where
  difference := toInt_sub nonneg lt
  offset := toNat_toUInt64 nonneg
  count := toNat_toUInt64 (by have := toInt_sub nonneg lt; omega)
  offsetAddress := addressed_eq _
  countAddress := addressed_eq _
  window := ofWords_eq_ofSlice start stop

theorem ofSlice_eq_ok {start stop : Int} (nonneg : 0 ≤ start) (lt : start < stop) :
    ofSlice start stop = .ok ⟨start.toNat, (stop - start).toNat⟩ := by
  rw [ofSlice, if_neg (Int.not_lt.mpr nonneg), if_neg (Int.not_le.mpr lt)]

theorem apply_append (offset count next : Nat) (documents : List Fields) :
    apply (some ⟨offset, count⟩) documents ++ apply (some ⟨offset + count, next⟩) documents =
      apply (some ⟨offset, count + next⟩) documents := by
  simp only [apply]
  rw [List.take_add, List.drop_drop]

end Window

namespace Store

variable {env : Environment} {store : Store} {name : String} {plan : Plan} {results : List Fields}

-- The results of a plan from `start` on up to `stop`.
def page (env : Environment) (store : Store) (name : String) (plan : Plan) (start stop : Int) :
    Except Error (List Fields) := do
  store.find env name (← plan.slice start stop)

-- The window is cut out of the results when they have been found and sorted.
theorem find_window (env : Environment) (store : Store) (name : String) (plan : Plan)
    (window : Option Window) :
    store.find env name { plan with window := window } =
      (store.find env name { plan with window := none }).map (Window.apply window) := by
  unfold find
  cases store.collection name with
  | error e => rfl
  | ok c =>
    change Plan.select _ _ _ = (Plan.select _ _ _).map _
    unfold Plan.select
    change (plan.patterns env >>= _) = (plan.patterns env >>= _ : Except _ _).map _
    cases plan.patterns env <;> rfl

theorem page_eq (found : store.find env name plan = .ok results) (whole : plan.window = none)
    {start stop : Int} (nonneg : 0 ≤ start) (lt : start < stop) :
    store.page env name plan start stop =
      .ok (Window.apply (some ⟨start.toNat, (stop - start).toNat⟩) results) := by
  have same : { plan with window := none } = plan := whole ▸ rfl
  rw [page, Plan.slice, Window.ofSlice_eq_ok nonneg lt]
  change store.find env name _ = _
  rw [find_window, same, found]
  rfl

-- Slices that meet follow one another in the results, and a slice has the results between its
-- bounds as far as there are any.
theorem pages_fit (found : store.find env name plan = .ok results) (whole : plan.window = none)
    {a b c : Int64} (nonneg : 0 ≤ a) (ab : a < b) (bc : b < c) :
    ∃ first second, store.page env name plan a.toInt b.toInt = .ok first ∧
      store.page env name plan b.toInt c.toInt = .ok second ∧
      store.page env name plan a.toInt c.toInt = .ok (first ++ second) ∧
      (first.length : Int) = min (b.toInt - a.toInt) (max (results.length - a.toInt) 0) ∧
      (∀ i : Nat, first[i]? = if a.toInt + i < b.toInt then results[a.toInt.toNat + i]? else none) ∧
      Window.Exact a b ∧ Window.Exact b c ∧ Window.Exact a c := by
  rw [Int64.le_iff_toInt_le, Int64.toInt_zero] at nonneg
  rw [Int64.lt_iff_toInt_lt] at ab bc
  have offset : b.toInt.toNat = a.toInt.toNat + (b.toInt - a.toInt).toNat := by omega
  have count : (c.toInt - a.toInt).toNat =
      (b.toInt - a.toInt).toNat + (c.toInt - b.toInt).toNat := by omega
  refine ⟨_, _, page_eq found whole nonneg ab, page_eq found whole (by omega) bc, ?_, ?_,
    fun i => ?_, Window.exact_of_bounds nonneg ab, Window.exact_of_bounds (by omega) bc,
      Window.exact_of_bounds nonneg (by omega)⟩
  · rw [page_eq found whole nonneg (Int.lt_trans ab bc), count, ← Window.apply_append, ← offset]
  · simp only [Window.apply, List.length_take, List.length_drop]
    omega
  · rw [Window.apply, List.getElem?_take, List.getElem?_drop]
    have within : i < (b.toInt - a.toInt).toNat ↔ a.toInt + i < b.toInt := by omega
    simp only [within]

-- The second of three results, two of which are tied, and what follows up to the
-- greatest bound there is.
theorem pages_fit_at_the_limit :
    let env : Environment := ⟨fun _ => "k", fun _ => none⟩
    let documents : List Fields := [
      .ofList [("kind", .string "x"), ("age", .ofInt 1)],
      .ofList [("kind", .string "y"), ("age", .ofInt 1)],
      .ofList [("kind", .string "x"), ("age", .ofInt 2)],
      .ofList [("kind", .string "x"), ("age", .ofInt 1)]]
    let store : Store := ⟨.ofList [("items", ⟨.document, documents, []⟩)], 0⟩
    let plan : Plan := {
      filters := [⟨"kind", .equal, .eq, .value (.string "x"), "kind_0"⟩]
      connective? := none
      sorts := [⟨"age", .descending⟩]
      window := none
    }
    ∃ results first second, store.find env "items" plan = .ok results ∧ results.length = 3 ∧
      store.page env "items" plan 1 2 = .ok first ∧ first.length = 1 ∧
      store.page env "items" plan 2 9223372036854775807 = .ok second ∧
      store.page env "items" plan 1 9223372036854775807 = .ok (first ++ second) := by
  intro env documents store plan
  have found : store.find env "items" plan =
      .ok (sortDocuments plan.sorts (documents.filter (plan.holds ∅))) := rfl
  have three : (sortDocuments plan.sorts (documents.filter (plan.holds ∅))).length = 3 := by
    rw [sortDocuments, List.length_mergeSort]
    decide +kernel
  have ⟨first, second, page, next, both, length, _⟩ :=
    pages_fit found rfl (a := 1) (b := 2) (c := 9223372036854775807) (by decide) (by decide)
      (by decide)
  refine ⟨_, first, second, found, three, page, ?_, next, both⟩
  rw [three] at length
  exact Int.ofNat_inj.mp length

end Store
end RecordStore
