import RecordStore.Proofs.Double
import RecordStore.Value.Order

-- The order of values is a total preorder: it does not depend on the side from which it is looked
-- at, it is transitive, and values that tie stand for each other.

namespace RecordStore

theorem Double.compare_swap (x y : Double) : (x.compare y).swap = y.compare x :=
  Std.OrientedOrd.eq_swap.symm

-- One step upwards after another makes a step upwards, and a tie only of two ties.
theorem then_of_isLE (cmp : α → α → Ordering) [Std.TransCmp cmp] {a b c : α} (ab : (cmp a b).isLE)
    (bc : (cmp b c).isLE) : cmp a c = (cmp a b).then (cmp b c) := by
  cases eq : cmp a b with
  | lt => exact Std.TransCmp.lt_of_lt_of_isLE eq bc
  | eq => exact Std.TransCmp.congr_left eq
  | gt => rw [eq] at ab; cases ab

theorem then_then_of_isLE {ab bc ac ab' bc' ac' : Ordering}
    (first : ab.isLE → bc.isLE → ac = ab.then bc) (rest : ab'.isLE → bc'.isLE → ac' = ab'.then bc')
    (le : (ab.then ab').isLE) (le' : (bc.then bc').isLE) :
    ac.then ac' = (ab.then ab').then (bc.then bc') := by
  cases ab <;> cases bc <;> simp_all
  cases ab' <;> simp_all

namespace Value

variable {a b : Value}

mutual

theorem compare_swap (a b : Value) : (a.compare b).swap = b.compare a := by
  -- Values of different types are compared by their ranks alone.
  cases a <;> cases b <;> try rfl
  case bool.bool a b => exact Std.OrientedOrd.eq_swap.symm
  case number.number a b => exact Double.compare_swap a.toDouble b.toDouble
  case string.string a b => exact Std.OrientedOrd.eq_swap.symm
  case array.array as bs => exact compareItems_swap as bs
  case object.object as bs =>
    obtain ⟨_, _, as⟩ := as
    exact compareMembers_swap as bs.values

theorem compareItems_swap (as bs : List Value) :
    (compareItems as bs).swap = compareItems bs as := by
  match as, bs with
  | [], [] | [], _ :: _ | _ :: _, [] => rfl
  | a :: as, b :: bs =>
    rw [compareItems, compareItems, Ordering.swap_then, compare_swap a b, compareItems_swap as bs]

theorem compareMembers_swap {ms ns : List String} (as : Values Value ms) (bs : Values Value ns) :
    (compareMembers as bs).swap = compareMembers bs as := by
  match ms, ns, as, bs with
  | _, _, .nil, .nil | _, _, .nil, .cons _ _ | _, _, .cons _ _, .nil => rfl
  | m :: _, n :: _, .cons a as, .cons b bs =>
    have names : (Ord.compare m n).swap = Ord.compare n m := Std.OrientedOrd.eq_swap.symm
    rw [compareMembers, compareMembers, Ordering.swap_then, Ordering.swap_then, names,
      compare_swap a b, compareMembers_swap as bs]

end

theorem equals_comm (a b : Value) : a.equals b = b.equals a := by
  rw [equals, equals, ← compare_swap b a]
  cases b.compare a <;> rfl

-- Nothing else ranks with `null`.
theorem equals_null_iff {v : Value} : v.equals .null ↔ v = .null := by
  cases v with
  | null => simp [equals, compare]
  | _ => simp only [equals, compare, rank, reduceCtorEq, iff_false]; decide

theorem compare_of_rank_lt (lt : a.rank < b.rank) : a.compare b = .lt := by
  cases a <;> cases b <;> first | rfl | simp [rank] at lt

theorem rank_le_of_isLE (le : (a.compare b).isLE) : a.rank ≤ b.rank := by
  refine Nat.le_of_not_lt fun gt => ?_
  rw [← compare_swap, compare_of_rank_lt gt] at le
  cases le

mutual

theorem compare_then (a b c : Value) (ab : (a.compare b).isLE) (bc : (b.compare c).isLE) :
    a.compare c = (a.compare b).then (b.compare c) := by
  rcases Nat.lt_or_eq_of_le (rank_le_of_isLE ab) with lt | same
  · rw [compare_of_rank_lt lt, compare_of_rank_lt (Nat.lt_of_lt_of_le lt (rank_le_of_isLE bc))]
    rfl
  rcases Nat.lt_or_eq_of_le (rank_le_of_isLE bc) with lt | same'
  · rw [compare_of_rank_lt lt, compare_of_rank_lt (same ▸ lt)]
    cases eq : a.compare b <;> simp_all
  -- What is left is three values of one type.
  cases a with
  | null =>
    cases b <;> cases same
    cases c <;> cases same'
    rfl
  | bool a | number a | string a =>
    cases b <;> cases same
    cases c <;> cases same'
    exact then_of_isLE Ord.compare ab bc
  | array as =>
    cases b <;> cases same
    cases c <;> cases same'
    exact compareItems_then as _ _ ab bc
  | object as =>
    cases b <;> cases same
    cases c <;> cases same'
    obtain ⟨_, _, as⟩ := as
    exact compareMembers_then as _ _ ab bc
termination_by structural a

theorem compareItems_then (as bs cs : List Value) (ab : (compareItems as bs).isLE)
    (bc : (compareItems bs cs).isLE) :
    compareItems as cs = (compareItems as bs).then (compareItems bs cs) := by
  match as, bs, cs with
  | [], [], _ => rfl
  | [], _ :: _, _ :: _ => rfl
  | _ :: _, [], _ => cases ab
  | _, _ :: _, [] => cases bc
  | a :: as, b :: bs, c :: cs =>
    exact then_then_of_isLE (compare_then a b c) (compareItems_then as bs cs) ab bc
termination_by structural as

theorem compareMembers_then {ls ms ns : List String} (as : Values Value ls) (bs : Values Value ms)
    (cs : Values Value ns) (ab : (compareMembers as bs).isLE) (bc : (compareMembers bs cs).isLE) :
    compareMembers as cs = (compareMembers as bs).then (compareMembers bs cs) := by
  match ls, ms, ns, as, bs, cs with
  | _, _, _, .nil, .nil, _ => rfl
  | _, _, _, .nil, .cons _ _, .cons _ _ => rfl
  | _, _, _, .cons _ _, .nil, _ => cases ab
  | _, _, _, _, .cons _ _, .nil => cases bc
  | l :: _, m :: _, n :: _, .cons a as, .cons b bs, .cons c cs =>
    have names := then_of_isLE Ord.compare (a := l) (b := m) (c := n)
    exact then_then_of_isLE names
      (then_then_of_isLE (compare_then a b c) (compareMembers_then as bs cs)) ab bc
termination_by structural as

end

instance : Std.TransCmp compare where
  eq_swap := (compare_swap _ _).symm
  isLE_trans {a b c} ab bc := by
    rw [compare_then a b c ab bc]
    cases eq : a.compare b <;> simp_all

theorem compareItems_eq (as bs : List Value) : compareItems as bs = as.compareLex compare bs := by
  induction as generalizing bs with
  | nil => cases bs <;> rfl
  | cons a as ih =>
    cases bs with
    | nil => rfl
    | cons b bs => rw [compareItems, ih, List.compareLex_cons_cons]

theorem compareMembers_eq {ms ns : List String} (as : Values Value ms) (bs : Values Value ns) :
    compareMembers as bs = as.entries.compareLex
      (fun e f => (Ord.compare e.1 f.1).then (e.2.compare f.2)) bs.entries := by
  induction as generalizing ns with
  | nil => cases bs <;> rfl
  | cons a as ih =>
    cases bs with
    | nil => rfl
    | cons b bs =>
      rw [compareMembers, ih, Values.entries, Values.entries, List.compareLex_cons_cons,
        Ordering.then_assoc]

-- The types in ascending order.
def typeNames : List String := ["null", "boolean", "number", "string", "array", "object"]

-- What an order of all values has to be like.
structure Orders (cmp : Value → Value → Ordering) : Prop where
  swap : ∀ a b, cmp b a = (cmp a b).swap
  self : ∀ a, cmp a a = .eq
  trans : ∀ a b c, (cmp a b).isLE → (cmp b c).isLE → (cmp a c).isLE
  congr : ∀ a b, cmp a b = .eq → ∀ c, cmp a c = cmp b c ∧ cmp c a = cmp c b
  types : typeNames.Pairwise fun s t => ∀ a b, a.typeName = s → b.typeName = t → cmp a b = .lt
  booleans : cmp (.bool false) (.bool true) = .lt
  numbers : ∀ m n, cmp (.number m) (.number n) = m.toDouble.compare n.toDouble
  -- What is denoted decides, and only integers of a magnitude above `2 ^ 53` are rounded.
  denoted : ∀ m n, cmp (.number m) (.number n) = Ord.compare m.rounded n.rounded
  unrounded : ∀ m n, (∀ k ∈ [m, n], ∀ i range, k = .int i range → i.natAbs ≤ 2 ^ 53) →
    cmp (.number m) (.number n) = Ord.compare m.value n.value
  strings : ∀ s t, cmp (.string s) (.string t) = Ord.compare s t
  arrays : ∀ as bs, cmp (.array as) (.array bs) = as.compareLex cmp bs
  beginnings : ∀ as b bs, cmp (.array as) (.array (as ++ b :: bs)) = .lt
  objects : ∀ as bs, cmp (.object as) (.object bs) =
    as.entries.compareLex (fun e f => (Ord.compare e.1 f.1).then (cmp e.2 f.2)) bs.entries

theorem compare_of_typeNames :
    typeNames.Pairwise fun s t =>
      ∀ a b : Value, a.typeName = s → b.typeName = t → a.compare b = .lt := by
  have listed (v : Value) : typeNames[v.rank]? = some v.typeName := by cases v <;> rfl
  have distinct : typeNames.Nodup := by decide
  have rank_eq {v : Value} {i : Nat} (h : i < typeNames.length) (eq : v.typeName = typeNames[i]) :
      v.rank = i :=
    ((List.getElem?_inj h distinct).mp (by rw [listed, eq, List.getElem?_eq_getElem h])).symm
  refine List.pairwise_iff_getElem.mpr fun i j hi hj lt a b ha hb => compare_of_rank_lt ?_
  rwa [rank_eq hi ha, rank_eq hj hb]

theorem compareItems_append_cons (as : List Value) (b : Value) (bs : List Value) :
    compareItems as (as ++ b :: bs) = .lt := by
  induction as with
  | nil => rfl
  | cons a as ih =>
    have tie : a.compare a = .eq := Std.ReflCmp.compare_self
    rw [List.cons_append, compareItems, tie, ih]
    rfl

-- Numbers are ordered by the finite numbers that are nearest to them.
theorem compare_number (m n : Number) :
    (Value.number m).compare (.number n) = Ord.compare m.rounded n.rounded :=
  Double.compare_eq m.toDouble n.toDouble

theorem compare_number_of_le {m n : Number}
    (fits : ∀ k ∈ [m, n], ∀ i range, k = .int i range → i.natAbs ≤ 2 ^ 53) :
    (Value.number m).compare (.number n) = Ord.compare m.value n.value := by
  rw [compare_number, Number.rounded_eq_value (fits m (by simp)),
    Number.rounded_eq_value (fits n (by simp))]

theorem compare_orders_values : Orders compare where
  swap a b := (compare_swap a b).symm
  self _ := Std.ReflCmp.compare_self
  trans _ _ _ ab bc := Std.TransCmp.isLE_trans ab bc
  congr _ _ eq _ := ⟨Std.TransCmp.congr_left eq, Std.TransCmp.congr_right eq⟩
  types := compare_of_typeNames
  booleans := rfl
  numbers _ _ := rfl
  denoted := compare_number
  unrounded _ _ fits := compare_number_of_le fits
  strings _ _ := rfl
  arrays := compareItems_eq
  beginnings := compareItems_append_cons
  objects as bs := compareMembers_eq as.values bs.values

-- Integers that are rounded to the same number tie, and so do the two zeros.
example : (Value.array [.ofInt 9007199254740993, .number (.double (.zero true))]).compare
    (.array [.ofInt 9007199254740992, .ofInt 0]) = .eq := by decide +kernel

end Value
end RecordStore
