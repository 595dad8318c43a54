import Mathlib.Data.List.SplitBy
import RecordStore.Pattern
import RecordStore.Proofs.Value.Sameness
import RecordStore.Store

-- The order of results: sort keys from the first to the last, and after them
-- the order of insertion.

namespace RecordStore

variable {keys more : List SortKey} {a b c : Fields}
  {documents sorted results results' : List Fields}

-- The values that the documents have for the key are not the other way round.
def SortKey.InOrder (key : SortKey) (a b : Fields) : Prop :=
  match key.direction with
  | .ascending => (a.value key.field).compare (b.value key.field) ≠ .gt
  | .descending => (a.value key.field).compare (b.value key.field) ≠ .lt

-- No key tells the documents apart.
def tied (keys : List SortKey) (a b : Fields) : Bool :=
  keys.all fun key => (a.value key.field).equals (b.value key.field)

-- Keys count only for documents that are tied by the keys before them.
def InOrder (keys : List SortKey) (a b : Fields) : Prop :=
  ∀ before key after, keys = before ++ key :: after → tied before a b → key.InOrder a b

-- The same documents, each as often as before. Those that are tied come as they came before.
structure Arranged (keys : List SortKey) (documents results : List Fields) : Prop where
  perm : results.Perm documents
  ordered : results.Pairwise (InOrder keys)
  stable : ∀ d, results.filter (tied keys d) = documents.filter (tied keys d)

namespace SortKey

variable {key : SortKey}

theorem compare_eq_iff :
    key.compare a b = .eq ↔ (a.value key.field).equals (b.value key.field) := by
  unfold compare
  cases key.direction with
  | ascending => exact Value.equals_iff.symm
  | descending => rw [Value.equals_comm, Value.equals_iff]

theorem isLE_compare_iff : (key.compare a b).isLE ↔ key.InOrder a b := by
  unfold compare InOrder
  cases key.direction with
  | ascending => exact Ordering.isLE_iff_ne_gt
  | descending =>
    change ((b.value key.field).compare (a.value key.field)).isLE ↔ _
    rw [← Value.compare_swap, Ordering.isLE_swap]
    exact Ordering.isGE_iff_ne_lt

instance : Std.TransCmp key.compare := by
  have ascending :
      Std.TransCmp fun a b : Fields => (a.value key.field).compare (b.value key.field) :=
    { eq_swap := Std.OrientedCmp.eq_swap, isLE_trans := Std.TransCmp.isLE_trans }
  unfold compare
  cases key.direction with
  | ascending => exact ascending
  | descending => exact Std.TransCmp.opposite

end SortKey

instance : Std.TransCmp (compareBy keys) := by
  induction keys with
  | nil => exact { eq_swap := rfl, isLE_trans := fun _ _ => rfl }
  | cons key keys ih =>
    exact inferInstanceAs (Std.TransCmp (compareLex key.compare (compareBy keys)))

theorem compareBy_eq_iff : compareBy keys a b = .eq ↔ tied keys a b := by
  induction keys with
  | nil => simp [compareBy, tied]
  | cons key keys ih =>
    rw [compareBy, Ordering.then_eq_eq, SortKey.compare_eq_iff, ih]
    simp [tied]

theorem compareBy_append (keys more : List SortKey) (a b : Fields) :
    compareBy (keys ++ more) a b = (compareBy keys a b).then (compareBy more a b) := by
  induction keys with
  | nil => rfl
  | cons key keys ih => rw [List.cons_append, compareBy, compareBy, ih, Ordering.then_assoc]

theorem filter_tied_append (keys more : List SortKey) (a : Fields) (documents : List Fields) :
    documents.filter (tied (keys ++ more) a) =
      (documents.filter (tied keys a)).filter (tied more a) := by
  rw [List.filter_filter]
  refine List.filter_congr fun b _ => ?_
  rw [tied, List.all_append, Bool.and_comm]
  rfl

theorem tied_self (keys : List SortKey) (a : Fields) : tied keys a a :=
  compareBy_eq_iff.mp Std.ReflCmp.compare_self

theorem tied_trans (ab : tied keys a b) (bc : tied keys b c) : tied keys a c := by
  rw [← compareBy_eq_iff] at *
  exact Std.TransCmp.eq_trans ab bc

theorem tied_comm : tied keys a b = tied keys b a := by
  rw [Bool.eq_iff_iff, ← compareBy_eq_iff, ← compareBy_eq_iff, Std.OrientedCmp.eq_comm]

theorem inOrder_cons {key : SortKey} :
    InOrder (key :: keys) a b ↔ key.InOrder a b ∧ (key.compare a b = .eq → InOrder keys a b) := by
  rw [SortKey.compare_eq_iff]
  constructor
  · intro inOrder
    refine ⟨inOrder [] key keys rfl rfl, fun tie before key' after eq ties => ?_⟩
    exact inOrder (key :: before) key' after (congrArg _ eq) (by simp_all [tied])
  · rintro ⟨first, rest⟩ (_ | ⟨_, before⟩) key' after eq ties
    · cases eq
      exact first
    · cases eq
      have ⟨tie, ties⟩ := (Bool.and_eq_true _ _).mp ties
      exact rest tie before key' after rfl ties

theorem inOrder_iff : InOrder keys a b ↔ (compareBy keys a b).isLE := by
  induction keys with
  | nil => simp [InOrder, compareBy]
  | cons key keys ih =>
    rw [inOrder_cons, ih, ← SortKey.isLE_compare_iff, compareBy]
    cases key.compare a b <;> simp

theorem inOrder_append :
    InOrder (keys ++ more) a b ↔ InOrder keys a b ∧ (tied keys a b → InOrder more a b) := by
  rw [inOrder_iff, inOrder_iff, inOrder_iff, compareBy_append, ← compareBy_eq_iff]
  cases compareBy keys a b <;> simp

-- Documents that are in order both ways are tied.
theorem tied_of_inOrder (ab : InOrder keys a b) (ba : InOrder keys b a) : tied keys a b := by
  rw [inOrder_iff] at ab ba
  exact compareBy_eq_iff.mp (Std.OrientedCmp.isLE_antisymm ab ba)

theorem inOrder_of_tied (tie : tied keys a b) : InOrder keys a b :=
  inOrder_iff.mpr (Ordering.isLE_of_eq_eq (compareBy_eq_iff.mpr tie))

theorem InOrder.trans (ab : InOrder keys a b) (bc : InOrder keys b c) : InOrder keys a c := by
  rw [inOrder_iff] at *
  exact Std.TransCmp.isLE_trans ab bc

theorem InOrder.total (keys : List SortKey) (a b : Fields) :
    InOrder keys a b ∨ InOrder keys b a := by
  have swap : compareBy keys b a = (compareBy keys a b).swap := Std.OrientedCmp.eq_swap
  rw [inOrder_iff, inOrder_iff, swap]
  cases compareBy keys a b <;> decide

instance : Std.Refl (InOrder keys) := ⟨fun a => inOrder_of_tied (tied_self keys a)⟩

instance : Trans (tied keys · ·) (tied keys · ·) (tied keys · ·) := ⟨tied_trans⟩

instance : Std.Symm (tied keys · ·) := ⟨fun _ _ tie => tied_comm ▸ tie⟩

theorem compareBy_bne_gt_iff : (compareBy keys a b != .gt) ↔ InOrder keys a b := by
  rw [inOrder_iff]
  cases compareBy keys a b <;> decide

-- Documents that are tied are in order whichever way they come, so that sorting keeps
-- them as they come.
theorem arranged_sortDocuments (keys : List SortKey) (documents : List Fields) :
    Arranged keys documents (sortDocuments keys documents) := by
  have trans (a b c : Fields) :
      (compareBy keys a b != .gt) → (compareBy keys b c != .gt) → (compareBy keys a c != .gt) := by
    simp only [compareBy_bne_gt_iff]
    exact InOrder.trans
  have total (a b : Fields) : (compareBy keys a b != .gt || compareBy keys b a != .gt) := by
    rw [Bool.or_eq_true, compareBy_bne_gt_iff, compareBy_bne_gt_iff]
    exact InOrder.total keys a b
  have perm := List.mergeSort_perm documents fun a b => compareBy keys a b != .gt
  refine ⟨perm, ?_, fun d => ?_⟩
  · exact (List.pairwise_mergeSort trans total documents).imp compareBy_bne_gt_iff.mp
  · have ordered :
        (documents.filter (tied keys d)).Pairwise fun a b => compareBy keys a b != .gt := by
      refine List.pairwise_filter.mpr (List.pairwise_of_forall fun a b da db => ?_)
      exact compareBy_bne_gt_iff.mpr (inOrder_of_tied (tied_trans (tied_comm ▸ da) db))
    have kept :=
      (List.sublist_mergeSort trans total ordered List.filter_sublist).filter (tied keys d)
    rw [List.filter_filter] at kept
    simp only [Bool.and_self] at kept
    exact (kept.eq_of_length (perm.filter _).length_eq.symm).symm

namespace Arranged

-- The first of the results is the first of those that are tied with it.
theorem unique (arranged : Arranged keys documents results)
    (arranged' : Arranged keys documents results') :
    results = results' := by
  have perm : results.Perm results' := arranged.perm.trans arranged'.perm.symm
  have ordered := arranged.ordered
  have ordered' := arranged'.ordered
  have stable (d : Fields) : results.filter (tied keys d) = results'.filter (tied keys d) :=
    (arranged.stable d).trans (arranged'.stable d).symm
  clear arranged arranged'
  induction results generalizing results' with
  | nil => exact perm.nil_eq
  | cons a results ih =>
    cases results' with
    | nil => cases perm.length_eq
    | cons b results' =>
      have ⟨first, rest⟩ := List.pairwise_cons.mp ordered
      have ⟨first', rest'⟩ := List.pairwise_cons.mp ordered'
      have tie : tied keys a b := by
        rcases List.mem_cons.mp (perm.mem_iff.mpr List.mem_cons_self) with rfl | b_mem
        · exact tied_self keys _
        rcases List.mem_cons.mp (perm.mem_iff.mp List.mem_cons_self) with rfl | a_mem
        · exact tied_self keys _
        · exact tied_of_inOrder (first b b_mem) (first' a a_mem)
      have eq : a = b := by
        have filtered := stable a
        rw [List.filter_cons_of_pos (tied_self keys a), List.filter_cons_of_pos tie] at filtered
        exact (List.cons.inj filtered).1
      cases eq
      refine congrArg _ (ih perm.cons_inv rest rest' fun d => ?_)
      have filtered := stable d
      simp only [List.filter_cons] at filtered
      split at filtered
      · exact (List.cons.inj filtered).2
      · exact filtered

theorem stable_append (arranged : Arranged more documents results) (keys : List SortKey)
    (d : Fields) :
    results.filter (tied (keys ++ more) d) = documents.filter (tied (keys ++ more) d) := by
  rw [filter_tied_append, List.filter_comm, arranged.stable d, List.filter_comm,
    ← filter_tied_append]

theorem append (arranged : Arranged keys sorted results) (before : Arranged more documents sorted) :
    Arranged (keys ++ more) documents results := by
  refine ⟨arranged.perm.trans before.perm, ?_, fun d => ?_⟩
  · refine List.pairwise_iff_forall_sublist.mpr fun {a b} sub =>
      inOrder_append.mpr ⟨?_, fun tie => ?_⟩
    · exact List.pairwise_iff_forall_sublist.mp arranged.ordered sub
    -- Two results that are tied have been in this order before.
    · have sub := sub.filter (tied keys a)
      rw [arranged.stable a, List.filter_cons_of_pos (tied_self keys a),
        List.filter_cons_of_pos tie] at sub
      exact List.pairwise_iff_forall_sublist.mp before.ordered (sub.trans List.filter_sublist)
  · rw [filter_tied_append, arranged.stable d, ← filter_tied_append, before.stable_append keys d]

end Arranged

theorem tied_of_mem_splitBy {run : List Fields} (mem : run ∈ results.splitBy (tied keys))
    (ha : a ∈ run)
    (hb : b ∈ run) : tied keys a b := by
  have ties : run.Pairwise (tied keys · ·) := (List.isChain_of_mem_splitBy mem).pairwise
  exact ties.forall_of_forall (fun d _ => tied_self keys d) ha hb

-- If neighbouring runs are told apart, then so are all of them, since what lies between two tied
-- documents is tied with both.
theorem not_tied_of_isChain {runs : List (List Fields)}
    (ordered : runs.flatten.Pairwise (InOrder keys))
    (apart : runs.IsChain fun run next => ∃ h h',
      tied keys (run.getLast h) (next.head h') = false) :
    runs.Pairwise fun run other => ∀ a ∈ run, ∀ b ∈ other, ¬tied keys a b := by
  induction runs with
  | nil => exact .nil
  | cons run runs ih =>
    cases runs with
    | nil => exact List.pairwise_singleton ..
    | cons next runs =>
      have ⟨⟨h, h', different⟩, apart⟩ := List.isChain_cons_cons.mp apart
      have ⟨run_ordered, rest_ordered, across⟩ := List.pairwise_append.mp ordered
      refine List.pairwise_cons.mpr ⟨fun other mem a a_mem b b_mem tie => ?_, ih rest_ordered apart⟩
      have head_mem : next.head h' ∈ (next :: runs).flatten :=
        List.mem_append_left _ (List.head_mem h')
      have to_last : InOrder keys a (run.getLast h) := run_ordered.rel_getLast a_mem
      have to_head : InOrder keys (run.getLast h) (next.head h') :=
        across _ (List.getLast_mem h) _ head_mem
      have from_head : InOrder keys (next.head h') b := by
        have := rest_ordered.rel_head (List.mem_flatten_of_mem mem b_mem)
        rwa [List.head_flatten_eq_head_head] at this
      have back : InOrder keys b a := inOrder_of_tied (tied_comm ▸ tie)
      have tie := tied_of_inOrder to_head ((from_head.trans back).trans to_last)
      rw [different] at tie
      cases tie

theorem perm_flatMap_sortDocuments (keys : List SortKey) (runs : List (List Fields)) :
    (runs.flatMap (sortDocuments keys)).Perm runs.flatten := by
  induction runs with
  | nil => exact .refl _
  | cons run runs ih => exact (arranged_sortDocuments keys run).perm.append ih

-- Within a run the further keys decide, and between runs those by which they are told apart.
theorem pairwise_flatMap_splitBy (ordered : results.Pairwise (InOrder keys)) (more : List SortKey) :
    ((results.splitBy (tied keys)).flatMap (sortDocuments more)).Pairwise
      (InOrder (keys ++ more)) := by
  rw [← List.flatten_splitBy (tied keys) results] at ordered
  have apart := not_tied_of_isChain ordered (List.isChain_getLast_head_splitBy ..)
  have sorted := arranged_sortDocuments more
  refine List.pairwise_flatMap.mpr ⟨fun run mem => ?_, ?_⟩
  · refine (sorted run).ordered.imp_of_mem fun {a b} ha hb inOrder =>
      inOrder_append.mpr ⟨?_, fun _ => inOrder⟩
    have a_mem := (sorted run).perm.subset ha
    have b_mem := (sorted run).perm.subset hb
    exact inOrder_of_tied (tied_of_mem_splitBy mem a_mem b_mem)
  · refine ((List.pairwise_flatten.mp ordered).2.and apart).imp
      fun {run other} ⟨inOrder, apart⟩ a ha b hb => ?_
    have a_mem := (sorted run).perm.subset ha
    have b_mem := (sorted other).perm.subset hb
    exact inOrder_append.mpr ⟨inOrder a a_mem b b_mem,
      fun tie => absurd tie (apart a a_mem b b_mem)⟩

-- What is arranged by some keys is arranged by more of them run by run.
theorem Arranged.flatMap_splitBy (arranged : Arranged keys documents results)
    (more : List SortKey) :
    Arranged (keys ++ more) documents
      ((results.splitBy (tied keys)).flatMap (sortDocuments more)) := by
  have flatten : (results.splitBy (tied keys)).flatten = results := List.flatten_splitBy ..
  refine ⟨?_, pairwise_flatMap_splitBy arranged.ordered more, fun d => ?_⟩
  · exact (flatten ▸ perm_flatMap_sortDocuments more _).trans arranged.perm
  · have same (run : List Fields) := (arranged_sortDocuments more run).stable_append keys d
    rw [List.filter_flatMap, List.flatMap_congr fun run _ => same run, List.flatMap_def,
      ← List.filter_flatten, flatten, filter_tied_append, arranged.stable d, ← filter_tied_append]

-- Further keys are sorted by beforehand.
theorem sortDocuments_append (keys more : List SortKey) (documents : List Fields) :
    sortDocuments (keys ++ more) documents = sortDocuments keys (sortDocuments more documents) :=
  (arranged_sortDocuments ..).unique
    ((arranged_sortDocuments ..).append (arranged_sortDocuments ..))

theorem sortDocuments_nil (documents : List Fields) : sortDocuments [] documents = documents :=
  List.mergeSort_of_pairwise (List.pairwise_of_forall fun _ _ => rfl)

theorem sortDocuments_eq_foldr (keys : List SortKey) (documents : List Fields) :
    sortDocuments keys documents = keys.foldr (fun key => sortDocuments [key]) documents := by
  induction keys with
  | nil => exact sortDocuments_nil documents
  | cons key keys ih => rw [List.foldr_cons, ← ih, ← sortDocuments_append, List.singleton_append]

namespace Store

variable {env : Environment} {store : Store} {name : String} {collection : Collection}
variable {plan? : Option Plan} {patterns : Patterns}

-- The documents that a plan finds, or else all documents, by the keys and without a window.
def unwindowed (env : Environment) (store : Store) (name : String) (plan? : Option Plan)
    (keys : List SortKey) : Except Error (List Fields) :=
  match plan? with
  | some plan => store.find env name { plan with sorts := keys, window := none }
  | none => store.all name keys

theorem unwindowed_eq (held : store.collections.get? name = some collection)
    (read : ∀ plan ∈ plan?, plan.patterns env = .ok patterns) (keys : List SortKey) :
    store.unwindowed env name plan? keys =
      .ok (sortDocuments keys
        (collection.documents.filter fun d => plan?.all (·.holds patterns d))) := by
  have known : store.collection name = .ok collection := by rw [Store.collection, held]
  cases plan? with
  | none =>
    have every : (fun _ : Fields => true) = fun d => Option.all (Plan.holds · patterns d) none :=
      rfl
    rw [unwindowed, all, known, ← every, List.filter_true]
    rfl
  | some plan =>
    have read : Plan.patterns env { plan with sorts := keys, window := none } = .ok patterns :=
      read plan rfl
    rw [unwindowed, find, known]
    change Plan.select _ _ _ = _
    rw [Plan.select, read]
    rfl

-- Results are arranged by their keys in the only way there is, which is also that of one sort after
-- the other from the last key to the first. One more key changes nothing but the order within the
-- runs of what has been tied before it.
theorem unwindowed_arranges (held : store.collections.get? name = some collection)
    (read : ∀ plan ∈ plan?, plan.patterns env = .ok patterns) (keys : List SortKey) :
    let found := collection.documents.filter fun d => plan?.all (·.holds patterns d)
    ∃ results, store.unwindowed env name plan? keys = .ok results ∧ Arranged keys found results ∧
      (∀ other, Arranged keys found other → other = results) ∧
      results = keys.foldr (fun key => sortDocuments [key]) found ∧
      ∀ key, store.unwindowed env name plan? (keys ++ [key]) =
        .ok ((results.splitBy (tied keys)).flatMap (sortDocuments [key])) := by
  intro found
  have arranged := arranged_sortDocuments keys found
  refine ⟨sortDocuments keys found, unwindowed_eq held read keys, arranged,
    fun _ other => other.unique arranged, sortDocuments_eq_foldr keys found, fun key => ?_⟩
  rw [unwindowed_eq held read]
  exact congrArg _ ((arranged_sortDocuments ..).unique (arranged.flatMap_splitBy [key]))

-- A missing value and `null`, and a key that is given twice.
theorem unwindowed_arranges_by_three :
    let env := Environment.ofKeys fun _ => "k"
    let documents : List Fields := [
      .ofList [("name", .string "ann"), ("age", .ofInt 2)],
      .ofList [("name", .string "al"), ("age", .null)],
      .ofList [("name", .string "al")],
      .ofList [("name", .string "bo"), ("age", .ofInt 3)],
      .ofList [("name", .string "ann"), ("age", .ofInt 1)]]
    let store : Store := ⟨.ofList [("people", ⟨.document, documents, []⟩)], 0⟩
    let plan : Plan := {
      filters := [⟨"name", .matching, .like, .pattern ⟨"^a", false⟩, "name_0"⟩]
      connective? := none
      sorts := []
      window := none
    }
    let keys : List SortKey := [⟨"name", .descending⟩, ⟨"age", .ascending⟩, ⟨"name", .ascending⟩]
    ∃ patterns results, plan.patterns env = .ok patterns ∧
      store.unwindowed env "people" (some plan) keys = .ok results ∧
      Arranged keys (documents.filter (plan.holds patterns)) results := by
  intro env documents store plan keys
  have readable : (plan.patterns env).isOk := by decide +kernel
  have held : store.collections.get? "people" = some ⟨.document, documents, []⟩ :=
    NameMap.get?_insert_self ..
  cases read : plan.patterns env with
  | error e => rw [read] at readable; cases readable
  | ok patterns =>
    have read : ∀ plan' ∈ some plan, plan'.patterns env = .ok patterns := by
      rintro _ ⟨⟩
      exact read
    have ⟨results, found, arranged, _⟩ := unwindowed_arranges held read keys
    exact ⟨patterns, results, rfl, found, arranged⟩

end Store
end RecordStore
