import RecordStore.Proofs.Schema.IndexRefusal
import RecordStore.Proofs.Store.Reachable

-- What the application of declared indexes leaves behind, and what it says about it.
--
-- The declared indexes that match none of the listed ones are created one after the other, where
-- the store leaves out those that a listed one matches. All of them are returned.

namespace RecordStore

namespace Index

-- None of the indexes is matched by one before it, be it listed already or not.
def Unmatched (former created : List Index) : Prop :=
  (∀ index ∈ created, ∀ listed ∈ former, ¬listed.Matches index) ∧
    created.Pairwise fun earlier later => ¬earlier.Matches later

variable {former created : List Index} {index : Index}

theorem unmatched_cons_iff : Unmatched former (index :: created) ↔
    (∀ listed ∈ former, ¬listed.Matches index) ∧ Unmatched (former ++ [index]) created := by
  simp only [Unmatched, List.forall_mem_cons, List.pairwise_cons, List.forall_mem_append]
  grind

end Index

namespace Collection

-- Of the indexes that are created one after the other those are added that
-- none before them matches.
theorem exists_foldl_createIndex (c : Collection) (indexes : List Index) :
    ∃ added, indexes.foldl createIndex c = { c with indexes := c.indexes ++ added } ∧
      added.Sublist indexes ∧
      (∀ index ∈ indexes, ∃ listed ∈ c.indexes ++ added, listed.Matches index) ∧
      (added = indexes ↔ Index.Unmatched c.indexes indexes) := by
  induction indexes generalizing c with
  | nil => exact ⟨[], by simp [Index.Unmatched]⟩
  | cons index indexes ih =>
    by_cases existing : ∃ listed ∈ c.indexes, listed.Matches index
    case pos =>
      obtain ⟨added, eq, sublist, matched, _⟩ := ih c
      obtain ⟨listed, mem, h⟩ := existing
      have unchanged := createIndex_of_matches ⟨listed, mem, h⟩
      refine ⟨added, by rw [List.foldl_cons, unchanged, eq], sublist.cons index, ?_, ?_⟩
      · rw [List.forall_mem_cons]
        exact ⟨⟨listed, List.mem_append_left added mem, h⟩, matched⟩
      · -- Too few are added, and the first of them is matched.
        have shorter : added ≠ index :: indexes := by
          intro same
          have length := same ▸ sublist.length_le
          exact Nat.not_succ_le_self _ length
        constructor
        · exact fun same => absurd same shorter
        · exact fun unmatched => absurd h (unmatched.1 index List.mem_cons_self listed mem)
    case neg =>
      push Not at existing
      obtain ⟨added, eq, sublist, matched, added_iff⟩ := ih (c.createIndex index)
      rw [createIndex_of_new existing] at eq matched added_iff
      refine ⟨index :: added, ?_, sublist.cons_cons index, ?_, ?_⟩
      · rw [List.foldl_cons, createIndex_of_new existing, eq]
        simp
      · simp only [List.append_assoc, List.singleton_append] at matched
        rw [List.forall_mem_cons]
        exact ⟨⟨index, by simp, .refl index⟩, matched⟩
      · rw [Index.unmatched_cons_iff, List.cons.injEq, added_iff]
        exact and_congr_left fun _ => ⟨fun _ => existing, fun _ => rfl⟩

-- Nothing is added if each of the indexes is matched already.
theorem foldl_createIndex_of_matches {c : Collection} {indexes : List Index}
    (existing : ∀ index ∈ indexes, ∃ listed ∈ c.indexes, listed.Matches index) :
    indexes.foldl createIndex c = c := by
  induction indexes with
  | nil => rfl
  | cons index indexes ih =>
    have ⟨first, rest⟩ := List.forall_mem_cons.mp existing
    rw [List.foldl_cons, createIndex_of_matches first, ih rest]

end Collection

namespace Schema

variable {schema : Schema} {store store' : Store} {env : Environment} {c : Collection}
  {index : Index} {indexes created : List Index}

theorem createIndexes_of_valid (valid : ∀ index ∈ indexes, index.validate = .ok ())
    (held : store.collections.get? schema.name = some c) :
    schema.createIndexes (Store.connector env) indexes store =
      (.ok (), store.setCollection schema.name (indexes.foldl Collection.createIndex c)) := by
  induction indexes generalizing store c with
  | nil => rw [List.foldl_nil, Store.setCollection, NameMap.insert_of_get? held]; rfl
  | cons index indexes ih =>
    obtain ⟨first, rest⟩ := List.forall_mem_cons.mp valid
    let store' := store.setCollection schema.name (c.createIndex index)
    have created :
        (Store.connector env).createIndex schema.name index store = (.ok (), store') := by
      have found := Store.collection_eq_ok_iff.mpr held
      simp [Store.connector, Store.createIndex, Store.change, first, found, store']
    have held' : store'.collections.get? schema.name = some (c.createIndex index) := by
      simp [store']
    simp only [createIndexes, created, ih rest held', List.foldl_cons]
    simp [store', Store.setCollection, NameMap.insert_insert]

theorem applyIndexes_of_valid (env : Environment)
    (valid : ∀ index ∈ schema.indexes, index.validate = .ok ())
    (held : store.collections.get? schema.name = some c) :
    schema.applyIndexes (Store.connector env) store =
      (.ok (Index.missing schema.indexes c.indexes), store.setCollection schema.name
        ((Index.missing schema.indexes c.indexes).foldl Collection.createIndex c)) := by
  unfold applyIndexes
  split
  case isTrue none =>
    rw [List.isEmpty_iff.mp none, Store.setCollection]
    simp [Index.missing, NameMap.insert_of_get? held]
  case isFalse =>
    have valid' : ∀ index ∈ Index.missing schema.indexes c.indexes, index.validate = .ok () :=
      fun index mem => valid index (Index.mem_missing_iff.mp mem).1
    have listed : (Store.connector env).indexes schema.name store = (.ok c.indexes, store) := by
      have found := Store.collection_eq_ok_iff.mpr held
      simp [Store.connector, Store.indexes, found, bind, Except.bind, pure, Except.pure]
    simp only [forM_eq_ok_iff.mpr valid, listed, createIndexes_of_valid valid' held]

-- Without the collection an application succeeds only if nothing is declared.
theorem applyIndexes_of_absent (absent : store.collections.get? schema.name = none)
    (h : schema.applyIndexes (Store.connector env) store = (.ok created, store')) :
    created = [] ∧ store' = store := by
  unfold applyIndexes at h
  split at h
  case isTrue => cases h; exact ⟨rfl, rfl⟩
  case isFalse =>
    have unknown : (Store.connector env).indexes schema.name store =
        (.error (.collectionNotFound schema.name), store) := by
      simp [Store.connector, Store.indexes, Store.collection, absent, bind, Except.bind]
    rw [unknown] at h
    split at h <;> cases h

-- What becomes of declared indexes beside those that are listed already, if `created` is returned:
-- what is added to the list, and what the next application returns.
structure Applied (declared former created added again : List Index) : Prop where
  created_eq : created = Index.missing declared former
  added_sublist : added.Sublist created
  added_eq_iff : added = created ↔ Index.Unmatched former created
  again_eq : again = Index.missing declared (former ++ added)
  narrower : ∀ index ∈ again, ∃ listed ∈ former ++ added, listed.Narrower index

namespace Applied

variable {declared former added again : List Index}

-- An application does all that it is there for just if none of the indexes that it returns is
-- matched by one before it.
theorem complete_iff (applied : Applied declared former created added again) :
    (added = created ∧ (∀ index ∈ declared, ∃ listed ∈ former ++ added, index.Matches listed) ∧
      again = []) ↔ Index.Unmatched former created := by
  rw [← applied.added_eq_iff, applied.again_eq, Index.missing_eq_nil_iff, and_self]
  refine and_iff_left_of_imp fun all index declares => ?_
  by_cases listed : ∃ listed ∈ former, index.Matches listed
  case pos =>
    obtain ⟨listed, mem, matched⟩ := listed
    exact ⟨listed, List.mem_append_left added mem, matched⟩
  case neg =>
    -- What has been missing is listed now.
    push Not at listed
    have mem : index ∈ created := applied.created_eq ▸ Index.mem_missing_iff.mpr ⟨declares, listed⟩
    exact ⟨index, List.mem_append_right former (all ▸ mem), .refl index⟩

-- That is so unless an index is repeated, or one narrower than a declared one is listed or
-- declared.
theorem of_wide (applied : Applied declared former created added again)
    (wide : ∀ index ∈ declared, ∀ listed ∈ former ++ declared, ¬listed.Narrower index) :
    (∀ index ∈ declared, ∃ listed ∈ former ++ added, index.Matches listed) ∧ again = [] ∧
      (added = created ↔ created.Pairwise fun earlier later => ¬earlier.Matches later) := by
  have created_mem (index) (mem : index ∈ created) :
      index ∈ declared ∧ ∀ listed ∈ former, ¬index.Matches listed :=
    Index.mem_missing_iff.mp (applied.created_eq ▸ mem)
  have listed_mem (listed) (mem : listed ∈ former ++ added) : listed ∈ former ++ declared := by
    rw [List.mem_append] at mem ⊢
    exact mem.imp_right fun mem => (created_mem listed (applied.added_sublist.subset mem)).1
  have settled : again = [] := by
    rw [List.eq_nil_iff_forall_not_mem]
    intro index mem
    have ⟨listed, mem', narrower⟩ := applied.narrower index mem
    have ⟨declares, _⟩ := Index.mem_missing_iff.mp (applied.again_eq ▸ mem)
    exact wide index declares listed (listed_mem listed mem') narrower
  have matched : ∀ index ∈ declared, ∃ listed ∈ former ++ added, index.Matches listed :=
    Index.missing_eq_nil_iff.mp (applied.again_eq.symm.trans settled)
  refine ⟨matched, settled, applied.added_eq_iff.trans ⟨And.right, fun pairwise => ⟨?_, pairwise⟩⟩⟩
  intro index mem listed mem' matched
  have ⟨declares, unmatched⟩ := created_mem index mem
  exact unmatched listed mem'
    (matched.symm (wide index declares listed (List.mem_append_left _ mem')))

end Applied

-- The second application finds nothing to add, whatever it returns.
theorem applyIndexes_again (env : Environment)
    (valid : ∀ index ∈ schema.indexes, index.validate = .ok ())
    (held : store.collections.get? schema.name = some c) :
    ∃ created added again store',
      store' = store.setCollection schema.name { c with indexes := c.indexes ++ added } ∧
      schema.applyIndexes (Store.connector env) store = (.ok created, store') ∧
      schema.applyIndexes (Store.connector env) store' = (.ok again, store') ∧
      Applied schema.indexes c.indexes created added again := by
  obtain ⟨added, eq, sublist, matched, added_iff⟩ :=
    c.exists_foldl_createIndex (Index.missing schema.indexes c.indexes)
  let c' := { c with indexes := c.indexes ++ added }
  let store' := store.setCollection schema.name c'
  let again := Index.missing schema.indexes c'.indexes
  have held' : store'.collections.get? schema.name = some c' := by simp [store']
  -- What is missing still was missing before, so that a listed index matches it.
  have existing : ∀ index ∈ again, ∃ listed ∈ c'.indexes, listed.Matches index := by
    intro index mem
    have ⟨declares, unmatched⟩ := Index.mem_missing_iff.mp mem
    have unmatched' : ∀ listed ∈ c.indexes, ¬index.Matches listed :=
      fun listed mem => unmatched listed (List.mem_append_left added mem)
    exact matched index (Index.mem_missing_iff.mpr ⟨declares, unmatched'⟩)
  have first := applyIndexes_of_valid env valid held
  have second := applyIndexes_of_valid env valid held'
  rw [eq] at first
  rw [Collection.foldl_createIndex_of_matches existing, Store.setCollection,
    NameMap.insert_of_get? held'] at second
  refine ⟨_, added, again, store', rfl, first, second, rfl, sublist, added_iff, rfl,
    fun index mem => ?_⟩
  obtain ⟨listed, mem', h⟩ := existing index mem
  by_contra! wide
  exact (Index.mem_missing_iff.mp mem).2 listed mem' (h.symm (wide listed mem'))

-- With an invalid index nothing is applied. Otherwise what is missing is returned, of which some or
-- all is added to what is listed, and another application adds nothing. It is added as it is
-- returned, each declared index matches a listed one, and another application returns nothing, just
-- if none of the returned indexes is matched by one before it. For one to be matched, an index has
-- to be repeated, or one that is narrower than a declared one has to be listed or declared.
theorem declared_indexes_applied (schema : Schema) (store : Store) (env : Environment) :
    ((∃ index ∈ schema.indexes, index.validate ≠ .ok ()) →
      ∃ e, schema.applyIndexes (Store.connector env) store = (.error e, store) ∧
        e.kind = .invalidIndex) ∧
    (store.collections.get? schema.name = none → ∀ created store',
      schema.applyIndexes (Store.connector env) store = (.ok created, store') →
      created = [] ∧ store' = store) ∧
    ∀ c, (∀ index ∈ schema.indexes, index.validate = .ok ()) →
      store.collections.get? schema.name = some c →
      ∃ created added again store',
        store' = store.setCollection schema.name { c with indexes := c.indexes ++ added } ∧
        schema.applyIndexes (Store.connector env) store = (.ok created, store') ∧
        schema.applyIndexes (Store.connector env) store' = (.ok again, store') ∧
        Applied schema.indexes c.indexes created added again ∧
        ((added = created ∧
            (∀ index ∈ schema.indexes, ∃ listed ∈ c.indexes ++ added, index.Matches listed) ∧
            again = []) ↔
          Index.Unmatched c.indexes created) ∧
        ((∀ index ∈ schema.indexes, ∀ listed ∈ c.indexes ++ schema.indexes,
            ¬listed.Narrower index) →
          (∀ index ∈ schema.indexes, ∃ listed ∈ c.indexes ++ added, index.Matches listed) ∧
          again = [] ∧
          (added = created ↔ created.Pairwise fun earlier later => ¬earlier.Matches later)) := by
  refine ⟨applyIndexes_of_invalid _ store,
    fun absent created store' => applyIndexes_of_absent absent, ?_⟩
  intro c valid held
  obtain ⟨created, added, again, store', eq, first, second, applied⟩ :=
    applyIndexes_again env valid held
  exact ⟨created, added, again, store', eq, first, second, applied, applied.complete_iff,
    applied.of_wide⟩

-- An index is listed already with its fields in another order, so that only the other one is
-- created.
theorem declared_indexes_applied_of_two :
    let env : Environment := ⟨fun _ => "k", fun _ => none⟩
    let schema : Schema := {
      name := "products"
      kind := .document
      indexes := [
        (Index.new "persistent" ["sku"]).setOption "unique" (.bool true),
        Index.new "persistent" ["brand", "category"]]
      beforeSave := writeUnchanged
    }
    let store := [Store.Operation.createCollection "products" .document,
      .createIndex "products" (Index.new "persistent" ["category", "brand"])].foldl
        (Store.after env) .empty
    ∃ created store', schema.applyIndexes (Store.connector env) store = (.ok created, store') ∧
      created.map (·.fields) = [["sku"]] ∧
      schema.applyIndexes (Store.connector env) store' = (.ok [], store') := by
  intro env schema store
  have valid : ∀ index ∈ schema.indexes, index.validate = .ok () := forM_eq_ok_iff.mp rfl
  have computed : (store.collections.get? "products").map (fun c => (c.indexes.map (·.fields),
      (Index.missing schema.indexes c.indexes).map (·.fields))) =
      some ([["_key"], ["category", "brand"]], [["sku"]]) := by decide +kernel
  obtain ⟨c, held, computed⟩ := Option.map_eq_some_iff.mp computed
  obtain ⟨listed_fields, missing_fields⟩ := Prod.mk.inj computed
  obtain ⟨_, _, applied⟩ := declared_indexes_applied schema store env
  obtain ⟨created, added, again, store', _, first, second, applied, _, of_wide⟩ :=
    applied c valid held
  have wide :
      ∀ index ∈ schema.indexes, ∀ listed ∈ c.indexes ++ schema.indexes, ¬listed.Narrower index := by
    intro index _ listed mem narrower
    have fields := List.mem_map_of_mem (f := (·.fields)) mem
    rw [List.map_append, listed_fields] at fields
    have nodup : ∀ fields ∈ [["_key"], ["category", "brand"]] ++ schema.indexes.map (·.fields),
        fields.Nodup := by
      decide
    exact narrower.not_nodup (nodup _ fields)
  have ⟨_, settled, _⟩ := of_wide wide
  have created_fields : created.map (·.fields) = [["sku"]] := by
    rw [applied.created_eq, missing_fields]
  exact ⟨created, store', first, created_fields, settled ▸ second⟩

-- An index that is narrower than a declared one keeps it from being added each time, although it is
-- returned as if it had been. A declared index that is repeated in another order is returned twice,
-- but added once.
theorem not_applied_beside_narrower :
    let env : Environment := ⟨fun _ => "k", fun _ => none⟩
    let schema : Schema := {
      name := "items"
      kind := .document
      indexes := [
        Index.new "persistent" ["a", "b"],
        Index.new "persistent" ["x", "y"],
        Index.new "persistent" ["y", "x"]]
      beforeSave := writeUnchanged
    }
    let store := [Store.Operation.createCollection "items" .document,
      .createIndex "items" (Index.new "persistent" ["a", "a"])].foldl (Store.after env) .empty
    let first := schema.applyIndexes (Store.connector env) store
    let second := schema.applyIndexes (Store.connector env) first.2
    let fields (indexes : List Index) := indexes.map (·.fields)
    store.Reachable ∧ (∀ index ∈ schema.indexes, index.validate = .ok ()) ∧
      (store.collections.get? "items").map (fields ·.indexes) = some [["_key"], ["a", "a"]] ∧
      first.1.toOption.map fields = some [["a", "b"], ["x", "y"], ["y", "x"]] ∧
      (first.2.collections.get? "items").map (fields ·.indexes) =
        some [["_key"], ["a", "a"], ["x", "y"]] ∧
      second.1.toOption.map fields = some [["a", "b"]] := by
  intro env schema store first second fields
  have legal (n : Nat) : LegalKey (env.key n) := by simp [env, LegalKey]
  have valid : ∀ index ∈ schema.indexes, index.validate = .ok () := forM_eq_ok_iff.mp rfl
  exact ⟨Store.Reachable.empty.run legal _, valid, by decide +kernel, by decide +kernel,
    by decide +kernel, by decide +kernel⟩

end Schema
end RecordStore
