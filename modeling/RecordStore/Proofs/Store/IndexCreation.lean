import RecordStore.Proofs.Index.Matching
import RecordStore.Proofs.Store.Effect
import RecordStore.Proofs.Store.Uniqueness

-- The creation of unique indexes, and what they keep from a collection for as long as
-- it is not dropped.

namespace RecordStore

namespace Index

-- An index that does for another one: it is unique too, and it leaves out none but the documents
-- that the other one leaves out.
structure DoesFor (listed index : Index) : Prop where
  same : listed.Matches index
  unique : listed.options.get? "unique" = some (.bool true)
  sparse : listed.options.get? "sparse" = some (.bool true) →
    index.options.get? "sparse" = some (.bool true)

variable {listed index : Index} {a b : Fields}

theorem DoesFor.collide (does : listed.DoesFor index) (collide : index.Collide a b) :
    listed.Collide a b := by
  have ⟨_, _, fields⟩ := does.same
  refine ⟨fun f mem => collide.1 f (fields f mem), fun ⟨sparse, f, mem, missing⟩ => collide.2 ?_⟩
  exact ⟨does.sparse sparse, f, fields f mem, missing⟩

end Index

namespace Collection

-- A collection before and after something has been done with it, unless it is dropped.
inductive Step (name : String) (c c' : Collection) : Prop where
  | write (w : c.Write name c')
  | createIndex (eq : c' = c.createIndex index)

-- Two documents that agree on a unique index are kept apart by one of those that are listed.
def Enforces (c : Collection) (index : Index) : Prop :=
  ∃ listed ∈ c.indexes, listed.DoesFor index

variable {c c' : Collection} {index : Index} {name : String} {R : Fields → Fields → Prop}

-- No index is removed.
theorem Step.indexes_subset (step : c.Step name c') : c.indexes ⊆ c'.indexes := by
  cases step with
  | write w => rw [w.indexes_eq]; exact List.Subset.refl _
  | @createIndex index eq =>
    subst eq
    by_cases existing : ∃ listed ∈ c.indexes, listed.Matches index
    case pos => rw [createIndex_of_matches existing]; exact List.Subset.refl _
    case neg =>
      push Not at existing
      rw [createIndex_of_new existing]
      exact List.subset_append_left _ _

theorem Enforces.step (enforced : c.Enforces index) (step : c.Step name c') :
    c'.Enforces index := by
  obtain ⟨listed, mem, does⟩ := enforced
  exact ⟨listed, step.indexes_subset mem, does⟩

-- A relation between any two documents is kept if it leaves out none but those that collide.
theorem Enforces.pairwise_step (enforced : c.Enforces index) (secondary : index.type ≠ "primary")
    (symm : ∀ {a b}, R a b → R b a) (free : ∀ {a b}, ¬index.Collide a b → R a b)
    (pairwise : c.documents.Pairwise R) (step : c.Step name c') : c'.documents.Pairwise R := by
  cases step with
  | write w =>
    obtain ⟨listed, mem, does⟩ := enforced
    have listed_secondary : listed.type ≠ "primary" := does.same.1 ▸ secondary
    exact w.pairwise symm
      (fun apart => free (mt does.collide apart)) mem listed_secondary does.unique pairwise
  | createIndex eq =>
    rw [eq, createIndex_documents]
    exact pairwise

theorem Enforces.pairwise_steps (enforced : c.Enforces index) (secondary : index.type ≠ "primary")
    (symm : ∀ {a b}, R a b → R b a) (free : ∀ {a b}, ¬index.Collide a b → R a b)
    (pairwise : c.documents.Pairwise R) (steps : Relation.ReflTransGen (Step name) c c') :
    c'.Enforces index ∧ c'.documents.Pairwise R := by
  induction steps with
  | refl => exact ⟨enforced, pairwise⟩
  | tail _ step ih => exact ⟨ih.1.step step, ih.1.pairwise_step secondary symm free ih.2 step⟩

end Collection

namespace Store

variable {store store' : Store} {env : Environment} {name : String} {c : Collection} {index : Index}
  {op : Operation}

-- The collection is held, and single steps have led to what it is.
def Keeps (store : Store) (name : String) (c : Collection) : Prop :=
  ∃ c', store.collections.get? name = some c' ∧ Relation.ReflTransGen (Collection.Step name) c c'

theorem Keeps.of_held (held : store.collections.get? name = some c) : store.Keeps name c :=
  ⟨c, held, .refl⟩

theorem Written.keeps (written : store.Written store')
    (held : store.collections.get? name = some c) :
    store'.Keeps name c := by
  have ⟨c', held', writes⟩ := written name c held
  exact ⟨c', held', Relation.ReflTransGen.mono (fun _ _ w => .write w) _ _ writes⟩

-- A collection is held as long as it is not dropped.
theorem keeps_after (held : store.collections.get? name = some c) (env : Environment)
    (kept : op ≠ .dropCollection name) : (store.after env op).Keeps name c := by
  cases op with
  | createCollection target kind =>
    have atomic := store.createCollection_atomic target kind
    refine atomic.induction (motive := (·.Keeps name c)) (.of_held held) fun _ _ created => ?_
    have ⟨absent, eq⟩ := createCollection_eq_ok created
    have other : name ≠ target := fun same => by simp [← same, held] at absent
    exact .of_held (by simp [eq, NameMap.get?_insert, other, held])
  | dropCollection target =>
    have atomic := store.dropCollection_atomic target
    refine atomic.induction (motive := (·.Keeps name c)) (.of_held held) fun _ _ dropped => ?_
    have other : name ≠ target := fun same => kept (same ▸ rfl)
    exact .of_held (by simp [(dropCollection_eq_ok dropped).2, NameMap.get?_erase, other, held])
  | createIndex target index =>
    have atomic := store.createIndex_atomic target index
    refine atomic.induction (motive := (·.Keeps name c)) (.of_held held) fun _ _ created => ?_
    have ⟨d, _, held', eq⟩ := createIndex_eq_ok created
    by_cases same : name = target
    case pos =>
      subst same
      cases held.symm.trans held'
      exact ⟨c.createIndex index, by simp [eq], .single (.createIndex rfl)⟩
    case neg => exact .of_held (by simp [eq, NameMap.get?_insert, same, held])
  | importDocuments target documents =>
    exact (Written.connector_import store env target documents).keeps held
  | query q => exact (Written.connector_query store env q).keeps held

theorem keeps_run (held : store.collections.get? name = some c) (env : Environment)
    (ops : List Operation)
    (kept : .dropCollection name ∉ ops) : (ops.foldl (Store.after env) store).Keeps name c := by
  induction ops generalizing store c with
  | nil => exact .of_held held
  | cons op ops ih =>
    have ⟨c', held', steps⟩ := keeps_after held env (List.ne_of_not_mem_cons kept).symm
    have ⟨c'', held'', steps'⟩ := ih held' (List.not_mem_of_not_mem_cons kept)
    exact ⟨c'', held'', steps.trans steps'⟩

-- The creation of a unique index leaves all as it is if an index that matches it is listed, and
-- otherwise only lists the index. If what is listed then does for the index, from then on nothing
-- that is written brings about two documents that collide, until the collection is dropped.
theorem unique_once_created (secondary : index.type ≠ "primary")
    (unique : index.options.get? "unique" = some (.bool true))
    (created : (connector env).createIndex name index store = (.ok (), store')) :
    ∃ c, store.collections.get? name = some c ∧
      ((∃ listed ∈ c.indexes, listed.Matches index) → store' = store) ∧
      ((∀ listed ∈ c.indexes, ¬listed.Matches index) →
        store' = store.setCollection name { c with indexes := c.indexes ++ [index] }) ∧
      (((∃ listed ∈ c.indexes, listed.Matches index) → ∃ listed ∈ c.indexes, listed.DoesFor index) →
        ∀ ops : List Operation, .dropCollection name ∉ ops → ∃ c',
          (ops.foldl (Store.after env) store').collections.get? name = some c' ∧
          (c'.documents.Pairwise fun a b => index.Collide a b → a ∈ c.documents ∧ b ∈ c.documents) ∧
          ((c.documents.Pairwise fun a b => ¬index.Collide a b) →
            c'.documents.Pairwise fun a b => ¬index.Collide a b)) := by
  have ⟨c, _, held, eq⟩ := createIndex_eq_ok created
  refine ⟨c, held, fun existing => ?_, fun new => ?_, fun served ops kept => ?_⟩
  · rw [eq, Collection.createIndex_of_matches existing, setCollection_of_get? held]
  · rw [eq, Collection.createIndex_of_new new]
  · have held' : store'.collections.get? name = some (c.createIndex index) := by simp [eq]
    have enforced : (c.createIndex index).Enforces index := by
      by_cases existing : ∃ listed ∈ c.indexes, listed.Matches index
      case pos =>
        rw [Collection.createIndex_of_matches existing]
        exact served existing
      case neg =>
        push Not at existing
        rw [Collection.createIndex_of_new existing]
        exact ⟨index, by simp, .refl index, unique, id⟩
    have ⟨c', held'', steps⟩ := keeps_run held' env ops kept
    have documents := c.createIndex_documents index
    refine ⟨c', held'', ?_, fun apart => ?_⟩
    · refine (enforced.pairwise_steps secondary (fun old collide => (old collide.symm).symm)
        (fun apart collide => absurd collide apart) ?_ steps).2
      rw [documents]
      exact List.pairwise_of_forall_mem_list fun a mem b mem' _ => ⟨mem, mem'⟩
    · exact (enforced.pairwise_steps secondary (fun free collide => free collide.symm) id
        (documents ▸ apart) steps).2

-- Nothing collides when the index is created, and neither a third document nor a
-- change brings it about.
theorem unique_once_created_of_two :
    let env : Environment := ⟨fun _ => "k", fun _ => none⟩
    let index := (Index.new "persistent" ["x"]).setOption "unique" (.bool true)
    let document (key x : String) : Fields := .ofList [("_key", .string key), ("x", .string x)]
    let store := [Operation.createCollection "items" .document,
      .importDocuments "items" [document "a" "1", .ofList [("_key", .string "b")]]].foldl
        (Store.after env) .empty
    let ops := [Operation.importDocuments "items" [document "c" "1", document "d" "2"],
      .query (.update "items" "d" (document "d" "1"))]
    ∃ store' c, (connector env).createIndex "items" index store = (.ok (), store') ∧
      (ops.foldl (Store.after env) store').collections.get? "items" = some c ∧
      c.documents.length = 3 ∧
      c.documents.Pairwise fun a b => ¬index.Collide a b := by
  intro env index document store ops
  let store' := ((connector env).createIndex "items" index store).2
  have created : (connector env).createIndex "items" index store = (.ok (), store') :=
    Prod.ext (eq_ok_of_isOk (by decide +kernel)) rfl
  have computed : (store.collections.get? "items").map (fun c => (c.indexes.any (·.Matches index),
      decide (c.documents.Pairwise fun a b => ¬index.Collide a b))) = some (false, true) := by
        decide +kernel
  have size : ((ops.foldl (Store.after env) store').collections.get? "items").map
      (·.documents.length) = some 3 := by
    decide +kernel
  obtain ⟨c, held, _, _, kept⟩ := unique_once_created (by decide) rfl created
  obtain ⟨new, apart⟩ : ¬(∃ listed ∈ c.indexes, listed.Matches index) ∧
      c.documents.Pairwise fun a b => ¬index.Collide a b := by simpa [held] using computed
  obtain ⟨c', held', _, apart'⟩ := kept (fun existing => absurd existing new) ops (by simp [ops])
  exact ⟨store', c', created, held', by simpa [held'] using size, apart' apart⟩

-- An index that is not unique stays as it is. It keeps no two documents apart, although the
-- creation of one that would do so has succeeded.
theorem unique_not_upheld_beside_existing :
    let env : Environment := ⟨fun _ => "k", fun _ => none⟩
    let existing := Index.new "persistent" ["x"]
    let index := existing.setOption "unique" (.bool true)
    let store := [Operation.createCollection "items" .document, .createIndex "items" existing].foldl
      (Store.after env) .empty
    let created := (connector env).createIndex "items" index store
    let imported := created.2.after env (.importDocuments "items" [
      .ofList [("_key", .string "a"), ("x", .string "1")],
      .ofList [("_key", .string "b"), ("x", .string "1")]])
    store.Reachable ∧ index.type ≠ "primary" ∧ index.options.get? "unique" = some (.bool true) ∧
      created.1 = .ok () ∧ ∃ c, imported.collections.get? "items" = some c ∧
      ¬c.documents.Pairwise fun a b => ¬index.Collide a b := by
  intro env existing index store created imported
  have legal (n : Nat) : LegalKey (env.key n) := by simp [env, LegalKey]
  have computed : (imported.collections.get? "items").map (fun c => (c.documents.length,
      decide (c.documents.Pairwise index.Collide))) = some (2, true) := by decide +kernel
  obtain ⟨c, held, computed⟩ := Option.map_eq_some_iff.mp computed
  obtain ⟨two, colliding⟩ := Prod.mk.inj computed
  obtain ⟨a, b, documents⟩ := List.length_eq_two.mp two
  refine ⟨Store.Reachable.empty.run legal _, by decide, rfl, eq_ok_of_isOk (by decide +kernel), c,
    held, fun apart => ?_⟩
  have collide := of_decide_eq_true colliding
  rw [documents, List.pairwise_pair] at apart collide
  exact apart collide

end Store
end RecordStore
