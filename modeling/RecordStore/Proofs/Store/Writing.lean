import RecordStore.Proofs.Store.Reachable
import Mathlib.Logic.Relation

-- Writing to a store: queries and imports change its collections only by single
-- insertions, updates and removals.

namespace RecordStore

-- A collection before and after something has been written to it.
inductive Collection.Write (name : String) (c c' : Collection) : Prop where
  | insert (h : c.insert name generated document = (.ok stored, c'))
  | update (h : c.update name key patch = (.ok (), c'))
  | remove (h : c.remove name key = (.ok (), c'))

theorem Collection.Write.indexes_eq {c c' : Collection} (w : c.Write name c') :
    c'.indexes = c.indexes := by
  cases w with
  | insert h => have ⟨_, _, _, _, _, _, eq⟩ := insert_eq_ok h; rw [eq]
  | update h => have ⟨_, _, _, _, _, eq⟩ := update_eq_ok h; rw [eq]
  | remove h => have ⟨_, _, eq⟩ := remove_eq_ok h; rw [eq]

namespace Store

-- A store in which all collections are still there, possibly with something written to them.
def Written (store store' : Store) : Prop :=
  ∀ name c, store.collections.get? name = some c → ∃ c', store'.collections.get? name = some c' ∧
    Relation.ReflTransGen (Collection.Write name) c c'

variable {store store' store'' : Store} {env : Environment} {name : String} {c c' : Collection}
  {document stored : Fields}

namespace Written

theorem refl (store : Store) : store.Written store :=
  fun _ c held => ⟨c, held, .refl⟩

theorem trans (w : store.Written store') (w' : store'.Written store'') : store.Written store'' := by
  intro name c held
  have ⟨c', held', writes⟩ := w name c held
  have ⟨c'', held'', writes'⟩ := w' name c' held'
  exact ⟨c'', held'', writes.trans writes'⟩

theorem setCollection (held : store.collections.get? name = some c) (w : c.Write name c') :
    store.Written (store.setCollection name c') := by
  intro other d held'
  rw [setCollection_collections, NameMap.get?_insert]
  split
  case isTrue eq =>
    subst eq
    cases held.symm.trans held'
    exact ⟨c', rfl, .single w⟩
  case isFalse => exact ⟨d, held', .refl⟩

theorem countKey (w : store.Written store') (document : Fields) :
    store.Written (store'.countKey document) := by
  simpa only [Written, countKey_collections] using w

theorem insert (store : Store) (env : Environment) (name : String) (document : Fields) :
    store.Written (store.insert env name document).2 := by
  refine (store.insert_atomic env name document).induction (refl store) fun _ _ h => ?_
  have ⟨c, c', held, inserted, eq⟩ := insert_eq_ok h
  exact eq ▸ (setCollection held (.insert inserted)).countKey document

theorem insertAll (store : Store) (env : Environment) (name : String) (documents : List Fields) :
    store.Written (store.insertAll env name documents).2 := by
  induction documents generalizing store with
  | nil => exact refl store
  | cons document documents ih =>
    rw [insertAll_cons_state]
    exact (insert store env name document).trans (ih _)

theorem connector_query (store : Store) (env : Environment) (q : Query) :
    store.Written ((connector env).query q store).2 := by
  refine (store.query_atomic env q).induction (refl store) fun _ _ answered => ?_
  cases query_eq_ok answered with
  | find | all | document => exact refl store
  | @insert document stored next _ inserted =>
    have written := insert store env q.collection document
    rwa [inserted] at written
  | update _ updated =>
    have ⟨c, c', held, updated, eq⟩ := update_eq_ok updated
    exact eq ▸ setCollection held (.update updated)
  | remove _ removed =>
    have ⟨c, c', held, removed, eq⟩ := remove_eq_ok removed
    exact eq ▸ setCollection held (.remove removed)

theorem connector_import (store : Store) (env : Environment) (name : String)
    (documents : List Fields) :
    store.Written ((connector env).importDocuments name documents store).2 := by
  have atomic := store.importDocuments_atomic env name documents
  refine atomic.induction (refl store) fun _ _ imported => ?_
  have ⟨_, _, eq⟩ := importDocuments_eq_ok imported
  have written := insertAll store env name documents
  rwa [eq] at written

end Written
end Store
end RecordStore
