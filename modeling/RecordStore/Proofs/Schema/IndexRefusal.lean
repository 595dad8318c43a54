import RecordStore.Proofs.Index.Matching
import RecordStore.Schema.Access

namespace RecordStore

namespace Index

variable {index : Index}

theorem validate_eq_ok_iff :
    index.validate = .ok () ↔ index.type ≠ "" ∧ index.fields ≠ [] ∧ "" ∉ index.fields := by
  unfold validate
  by_cases type : index.type = ""
  case pos => simp [type]
  case neg => simp [type]

theorem kind_of_validate (h : index.validate = .error e) : e.kind = .invalidIndex := by
  unfold validate at h
  split at h
  case isTrue => cases h; rfl
  case isFalse =>
    split at h <;> cases h
    rfl

end Index

-- A connector that refuses as invalid none but invalid indexes.
structure Connector.Discerning (conn : Connector σ) : Prop where
  createCollection : (conn.createCollection name kind s).1 = .error e → e.kind ≠ .invalidIndex
  indexes : (conn.indexes name s).1 = .error e → e.kind ≠ .invalidIndex
  createIndex {index : Index} :
    index.validate = .ok () → (conn.createIndex name index s).1 = .error e → e.kind ≠ .invalidIndex

namespace Store

variable {store : Store} {name : String}

theorem kind_of_collection (h : store.collection name = .error e) :
    e.kind = .collectionNotFound := by
  unfold collection at h
  split at h <;> cases h
  rfl

theorem connector_discerning (env : Environment) : (connector env).Discerning where
  createCollection := by
    intro name kind store e h
    simp only [connector, Store.createCollection] at h
    split at h <;> cases h
    nofun
  indexes := by
    intro name store e h
    obtain missing | ⟨_, _, h⟩ := bind_eq_error_iff.mp h
    · rw [kind_of_collection missing]
      nofun
    · cases h
  createIndex := by
    intro name store e index valid h
    simp only [connector, Store.createIndex, valid, Store.change] at h
    split at h <;> cases h
    case h_1 missing =>
      rw [kind_of_collection missing]
      nofun

end Store

namespace Schema

variable {schema : Schema} {conn : Connector σ} {s s' : σ} {indexes : List Index}

-- Invalid indexes are found before the store is asked for anything.
theorem applyIndexes_of_invalid (conn : Connector σ) (s : σ)
    (invalid : ∃ index ∈ schema.indexes, index.validate ≠ .ok ()) :
    ∃ e, schema.applyIndexes conn s = (.error e, s) ∧ e.kind = .invalidIndex := by
  obtain ⟨index, mem, invalid⟩ := invalid
  have declares : ¬schema.indexes.isEmpty := by simpa using List.ne_nil_of_mem mem
  cases checked : schema.indexes.forM Index.validate with
  | ok => exact absurd (forM_eq_ok_iff.mp checked index mem) invalid
  | error e =>
    obtain ⟨index, _, failed⟩ := exists_of_forM_eq_error checked
    exact ⟨e, by simp [applyIndexes, declares, checked], Index.kind_of_validate failed⟩

theorem create_of_invalid (created : conn.createCollection schema.name schema.kind s = (.ok (), s'))
    (invalid : ∃ index ∈ schema.indexes, index.validate ≠ .ok ()) :
    ∃ e, schema.create conn s = (.error e, s') ∧ e.kind = .invalidIndex := by
  obtain ⟨e, applied, kind⟩ := applyIndexes_of_invalid conn s' invalid
  exact ⟨e, by simp only [create, created, applied], kind⟩

theorem createIndexes_of_discerning (discerning : conn.Discerning)
    (valid : ∀ index ∈ indexes, index.validate = .ok ())
    (h : (schema.createIndexes conn indexes s).1 = .error e) :
    e.kind ≠ .invalidIndex := by
  induction indexes generalizing s with
  | nil => cases h
  | cons index indexes ih =>
    have ⟨first, rest⟩ := List.forall_mem_cons.mp valid
    unfold createIndexes at h
    split at h
    case h_1 failed =>
      cases h
      exact discerning.createIndex first (congrArg Prod.fst failed)
    case h_2 => exact ih rest h

theorem applyIndexes_of_discerning (discerning : conn.Discerning)
    (valid : ∀ index ∈ schema.indexes, index.validate = .ok ())
    (h : (schema.applyIndexes conn s).1 = .error e) :
    e.kind ≠ .invalidIndex := by
  simp only [applyIndexes, forM_eq_ok_iff.mpr valid] at h
  split at h
  case isTrue => cases h
  case isFalse =>
    split at h
    case h_1 failed =>
      cases h
      exact discerning.indexes (congrArg Prod.fst failed)
    case h_2 existing _ _ =>
      have valid' : ∀ index ∈ Index.missing schema.indexes existing, index.validate = .ok () :=
        fun index mem => valid index (Index.mem_missing_iff.mp mem).1
      split at h
      case h_1 failed =>
        cases h
        exact createIndexes_of_discerning discerning valid' (congrArg Prod.fst failed)
      case h_2 => cases h

theorem create_of_discerning (discerning : conn.Discerning)
    (valid : ∀ index ∈ schema.indexes, index.validate = .ok ())
    (h : (schema.create conn s).1 = .error e) :
    e.kind ≠ .invalidIndex := by
  unfold create at h
  split at h
  case h_1 failed =>
    cases h
    exact discerning.createCollection (congrArg Prod.fst failed)
  case h_2 => exact applyIndexes_of_discerning discerning valid h

end Schema

end RecordStore
