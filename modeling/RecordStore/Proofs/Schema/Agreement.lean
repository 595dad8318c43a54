import RecordStore.Query.Chain

-- Schemas and their records see of a connector's state nothing but their own collection.
--
-- Two connectors that give the same answers about this collection, and are then again in states in
-- which they do so, cannot be told apart by any of the operations.

namespace RecordStore

-- Equal results, beside states that are related.
def SameOutcome (R : σ₁ → σ₂ → Prop) (x : α × σ₁) (y : α × σ₂) : Prop :=
  ∃ a s₁ s₂, x = (a, s₁) ∧ y = (a, s₂) ∧ R s₁ s₂

theorem SameOutcome.of_related {R : σ₁ → σ₂ → Prop} (a : α) (related : R s₁ s₂) :
    SameOutcome R (a, s₁) (a, s₂) :=
  ⟨a, s₁, s₂, rfl, rfl, related⟩

-- Operations on records have two results, of which the record is one.
theorem SameOutcome.of_related_pair {R : σ₁ → σ₂ → Prop} (a : α) (b : β) (related : R s₁ s₂) :
    SameOutcome (SameOutcome R) (a, b, s₁) (a, b, s₂) :=
  .of_related a (.of_related b related)

-- Connectors that give the same answers about the collection of this name, as long as
-- their states are related.
structure Connector.AgreesOn (name : String) (conn₁ : Connector σ₁) (conn₂ : Connector σ₂)
    (R : σ₁ → σ₂ → Prop) : Prop where
  query {q s₁ s₂} (own : q.collection = name) (related : R s₁ s₂) :
    SameOutcome R (conn₁.query q s₁) (conn₂.query q s₂)
  hasCollection {s₁ s₂} (related : R s₁ s₂) :
    SameOutcome R (conn₁.hasCollection name s₁) (conn₂.hasCollection name s₂)
  createCollection (kind) {s₁ s₂} (related : R s₁ s₂) :
    SameOutcome R (conn₁.createCollection name kind s₁) (conn₂.createCollection name kind s₂)
  indexes {s₁ s₂} (related : R s₁ s₂) :
    SameOutcome R (conn₁.indexes name s₁) (conn₂.indexes name s₂)
  createIndex (index) {s₁ s₂} (related : R s₁ s₂) :
    SameOutcome R (conn₁.createIndex name index s₁) (conn₂.createIndex name index s₂)
  importDocuments (documents) {s₁ s₂} (related : R s₁ s₂) :
    SameOutcome R (conn₁.importDocuments name documents s₁)
      (conn₂.importDocuments name documents s₂)

namespace Connector.AgreesOn

variable {schema : Schema} {conn₁ : Connector σ₁} {conn₂ : Connector σ₂} {R : σ₁ → σ₂ → Prop}
  {s₁ : σ₁} {s₂ : σ₂}

section

variable (agrees : AgreesOn schema.name conn₁ conn₂ R) (related : R s₁ s₂)

include agrees related

theorem schema_createIndexes (indexes : List Index) :
    SameOutcome R (schema.createIndexes conn₁ indexes s₁)
      (schema.createIndexes conn₂ indexes s₂) := by
  induction indexes generalizing s₁ s₂ with
  | nil => exact .of_related _ related
  | cons index indexes ih =>
    have ⟨result, t₁, t₂, eq₁, eq₂, related⟩ := agrees.createIndex index related
    simp only [Schema.createIndexes, eq₁, eq₂]
    cases result with
    | error e => exact .of_related _ related
    | ok => exact ih related

theorem schema_applyIndexes :
    SameOutcome R (schema.applyIndexes conn₁ s₁) (schema.applyIndexes conn₂ s₂) := by
  unfold Schema.applyIndexes
  split
  case isTrue => exact .of_related _ related
  case isFalse =>
    split
    case h_1 => exact .of_related _ related
    case h_2 =>
      have ⟨existing, t₁, t₂, eq₁, eq₂, related⟩ := agrees.indexes related
      rw [eq₁, eq₂]
      cases existing with
      | error e => exact .of_related _ related
      | ok existing =>
        have ⟨result, u₁, u₂, eq₁, eq₂, related⟩ :=
          agrees.schema_createIndexes related (Index.missing schema.indexes existing)
        simp only [eq₁, eq₂]
        cases result <;> exact .of_related _ related

theorem schema_create : SameOutcome R (schema.create conn₁ s₁) (schema.create conn₂ s₂) := by
  have ⟨result, t₁, t₂, eq₁, eq₂, related⟩ := agrees.createCollection schema.kind related
  simp only [Schema.create, eq₁, eq₂]
  cases result with
  | error e => exact .of_related _ related
  | ok => exact agrees.schema_applyIndexes related

theorem schema_fetch {q : Query} (own : q.collection = schema.name) :
    SameOutcome R (schema.fetch conn₁ q s₁) (schema.fetch conn₂ q s₂) := by
  have ⟨answer, t₁, t₂, eq₁, eq₂, related⟩ := agrees.query own related
  simp only [Schema.fetch, eq₁, eq₂]
  exact .of_related _ related

theorem schema_readDocument (id : String) :
    SameOutcome R (schema.readDocument conn₁ id s₁) (schema.readDocument conn₂ id s₂) := by
  unfold Schema.readDocument
  split
  case isTrue => exact .of_related _ related
  case isFalse =>
    split
    case h_1 => exact .of_related _ related
    case h_2 =>
      have ⟨answer, t₁, t₂, eq₁, eq₂, related⟩ :=
        agrees.query (q := .document schema.name id) rfl related
      simp only [eq₁, eq₂]
      exact .of_related _ related

theorem schema_get (id : String) :
    SameOutcome R (schema.get conn₁ id s₁) (schema.get conn₂ id s₂) := by
  have ⟨document, t₁, t₂, eq₁, eq₂, related⟩ := agrees.schema_readDocument related id
  simp only [Schema.get, eq₁, eq₂]
  exact .of_related _ related

theorem schema_delete (reference : String) :
    SameOutcome R (schema.delete conn₁ reference s₁) (schema.delete conn₂ reference s₂) := by
  unfold Schema.delete
  split
  case h_1 => exact .of_related _ related
  case h_2 key _ =>
    have ⟨answer, t₁, t₂, eq₁, eq₂, related⟩ :=
      agrees.query (q := .remove schema.name key) rfl related
    simp only [eq₁, eq₂]
    exact .of_related _ related

variable (r : Record)

theorem record_insertInto (diff : Fields) :
    SameOutcome (SameOutcome R) (r.insertInto schema conn₁ diff s₁)
      (r.insertInto schema conn₂ diff s₂) := by
  have ⟨answer, t₁, t₂, eq₁, eq₂, related⟩ :=
    agrees.query (q := .insert schema.name diff) rfl related
  simp only [Record.insertInto, eq₁, eq₂]
  cases answer with
  | error e => exact .of_related_pair _ r related
  | ok cursor =>
    dsimp only
    cases cursor.first with
    | error e => exact .of_related_pair _ r related
    | ok item => exact .of_related_pair _ _ related

theorem record_updateIn (key : String) (diff : Fields) :
    SameOutcome (SameOutcome R) (r.updateIn schema conn₁ key diff s₁)
      (r.updateIn schema conn₂ key diff s₂) := by
  have ⟨answer, t₁, t₂, eq₁, eq₂, related⟩ :=
    agrees.query (q := .update schema.name key diff) rfl related
  simp only [Record.updateIn, eq₁, eq₂]
  cases answer with
  | error e => exact .of_related_pair _ r related
  | ok cursor =>
    dsimp only
    cases cursor.toList <;> exact .of_related_pair _ _ related

theorem record_save :
    SameOutcome (SameOutcome R) (r.save schema conn₁ s₁) (r.save schema conn₂ s₂) := by
  unfold Record.save
  split
  case h_1 => exact .of_related_pair _ r related
  case h_2 diff _ =>
    split
    case isTrue => exact .of_related_pair _ r related
    case isFalse =>
      split
      case h_1 => exact agrees.record_insertInto related r diff
      case h_2 key _ => exact agrees.record_updateIn related r key diff

theorem record_refresh :
    SameOutcome (SameOutcome R) (r.refresh schema conn₁ s₁) (r.refresh schema conn₂ s₂) := by
  unfold Record.refresh
  split
  case h_1 => exact .of_related_pair _ r related
  case h_2 id _ =>
    have ⟨document, t₁, t₂, eq₁, eq₂, related⟩ := agrees.schema_readDocument related id
    simp only [eq₁, eq₂]
    rcases document with e | _ | document <;> exact .of_related_pair _ _ related

end

end Connector.AgreesOn

namespace Scripted

-- Behind scripted replies, what is related are the states.
structure Related (R : σ₁ → σ₂ → Prop) (w₁ : Scripted σ₁) (w₂ : Scripted σ₂) : Prop where
  state : R w₁.state w₂.state
  replies : w₁.replies = w₂.replies

variable {conn₁ : Connector σ₁} {conn₂ : Connector σ₂} {R : σ₁ → σ₂ → Prop} {w₁ : Scripted σ₁}
  {w₂ : Scripted σ₂}

theorem sameOutcome_lift {run₁ : σ₁ → α × σ₁} {run₂ : σ₂ → α × σ₂} (related : Related R w₁ w₂)
    (same : SameOutcome R (run₁ w₁.state) (run₂ w₂.state)) :
    SameOutcome (Related R) (lift run₁ w₁) (lift run₂ w₂) := by
  have ⟨result, t₁, t₂, eq₁, eq₂, related'⟩ := same
  simp only [lift, eq₁, eq₂]
  exact .of_related _ ⟨related', related.replies⟩

theorem agreesOn_connector {name : String} (agrees : conn₁.AgreesOn name conn₂ R) :
    (connector conn₁).AgreesOn name (connector conn₂) (Related R) where
  query {q w₁ w₂} own related := by
    simp only [connector, query, related.replies]
    split
    case h_1 => exact .of_related _ ⟨related.state, rfl⟩
    case h_2 => exact sameOutcome_lift ⟨related.state, rfl⟩ (agrees.query own related.state)
  hasCollection related := sameOutcome_lift related (agrees.hasCollection related.state)
  createCollection kind _ _ related :=
    sameOutcome_lift related (agrees.createCollection kind related.state)
  indexes related := sameOutcome_lift related (agrees.indexes related.state)
  createIndex index _ _ related := sameOutcome_lift related (agrees.createIndex index related.state)
  importDocuments documents _ _ related :=
    sameOutcome_lift related (agrees.importDocuments documents related.state)

end Scripted
end RecordStore
