import RecordStore.Proofs.Query.Chain
import RecordStore.Proofs.Store.Agreement
import RecordStore.Session

-- Collections are isolated from each other: what is done with a collection and its records changes
-- no other collection, and depends on no other one.

namespace RecordStore

-- Steps on one collection, by its schema or by the records that have been made with it.
def Step.IsOn (name : String) : Step → Prop
  | .onCollection c _ => c = name
  | .onRecord .. => True
  | .onStore _ => False

namespace Session

-- The outcomes of all steps, and the session at the end.
def steps (env : Environment) (s : Session) : List Step → List Outcome × Session
  | [] => ([], s)
  | next :: rest =>
    let (outcome, s) := s.step env next
    let (outcomes, s) := s.steps env rest
    (outcome :: outcomes, s)

-- All records that are kept are of the collection.
def KeepsOnly (name : String) (s : Session) : Prop :=
  ∀ saved schema r, s.records.get? saved = some (schema, r) → schema.name = name

-- Sessions that are told apart by nothing but their stores, and not by these where only the
-- collection is seen.
structure Related (name : String) (R : Store → Store → Prop) (s₁ s₂ : Session) : Prop where
  schema : s₁.schema? name = s₂.schema? name
  records : s₁.records = s₂.records
  keepsOnly : s₂.KeepsOnly name
  world : Scripted.Related R s₁.world s₂.world

variable {name : String} {R : Store → Store → Prop} {s₁ s₂ : Session} {schema : Schema}
  {env₁ env₂ : Environment}

theorem schema_of_openQuery (h : openQuery schema finder givens calls = .ok q) :
    q.schema = schema := by
  unfold openQuery at h
  split at h
  case h_2 => cases h
  case h_1 chain made =>
    have ⟨result, _, run⟩ := (Chain.makes_of_ofCalls? made).alike schema
    rw [run] at h
    cases result with
    | error e => cases h
    | ok plan => cases h; rfl

namespace Related

theorem withWorld (related : Related name R s₁ s₂) {w₁ w₂ : Scripted Store}
    (world : Scripted.Related R w₁ w₂) :
    Related name R { s₁ with world := w₁ } { s₂ with world := w₂ } :=
  ⟨related.schema, related.records, related.keepsOnly, world⟩

theorem keep (related : Related name R s₁ s₂) (own : schema.name = name) (saved : String)
    (r : Record) :
    Related name R (s₁.keep schema saved r) (s₂.keep schema saved r) where
  schema := related.schema
  records := by rw [Session.keep, Session.keep, related.records]
  keepsOnly other schema' r' held := by
    rw [Session.keep, NameMap.get?_insert] at held
    split at held
    case isTrue => cases held; exact own
    case isFalse => exact related.keepsOnly other schema' r' held
  world := related.world

theorem keepAll (related : Related name R s₁ s₂) (own : schema.name = name) (saveAs : Option String)
    (records : List Record) :
    Related name R (s₁.keepAll schema saveAs records) (s₂.keepAll schema saveAs records) := by
  cases saveAs with
  | none => exact related
  | some saved =>
    simp only [Session.keepAll]
    generalize records.zipIdx = indexed
    induction indexed generalizing s₁ s₂ with
    | nil => exact related
    | cons entry indexed ih => exact ih (related.keep own _ entry.1)

section

variable (related : Related name R s₁ s₂)
  {op₁ op₂ : Scripted Store → Except Error α × Scripted Store}
  (same : SameOutcome (Scripted.Related R) (op₁ s₁.world) (op₂ s₂.world))

include related same

theorem answer (f : α → Answer) :
    SameOutcome (Related name R) (s₁.answer f op₁) (s₂.answer f op₂) := by
  have ⟨result, w₁, w₂, eq₁, eq₂, world⟩ := same
  simp only [Session.answer, Session.run, eq₁, eq₂]
  exact .of_related _ (related.withWorld world)

end

theorem answerRecords (related : Related name R s₁ s₂) (own : schema.name = name)
    (saveAs : Option String)
    {op₁ op₂ : Scripted Store → Except Error (List Record) × Scripted Store}
    (same : SameOutcome (Scripted.Related R) (op₁ s₁.world) (op₂ s₂.world)) :
    SameOutcome (Related name R) (s₁.answerRecords schema saveAs op₁)
      (s₂.answerRecords schema saveAs op₂) := by
  have ⟨result, w₁, w₂, eq₁, eq₂, world⟩ := same
  simp only [Session.answerRecords, Session.run, eq₁, eq₂]
  cases result with
  | error e => exact .of_related _ (related.withWorld world)
  | ok records => exact .of_related _ ((related.withWorld world).keepAll own saveAs records)

theorem changeRecord (related : Related name R s₁ s₂) (own : schema.name = name) (saved : String)
    {op₁ op₂ : Scripted Store → Except Error Unit × Record × Scripted Store}
    (same : SameOutcome (SameOutcome (Scripted.Related R)) (op₁ s₁.world) (op₂ s₂.world)) :
    SameOutcome (Related name R) (s₁.changeRecord schema saved op₁)
      (s₂.changeRecord schema saved op₂) := by
  obtain ⟨result, _, _, eq₁, eq₂, r, w₁, w₂, rfl, rfl, world⟩ := same
  simp only [Session.changeRecord, eq₁, eq₂]
  exact .of_related _ ((related.withWorld world).keep own saved r)

variable (agrees : (conn env₁).AgreesOn schema.name (conn env₂) (Scripted.Related R))

include agrees

theorem stepCollection (related : Related schema.name R s₁ s₂) (step : CollectionStep) :
    SameOutcome (Related schema.name R) (s₁.stepCollection env₁ schema step)
      (s₂.stepCollection env₂ schema step) := by
  cases step with
  | info => exact .of_related _ related
  | create => exact related.answer (agrees.schema_create related.world) _
  | applyIndexes => exact related.answer (agrees.schema_applyIndexes related.world) _
  | «exists» => exact related.answer (agrees.hasCollection related.world) _
  | importDocuments documents =>
    exact related.answer (agrees.importDocuments documents related.world) _
  | all sorts saveAs =>
    exact related.answerRecords rfl saveAs (agrees.schema_fetch related.world rfl)
  | find finder givens calls saveAs =>
    simp only [Session.stepCollection]
    split
    case h_2 => exact .of_related _ related
    case h_1 q opened =>
      refine related.answerRecords rfl saveAs ?_
      simp only [OpenQuery.run, Schema.find, schema_of_openQuery opened]
      exact agrees.schema_fetch related.world rfl
  | compile finder givens calls => exact .of_related _ related
  | get id saveAs =>
    have ⟨result, w₁, w₂, eq₁, eq₂, world⟩ := agrees.schema_get related.world id
    simp only [Session.stepCollection, Session.run, eq₁, eq₂]
    rcases result with e | _ | r
    · exact .of_related _ (related.withWorld world)
    · exact .of_related _ (related.withWorld world)
    · exact .of_related _ ((related.withWorld world).keep rfl saveAs r)
  | getFields id => exact related.answer (agrees.schema_readDocument related.world id) _
  | delete reference => exact related.answer (agrees.schema_delete related.world reference) _
  | record reference saveAs =>
    simp only [Session.stepCollection]
    split
    case h_1 r _ => exact .of_related _ (related.keep rfl saveAs r)
    case h_2 => exact .of_related _ related

theorem stepRecord (related : Related schema.name R s₁ s₂) (saved : String) (r : Record)
    (step : RecordStep) :
    SameOutcome (Related schema.name R) (s₁.stepRecord env₁ saved schema r step)
      (s₂.stepRecord env₂ saved schema r step) := by
  cases step with
  | «show» | field | system | fields | text => exact .of_related _ related
  | set field value =>
    simp only [Session.stepRecord]
    split
    case h_1 r' _ => exact .of_related _ (related.keep rfl saved r')
    case h_2 => exact .of_related _ related
  | save => exact related.changeRecord rfl saved (agrees.record_save related.world r)
  | refresh => exact related.changeRecord rfl saved (agrees.record_refresh related.world r)

end Related

theorem name_of_schema? {s : Session} (h : s.schema? name = some schema) : schema.name = name := by
  simpa using List.find?_some h

section

variable (agrees : (conn env₁).AgreesOn name (conn env₂) (Scripted.Related R))

include agrees

-- What one step preserves.
theorem Related.step (related : Related name R s₁ s₂) {step : Step} (isOn : step.IsOn name) :
    SameOutcome (Related name R) (s₁.step env₁ step) (s₂.step env₂ step) := by
  have forgotten : Related name R s₁.forgetSent s₂.forgetSent :=
    related.withWorld ⟨related.world.state, related.world.replies⟩
  cases step with
  | onStore => cases isOn
  | onCollection c step =>
    cases isOn
    simp only [Session.step, forgotten.schema]
    split
    case h_1 schema found =>
      cases name_of_schema? found
      exact forgotten.stepCollection agrees step
    case h_2 => exact .of_related _ forgotten
  | onRecord saved step =>
    simp only [Session.step, forgotten.records]
    split
    case h_1 schema r held =>
      cases forgotten.keepsOnly saved schema r held
      exact forgotten.stepRecord agrees saved r step
    case h_2 => exact .of_related _ forgotten

-- What all steps together preserve.
theorem Related.steps (related : Related name R s₁ s₂) {sts : List Step}
    (areOn : ∀ step ∈ sts, step.IsOn name) :
    SameOutcome (Related name R) (s₁.steps env₁ sts) (s₂.steps env₂ sts) := by
  induction sts generalizing s₁ s₂ with
  | nil => exact .of_related _ related
  | cons step sts ih =>
    have ⟨isOn, areOn⟩ := List.forall_mem_cons.mp areOn
    have ⟨outcome, t₁, t₂, eq₁, eq₂, related⟩ := related.step agrees isOn
    have ⟨outcomes, u₁, u₂, eqs₁, eqs₂, related⟩ := ih related areOn
    simp only [Session.steps, eq₁, eq₂, eqs₁, eqs₂]
    exact .of_related _ related

end

-- Steps on a collection leave all others as they are. With another store, where this collection is
-- the same, and where the same keys are generated and patterns stand for the same, they have the
-- same outcomes and make the same of their records and of the collection.
theorem steps_are_isolated {s : Session} (keepsOnly : s.KeepsOnly name) {sts : List Step}
    (areOn : ∀ step ∈ sts, step.IsOn name) (env : Environment) :
    (∀ other, other ≠ name → (s.steps env sts).2.collection? other = s.collection? other) ∧
    ∀ (s' : Session) (env' : Environment), s'.schema? name = s.schema? name →
      s'.records = s.records → s'.world.replies = s.world.replies →
      s'.collection? name = s.collection? name →
      env'.pattern = env.pattern →
      (∀ n, env'.key (s'.world.state.generated + n) = env.key (s.world.state.generated + n)) →
        (s'.steps env' sts).1 = (s.steps env sts).1 ∧
        (s'.steps env' sts).2.records = (s.steps env sts).2.records ∧
        (s'.steps env' sts).2.collection? name = (s.steps env sts).2.collection? name := by
  constructor
  · intro other ne
    have agrees := Scripted.agreesOn_connector
      (Store.Agree.agreesOn_connector name env env s.world.state s.world.state)
    have related : Related name (Store.Agree name env env s.world.state s.world.state) s s :=
      ⟨rfl, rfl, keepsOnly, ⟨⟨rfl, rfl, fun _ => rfl, fun _ _ => rfl, fun _ _ => rfl⟩, rfl⟩⟩
    have ⟨_, t₁, t₂, eq, _, related⟩ := related.steps agrees areOn
    rw [eq]
    exact related.world.state.others₁ other ne
  · intro s' env' schema records replies collection pattern key
    have agrees := Scripted.agreesOn_connector
      (Store.Agree.agreesOn_connector name env' env s'.world.state s.world.state)
    have related : Related name (Store.Agree name env' env s'.world.state s.world.state) s' s :=
      ⟨schema, records, keepsOnly,
        ⟨⟨collection, pattern, key, fun _ _ => rfl, fun _ _ => rfl⟩, replies⟩⟩
    have ⟨_, t₁, t₂, eq₁, eq₂, related⟩ := related.steps agrees areOn
    rw [eq₁, eq₂]
    exact ⟨rfl, related.records, related.world.state.collection⟩

-- Neither a foreign id nor the keys that have been generated before lead to the other collection.
theorem steps_are_isolated_of_foreign :
    let schema : Schema := ⟨"a", .document, [], Schema.writeUnchanged⟩
    let env : Environment := ⟨fun n => if n = 0 then "x" else "k", fun _ => none⟩
    let env' : Environment := ⟨fun _ => "k", fun _ => none⟩
    let s := ((new [schema]).steps env [
      .onStore (.createCollection "b" .document),
      .onStore (.importDocuments "b" [.ofList [("n", .null)]])]).2
    let s' := new [schema]
    let sts : List Step := [
      .onCollection "a" .create,
      .onCollection "a" (.record (.ofList [("n", .null)]) "r"),
      .onRecord "r" .save,
      .onCollection "a" (.get "b/x" "q"),
      .onCollection "a" (.delete "b/x"),
      .onCollection "a" (.record (.ofList [("_id", .string "a/x"), ("_key", .string "x")]) "r"),
      .onRecord "r" (.set "n" .null),
      .onRecord "r" .save,
      .onRecord "r" .refresh]
    (s.steps env sts).2.collection? "b" = s.collection? "b" ∧ (s.collection? "b").isSome ∧
      (s'.steps env' sts).1 = (s.steps env sts).1 ∧
      (s'.steps env' sts).2.collection? "a" = (s.steps env sts).2.collection? "a" ∧
      ((s.steps env sts).2.collection? "a").map (·.documents.length) = some 1 := by
  intro schema env env' s s' sts
  have records : s.records = ∅ := by rfl
  have keepsOnly : s.KeepsOnly "a" := fun saved schema r held => by
    rw [records] at held
    cases held
  have areOn : ∀ step ∈ sts, step.IsOn "a" := by simp [sts, Step.IsOn]
  have absent : s.collection? "a" = none := by decide +kernel
  have generated : s.world.state.generated = 1 := by decide +kernel
  have ⟨frame, alike⟩ := steps_are_isolated keepsOnly areOn env
  have ⟨outcomes, _, collection⟩ := alike s' env' rfl records.symm rfl absent.symm rfl fun n => by
    simp [env, env', generated]
  exact ⟨frame "b" (by decide), by decide +kernel, outcomes, collection, by decide +kernel⟩

end Session
end RecordStore
