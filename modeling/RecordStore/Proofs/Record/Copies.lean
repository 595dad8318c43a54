import RecordStore.Proofs.Record.Copy

-- Several records of one stored document. None of them loses what another one has saved: each
-- attribute of the document is what the last save that wrote it has made of it.

namespace RecordStore

-- Records of a stored document together with its store, and the diffs that have been saved, the
-- last one at the end.
structure Copies where
  store : Store
  records : List Record
  saved : List Fields

namespace Copies

-- What is done with the records, each of which is meant by its place among them.
inductive Action where
  | get
  | refer
  | set (i : Nat) (field : String) (value : Value)
  | save (i : Nat)
  | refresh (i : Nat)

def add (copies : Copies) (r : Record) : Copies :=
  { copies with records := copies.records ++ [r] }

def put (copies : Copies) (i : Nat) (r : Record) : Copies :=
  { copies with records := copies.records.set i r }

def note (copies : Copies) (diff : Fields) : Copies :=
  { copies with saved := copies.saved ++ [diff] }

section

variable (schema : Schema) (env : Environment) (id : String)

def act (copies : Copies) : Action → Copies
  | .get =>
    let (answer, store) := schema.get (Store.connector env) id copies.store
    let copies := { copies with store }
    match answer with
    | .ok (some r) => copies.add r
    | _ => copies
  | .refer =>
    match Record.ofReference schema (.id id) with
    | .ok r => copies.add r
    | .error _ => copies
  | .set i field value =>
    match copies.records[i]? with
    | none => copies
    | some r =>
      match r.set field value with
      | .ok (_, r') => copies.put i r'
      | .error _ => copies
  | .save i =>
    match copies.records[i]? with
    | none => copies
    | some r =>
      let (result, r', store) := r.save schema (Store.connector env) copies.store
      let copies := { copies with store }.put i r'
      match result with
      | .ok () => copies.note r.diff
      | .error _ => copies
  | .refresh i =>
    match copies.records[i]? with
    | none => copies
    | some r =>
      let (_, r', store) := r.refresh schema (Store.connector env) copies.store
      { copies with store }.put i r'

def run (copies : Copies) (actions : List Action) : Copies :=
  actions.foldl (act schema env id) copies

end

variable {schema : Schema} {env : Environment} {id : String} {copies : Copies}

-- The store is the original one but for what has been saved.
structure Intact (s : Stored schema.name id) (copies : Copies) : Prop where
  store_eq : copies.store = s.replace (copies.saved.foldl .override s.document)
  reserved : ∀ attr, isReserved attr →
    (copies.saved.foldl .override s.document).get? attr = s.document.get? attr
  copy : ∀ r ∈ copies.records, r.IsCopy s.identity

namespace Intact

variable {s : Stored schema.name id} {r : Record}

-- The document as it is stored now.
def now (intact : Intact s copies) : Stored schema.name id :=
  s.change (copies.saved.foldl .override s.document) (intact.reserved _ rfl) (intact.reserved _ rfl)

theorem now_store (intact : Intact s copies) : intact.now.store = copies.store :=
  intact.store_eq.symm

theorem add (intact : Intact s copies) (copy : r.IsCopy s.identity) : Intact s (copies.add r) := by
  refine { intact with copy := fun r' mem => ?_ }
  rcases List.mem_append.mp mem with mem | mem
  · exact intact.copy r' mem
  · exact List.mem_singleton.mp mem ▸ copy

theorem put (intact : Intact s copies) (copy : r.IsCopy s.identity) (i : Nat) :
    Intact s (copies.put i r) := by
  refine { intact with copy := fun r' mem => ?_ }
  rcases List.mem_or_eq_of_mem_set mem with mem | rfl
  · exact intact.copy r' mem
  · exact copy

-- To write a diff is to note that it has been saved.
theorem note (intact : Intact s copies) (copy : r.IsCopy s.identity) :
    Intact s <| note { copies with
      store := intact.now.replace (intact.now.document.override r.diff) } r.diff where
  store_eq := by simp [Copies.note, now]
  reserved attr res := by
    simp only [Copies.note, List.foldl_append, List.foldl_cons, List.foldl_nil]
    rw [copy.get?_override_diff _ res, intact.reserved attr res]
  copy := intact.copy

theorem get (intact : Intact s copies) : Intact s (copies.act schema env id .get) := by
  simp only [act, Schema.get_state]
  split
  case h_1 r eq => exact intact.add (intact.now.isCopy_of_get (intact.now_store ▸ eq))
  case h_2 => exact intact

theorem refer (intact : Intact s copies) : Intact s (copies.act schema env id .refer) := by
  simp only [act]
  split
  case h_1 eq => exact intact.add (s.isCopy_of_ofId eq)
  case h_2 => exact intact

theorem set (intact : Intact s copies) (i : Nat) (field : String) (value : Value) :
    Intact s (copies.act schema env id (.set i field value)) := by
  simp only [act]
  split
  case h_1 => exact intact
  case h_2 r held =>
    split
    case h_1 eq => exact intact.put ((intact.copy r (List.mem_of_getElem? held)).set eq) i
    case h_2 => exact intact

theorem save (intact : Intact s copies) (hook : schema.beforeSave = Schema.writeUnchanged)
    (i : Nat) : Intact s (copies.act schema env id (.save i)) := by
  simp only [act]
  split
  case h_1 => exact intact
  case h_2 r held =>
    have copy := intact.copy r (List.mem_of_getElem? held)
    rw [← intact.now_store]
    rcases saved : r.save schema (Store.connector env) intact.now.store with ⟨_ | ⟨⟩, r', store⟩
    case error e =>
      have ⟨store_eq, eq⟩ := intact.now.save_eq_error hook copy saved
      rw [store_eq, intact.now_store, eq]
      exact intact.put copy i
    case ok =>
      have ⟨store_eq, copy'⟩ := intact.now.save_eq_ok hook copy saved
      rw [store_eq]
      exact (intact.note copy).put copy' i

theorem refresh (intact : Intact s copies) (i : Nat) :
    Intact s (copies.act schema env id (.refresh i)) := by
  simp only [act]
  split
  case h_1 => exact intact
  case h_2 r held =>
    have copy := intact.copy r (List.mem_of_getElem? held)
    rw [Record.refresh_state]
    refine intact.put ?_ i
    have either := Record.refresh_record schema (Store.connector env) r copies.store
    rcases either with eq | ⟨document, eq⟩
    · rw [eq]; exact copy
    · rw [eq]; exact copy.refreshed document

theorem act (intact : Intact s copies) (hook : schema.beforeSave = Schema.writeUnchanged)
    (action : Action) : Intact s (copies.act schema env id action) := by
  cases action with
  | get => exact intact.get
  | refer => exact intact.refer
  | set i field value => exact intact.set i field value
  | save i => exact intact.save hook i
  | refresh i => exact intact.refresh i

theorem run (intact : Intact s copies) (hook : schema.beforeSave = Schema.writeUnchanged)
    (actions : List Action) : Intact s (copies.run schema env id actions) := by
  induction actions generalizing copies with
  | nil => exact intact
  | cons action actions ih => exact ih (intact.act hook action)

-- A second save is written over the first one.
theorem save_save (intact : Intact s copies) (hook : schema.beforeSave = Schema.writeUnchanged)
    {r₁ r₂ r₁' r₂' : Record} {store₁ store₂ : Store}
    (copy₁ : r₁.IsCopy s.identity) (copy₂ : r₂.IsCopy s.identity)
    (h₁ : r₁.save schema (Store.connector env) copies.store = (.ok (), r₁', store₁))
    (h₂ : r₂.save schema (Store.connector env) store₁ = (.ok (), r₂', store₂)) :
    store₂ = s.replace ((intact.now.document.override r₁.diff).override r₂.diff) := by
  rw [← intact.now_store] at h₁
  have ⟨eq₁, _⟩ := intact.now.save_eq_ok hook copy₁ h₁
  have intact₁ := intact.note copy₁
  have now₁ : intact₁.now.store = store₁ := intact₁.now_store.trans eq₁.symm
  rw [← now₁] at h₂
  have ⟨eq₂, _⟩ := intact₁.now.save_eq_ok hook copy₂ h₂
  simpa [now, Copies.note] using eq₂

end Intact

-- Attributes of the document are as they were saved last, and those that have never been saved are
-- as they were at first. Nothing else in the store changes. Saves of different fields can be made
-- in any order.
theorem last_save_decides {store : Store} (reachable : store.Reachable)
    (hook : schema.beforeSave = Schema.writeUnchanged)
    (stored : store.document schema.name id = .object document) (env : Environment)
    (actions : List Action) :
    let copies := Copies.run schema env id ⟨store, [], []⟩ actions
    let save := fun r => Record.save schema (Store.connector env) r
    (∃ c i document', store.collections.get? schema.name = some c ∧
      c.documents[i]? = some document ∧
      copies.store = store.setCollection schema.name
        { c with documents := c.documents.set i document' } ∧
      (∀ attr, document'.get? attr =
        (copies.saved.reverse.findSome? (·.get? attr)).or (document.get? attr)) ∧
      ∀ attr, isReserved attr → document'.get? attr = document.get? attr) ∧
    ∀ r₁ ∈ copies.records, ∀ r₂ ∈ copies.records,
      (∀ field, ¬(r₁.dirty.contains field ∧ r₂.dirty.contains field)) →
      ∀ r₁' r₂' r₁'' r₂'' store₁ store₁₂ store₂ store₂₁,
        save r₁ copies.store = (.ok (), r₁', store₁) → save r₂ store₁ = (.ok (), r₂', store₁₂) →
        save r₂ copies.store = (.ok (), r₂'', store₂) → save r₁ store₂ = (.ok (), r₁'', store₂₁) →
        store₁₂ = store₂₁ := by
  intro copies save
  obtain ⟨s, rfl, rfl⟩ := Stored.exists_of_document reachable stored
  have start : Intact s ⟨s.store, [], []⟩ := ⟨by simp, fun _ _ => rfl, nofun⟩
  have intact : Intact s copies := start.run hook actions
  constructor
  · exact ⟨s.collection, s.index, intact.now.document, s.held, s.at_index, intact.store_eq,
      NameMap.get?_foldl_override s.document copies.saved, intact.reserved⟩
  · intro r₁ mem₁ r₂ mem₂ disjoint _ _ _ _ store₁ store₁₂ store₂ store₂₁ h₁ h₁₂ h₂ h₂₁
    have copy₁ := intact.copy r₁ mem₁
    have copy₂ := intact.copy r₂ mem₂
    rw [intact.save_save hook copy₁ copy₂ h₁ h₁₂, intact.save_save hook copy₂ copy₁ h₂ h₂₁]
    congr 1
    refine NameMap.override_comm _ fun field => ?_
    by_contra! both
    refine disjoint field ⟨copy₁.dirty_of_diff ?_, copy₂.dirty_of_diff ?_⟩
    · exact Option.isSome_iff_ne_none.mpr both.1
    · exact Option.isSome_iff_ne_none.mpr both.2

-- The first save of `x` succeeds, and the second one is rejected by the unique index.
theorem last_save_decides_of_two :
    let env : Environment := ⟨fun _ => "k", fun _ => none⟩
    let schema : Schema := ⟨"a", .document, [], Schema.writeUnchanged⟩
    let store := [
      Store.Operation.createCollection "a" .document,
      .createIndex "a" ((Index.new "hash" ["x"]).setOption "unique" (.bool true)),
      .query (.insert "a" (.ofList [("x", .string "1"), ("y", .string "2")])),
      .query (.insert "a" (.ofList [("_key", .string "l"), ("x", .string "3")]))].foldl
        (Store.after env) .empty
    let copies := Copies.run schema env "a/k" ⟨store, [], []⟩ [
      .get, .refer, .set 0 "x" (.string "4"), .save 0, .set 1 "x" (.string "3"), .save 1,
      .refresh 1, .set 0 "x" (.string "5"), .set 1 "y" .null]
    let save := Record.save schema (Store.connector env)
    let r₁ := copies.records[0]?.getD .empty
    let r₂ := copies.records[1]?.getD .empty
    (∃ c i document, store.collections.get? "a" = some c ∧
      copies.store = store.setCollection "a" { c with documents := c.documents.set i document } ∧
      (document.get? "x").bind Value.string? = some "4" ∧
      (document.get? "y").bind Value.string? = some "2") ∧
    (save r₂ (save r₁ copies.store).2.2).2.2 = (save r₁ (save r₂ copies.store).2.2).2.2 := by
  intro env schema store copies save r₁ r₂
  have legal : ∀ n, LegalKey (env.key n) := fun _ => by simp [env, LegalKey]
  obtain ⟨document, found⟩ : ∃ document,
      (store.collections.get? "a").bind (·.find? "k") = some document :=
    Option.isSome_iff_exists.mp (by decide +kernel)
  have stored : store.document schema.name "a/k" = .object document := by
    have split : Id.split? "a/k" = some ("a", "k") := by decide +kernel
    simp [Store.document, split, schema, found]
  obtain ⟨⟨c, i, document', held, _, store_eq, attrs, _⟩, commute⟩ :=
    last_save_decides (Store.Reachable.empty.run legal _) rfl stored env [
      .get, .refer, .set 0 "x" (.string "4"), .save 0, .set 1 "x" (.string "3"), .save 1,
      .refresh 1, .set 0 "x" (.string "5"), .set 1 "y" .null]
  constructor
  · refine ⟨c, i, document', held, store_eq, ?_, ?_⟩
    · have saved : (copies.saved.reverse.findSome? (·.get? "x")).bind Value.string? = some "4" := by
        decide +kernel
      obtain ⟨v, held, eq⟩ := Option.bind_eq_some_iff.mp saved
      rw [attrs, held, Option.some_or, Option.bind_some, eq]
    · have unsaved : copies.saved.reverse.findSome? (·.get? "y") = none :=
        Option.isNone_iff_eq_none.mp (by decide +kernel)
      have first : (((store.collections.get? "a").bind (·.find? "k")).bind
          (·.get? "y")).bind Value.string? = some "2" := by decide +kernel
      rw [attrs, unsaved, Option.none_or]
      rwa [found] at first
  · have ok : ∀ (result : Except Error Unit × Record × Store), result.1.isOk →
        result = (.ok (), result.2.1, result.2.2) := by
      rintro ⟨_ | ⟨⟩, _, _⟩ h <;> first | rfl | cases h
    have mem : ∀ {records : List Record} {i : Nat}, i < records.length →
        records[i]?.getD .empty ∈ records := by
      intro records i lt
      simp [List.getElem?_eq_getElem lt]
    have mem₁ : r₁ ∈ copies.records := mem (by decide +kernel)
    have mem₂ : r₂ ∈ copies.records := mem (by decide +kernel)
    have dirty₁ : r₁.dirty = NameMap.empty.insert "x" () := by decide +kernel
    have dirty₂ : r₂.dirty = NameMap.empty.insert "y" () := by decide +kernel
    have h₁ := ok (save r₁ copies.store) (by decide +kernel)
    have h₁₂ := ok (save r₂ (save r₁ copies.store).2.2) (by decide +kernel)
    have h₂ := ok (save r₂ copies.store) (by decide +kernel)
    have h₂₁ := ok (save r₁ (save r₂ copies.store).2.2) (by decide +kernel)
    refine commute r₁ mem₁ r₂ mem₂ (fun field => ?_) _ _ _ _ _ _ _ _ h₁ h₁₂ h₂ h₂₁
    simp only [dirty₁, dirty₂, NameMap.contains, NameMap.get?_insert]
    by_cases x : field = "x" <;> simp [x]

end Copies
end RecordStore
