import RecordStore.Proofs.Record.Copy
import RecordStore.Proofs.Record.Identity
import RecordStore.Proofs.Record.Tracking

namespace RecordStore

variable {schema : Schema} {env : Environment} {store after : Store} {r r' saved : Record}
  {name id key : String} {document : Fields} {identity : Identity}

-- A document that is held becomes a record.
theorem Schema.get_of_held (key_eq : schema.keyOf id = .ok key)
    (held : store.held? schema.name key = some document)
    (made : Record.ofFields schema document = .ok r) (env : Environment) :
    schema.get (Store.connector env) id store = (.ok (some r), store) := by
  simp only [get, readDocument_of_keyOf key_eq env store, held]
  refine Prod.ext (bind_eq_ok_iff.mpr ⟨some document, rfl, ?_⟩) rfl
  exact bind_eq_ok_iff.mpr ⟨r, made, rfl⟩

theorem Schema.beforeSave_eq (hook : schema.beforeSave = writeUnchanged) (r : Record)
    (diff : Fields) :
    schema.beforeSave r diff = .ok diff := by
  rw [hook]
  rfl

namespace Record

-- All fields are still to be written, as they are as long as a record has no identity.
def Unsaved (r : Record) : Prop :=
  ∀ field, r.fields.contains field → r.dirty.contains field

-- What a record lets see of its document apart from the identity.
def Shown (name : String) : Prop :=
  name = fromAttribute ∨ name = toAttribute ∨ ¬isReserved name

theorem Shown.ne (shown : Shown name) : name ≠ idAttribute ∧ name ≠ keyAttribute := by
  rcases shown with rfl | rfl | free
  · decide
  · decide
  · exact ⟨fun eq => free (eq ▸ rfl), fun eq => free (eq ▸ rfl)⟩

-- Apart from the key that is asked for, all that is inserted is known to the record already.
theorem Consistent.known_of_diff (consistent : r.Consistent schema)
    (unidentified : r.identity = none)
    (ne_key : name ≠ keyAttribute) (h : r.diff.get? name = some v) : r.known name = some v := by
  by_cases reserved : isReserved name
  case pos =>
    rw [consistent.get?_diff_of_reserved unidentified ne_key reserved] at h
    unfold known
    split at h
    case isTrue is_from => rwa [if_pos is_from]
    case isFalse ne_from =>
      split at h
      case isTrue is_to => rwa [if_neg ne_from, if_pos is_to]
      case isFalse => cases h
  case neg =>
    rw [r.get?_diff_of_free reserved, changes, NameMap.get?_filter] at h
    rw [r.known_of_free reserved]
    exact (Option.filter_eq_some_iff.mp h).1

-- As long as nothing has been saved, this is all that the record shows.
theorem Unsaved.get?_diff_of_shown (unsaved : r.Unsaved) (consistent : r.Consistent schema)
    (unidentified : r.identity = none) (shown : Shown name) : r.diff.get? name = r.known name := by
  by_cases reserved : isReserved name
  case pos =>
    rw [consistent.get?_diff_of_reserved unidentified shown.ne.2 reserved]
    rcases shown with rfl | rfl | free
    · rfl
    · rfl
    · exact absurd reserved free
  case neg =>
    rw [r.get?_diff_of_free reserved, r.known_of_free reserved, changes, NameMap.get?_filter]
    cases held : r.fields.get? name with
    | none => rfl
    | some v =>
      have dirty : r.dirty.contains name := unsaved name (NameMap.contains_of_get? held)
      simp [Option.filter, dirty]

-- What a record shows determines the ends of its edge and its fields.
theorem eq_of_known (consistent : r.Consistent schema) (consistent' : r'.Consistent schema)
    (same : ∀ name, Shown name → r'.known name = r.known name) :
    r'.source = r.source ∧ r'.target = r.target ∧ r'.fields = r.fields := by
  have string_inj : ∀ s s', Value.string s = .string s' → s = s' := fun _ _ => Value.string.inj
  refine ⟨?_, ?_, NameMap.ext_get? fun name => ?_⟩
  · exact (Option.map_inj_right string_inj).mp (same fromAttribute (.inl rfl))
  · exact (Option.map_inj_right string_inj).mp (same toAttribute (.inr (.inl rfl)))
  · by_cases reserved : isReserved name
    case pos =>
      have absent : ∀ {r : Record}, r.Consistent schema → r.fields.get? name = none :=
        fun consistent => Option.not_isSome_iff_eq_none.mp fun held =>
          consistent.user name held reserved
      rw [absent consistent', absent consistent]
    case neg =>
      rw [← r'.known_of_free reserved, ← r.known_of_free reserved]
      exact same name (.inr (.inr reserved))

theorem known_written (r : Record) (diff : Fields) (shown : Shown name) :
    (r.written diff).known name =
      if isReserved name then r.known name else (diff.get? name).or (r.known name) := by
  split
  case isTrue reserved =>
    rcases shown with rfl | rfl | free
    · rfl
    · rfl
    · exact absurd reserved free
  case isFalse free =>
    rw [known_of_free _ free, known_of_free _ free, written, NameMap.get?_override,
      NameMap.get?_filter]
    cases diff.get? name <;> simp [free]

-- What a record finds of its own difference in a document is nothing new.
theorem known_of_own {found : Option Value} (consistent : r.Consistent schema)
    (unidentified : r.identity = none) (ne_key : name ≠ keyAttribute)
    (own : ∀ v, found = some v → r.diff.get? name = some v) :
    found.or (r.known name) = r.known name := by
  cases found with
  | none => rfl
  | some v =>
    rw [consistent.known_of_diff unidentified ne_key (own v rfl)]
    rfl

namespace Unsaved

theorem of_fields_eq (unsaved : r.Unsaved) (fields_eq : r'.fields = r.fields)
    (dirty_eq : r'.dirty = r.dirty) : r'.Unsaved := by
  rw [Unsaved, fields_eq, dirty_eq]
  exact unsaved

theorem assigned (unsaved : r.Unsaved) (field : String) (value : Value) :
    ((r.setField field value).markDirty field).Unsaved := by
  intro other held
  simp only [setField, markDirty, NameMap.contains_insert] at held ⊢
  exact held.imp_right (unsaved other)

theorem takeNew (unsaved : r.Unsaved) (h : r.takeNew schema name v = .ok r') : r'.Unsaved := by
  rcases takeNew_eq_ok h with ⟨_, rfl⟩ | ⟨_, _, _, _, rfl⟩
  · exact unsaved.assigned name v
  · exact unsaved

theorem foldlM_takeNew {attrs : List (String × Value)} (unsaved : r.Unsaved)
    (h : attrs.foldlM (fun r e => r.takeNew schema e.1 e.2) r = .ok r') : r'.Unsaved := by
  induction attrs generalizing r with
  | nil => cases h; exact unsaved
  | cons attr attrs ih =>
    have ⟨next, taken, h⟩ := bind_eq_ok_iff.mp h
    exact ih (unsaved.takeNew taken) h

theorem ofReference {reference : Reference} (h : ofReference schema reference = .ok r)
    (unidentified : r.identity = none) : r.Unsaved := by
  cases reference with
  | id id =>
    simp only [Record.ofReference, ofId] at h
    split at h <;> cases h
    cases unidentified
  | fields document =>
    simp only [Record.ofReference, ofFields] at h
    split at h
    case isTrue =>
      split at h <;> cases h
      case h_1 adopted => exact absurd unidentified (identified_of_adopt adopted)
    case isFalse =>
      have empty : Record.empty.Unsaved := fun _ held => by cases held
      exact empty.foldlM_takeNew h

-- A save that fails may have taken over some of the stored document, but that is nothing new.
theorem save (unsaved : r.identity = none → r.Unsaved) (consistent : r.Consistent schema)
    (hook : schema.beforeSave = Schema.writeUnchanged) (env : Environment) (store : Store)
    (unidentified' : (r.save schema (Store.connector env) store).2.1.identity = none) :
    (r.save schema (Store.connector env) store).2.1.Unsaved := by
  have saved := r.saved schema (Store.connector env) store
  generalize r.save schema (Store.connector env) store = outcome at saved unidentified' ⊢
  cases saved with
  | rejected | skipped | notUpdated | notInserted => exact unsaved unidentified'
  | updated _ _ identified => cases unidentified'.symm.trans identified
  | inserted _ _ _ _ _ adopted =>
    have identified := identified_of_adopt adopted
    exact absurd unidentified' identified
  | notAdopted written _ unidentified answered reply failed =>
    rw [hook] at written
    cases written
    have ⟨_, key, _, _, _, stored_eq, _⟩ := Store.insert_eq_stored (insert_of_reply answered reply)
    subst stored_eq
    have ⟨found, subset, known⟩ := known_of_adopt_error failed
    have extended := adopt_eq_error failed
    refine (unsaved unidentified).of_fields_eq ?_ extended.dirty
    refine (eq_of_known consistent (consistent.of_extends extended) fun name shown => ?_).2.2
    rw [known name shown.ne.1 shown.ne.2]
    refine known_of_own consistent unidentified shown.ne.2 fun v held => ?_
    rw [← Collection.get?_identify_of_ne schema.name key r.diff shown.ne.1 shown.ne.2]
    exact subset name v held

theorem call (unsaved : r.identity = none → r.Unsaved) (consistent : r.Consistent schema)
    (hook : schema.beforeSave = Schema.writeUnchanged) (env : Environment) (store : Store)
    (c : Call)
    (unidentified' : (r.call schema (Store.connector env) store c).2.1.identity = none) :
    (r.call schema (Store.connector env) store c).2.1.Unsaved := by
  cases c with
  | save => exact save unsaved consistent hook env store unidentified'
  | set field value =>
    simp only [Record.call] at unidentified' ⊢
    split at unidentified'
    case h_1 eq =>
      rcases set_eq_ok eq with rfl | ⟨_, rfl⟩
      · exact unsaved unidentified'
      · exact (unsaved unidentified').assigned field value
    case h_2 => exact unsaved unidentified'
  | refresh =>
    have unidentified : r.identity = none := by
      rcases r.call_identity schema (Store.connector env) store .refresh with eq | ⟨_, is_save, _⟩
      · exact eq.symm.trans unidentified'
      · cases is_save
    have not_found : r.found? schema (Store.connector env) store = none := by
      simp [found?, id?, unidentified]
    rw [Record.call, refresh_eq_found, not_found]
    exact unsaved unidentified

theorem run (unsaved : r.identity = none → r.Unsaved) (consistent : r.Consistent schema)
    (hook : schema.beforeSave = Schema.writeUnchanged) (env : Environment)
    (calls : List (Store × Call))
    (unidentified : (r.run schema (Store.connector env) calls).identity = none) :
    (r.run schema (Store.connector env) calls).Unsaved := by
  induction calls generalizing r with
  | nil => exact unsaved unidentified
  | cons c calls ih =>
    exact ih (call unsaved consistent hook env c.1 c.2) (consistent.call _ c.1 c.2) unidentified

end Unsaved

theorem known_of_adopt_identify {diff : Fields} (shown : Shown name)
    (h : r.adopt schema (Collection.identify schema.name key diff) = (.ok (), r')) :
    r'.known name = (diff.get? name).or (r.known name) := by
  rw [known_of_adopt h shown.ne.1 shown.ne.2,
    Collection.get?_identify_of_ne schema.name key diff shown.ne.1 shown.ne.2]

theorem known_empty (name : String) : empty.known name = none := by
  have nothing : (∅ : Fields).get? name = none := rfl
  simp [known, empty, nothing]

-- A record that has been inserted shows what it has shown before, and it has got its identity.
theorem inserted_eq {adopted : Record} (consistent : r.Consistent schema)
    (unidentified : r.identity = none)
    (h : r.adopt schema (Collection.identify schema.name key r.diff) = (.ok (), adopted)) :
    (adopted.written r.diff).identity = some ⟨Id.of schema.name key, key⟩ ∧
      (adopted.written r.diff).source = r.source ∧ (adopted.written r.diff).target = r.target ∧
      (adopted.written r.diff).fields = r.fields := by
  have identified := identity_of_adopt_identify h
  refine ⟨identified, eq_of_known consistent
    ((consistent.adopt h).written r.diff) fun name shown => ?_⟩
  have adopted_known : adopted.known name = r.known name := by
    rw [known_of_adopt_identify shown h]
    exact known_of_own consistent unidentified shown.ne.2 fun _ => id
  rw [known_written adopted r.diff shown, adopted_known]
  split
  case isTrue => rfl
  case isFalse => exact known_of_own consistent unidentified shown.ne.2 fun _ => id

-- The document of a record that has not been saved before is all that the record shows.
theorem read_inserted {adopted : Record} (unsaved : r.Unsaved)
    (consistent : r.Consistent schema) (unidentified : r.identity = none)
    (h : r.adopt schema (Collection.identify schema.name key r.diff) = (.ok (), adopted)) :
    ∃ read, ofFields schema (Collection.identify schema.name key r.diff) = .ok read ∧
      read.identity = some ⟨Id.of schema.name key, key⟩ ∧
      read.source = r.source ∧ read.target = r.target ∧ read.fields = r.fields := by
  have accepted : (empty.adopt schema (Collection.identify schema.name key r.diff)).1.isOk := by
    rw [adopt_isOk_iff, ← adopt_isOk_iff schema r, h]
    rfl
  rcases taken : empty.adopt schema (Collection.identify schema.name key r.diff) with ⟨result, read⟩
  rw [taken] at accepted
  cases eq_ok_of_isOk accepted
  have stored : (Collection.identify schema.name key r.diff).contains idAttribute :=
    NameMap.contains_of_get? (Collection.get?_identify_id ..)
  refine ⟨read, (ofFields_eq_ok_iff stored).mpr taken, identity_of_adopt_identify taken, ?_⟩
  refine eq_of_known consistent (Consistent.empty.adopt taken) fun name shown => ?_
  rw [known_of_adopt_identify shown taken, known_empty, Option.or_none]
  exact unsaved.get?_diff_of_shown consistent unidentified shown

theorem toFields_eq (identity_eq : r'.identity = r.identity) (source_eq : r'.source = r.source)
    (target_eq : r'.target = r.target) (fields_eq : r'.fields = r.fields) (omitted : List String) :
    r'.toFields omitted = r.toFields omitted := by
  simp only [toFields, id?, key?, identity_eq, source_eq, target_eq, fields_eq]

-- The document of a record without an identity is put at the end of its collection, from where it
-- is read as the record that has been saved.
theorem read_of_inserted (unsaved : r.Unsaved) (consistent : r.Consistent schema)
    (hook : schema.beforeSave = Schema.writeUnchanged) (unidentified : r.identity = none)
    (nonempty : ¬r.diff.isEmpty)
    (h : r.save schema (Store.connector env) store = (.ok (), saved, after)) :
    ∃ c key read, store.collections.get? schema.name = some c ∧
      Collection.Keyed (store.nextKey env) r.diff key ∧
      after.collections = store.collections.insert schema.name
        { c with documents := c.documents ++ [Collection.identify schema.name key r.diff] } ∧
      saved.identity = some ⟨Id.of schema.name key, key⟩ ∧ saved.dirty = ∅ ∧
      saved.fields = r.fields ∧
      schema.get (Store.connector env) (Id.of schema.name key) after = (.ok (some read), after) ∧
      read.identity = saved.identity ∧ read.source = saved.source ∧ read.target = saved.target ∧
      ∀ omitted, read.toFields omitted = saved.toFields omitted := by
  have written := Schema.beforeSave_eq hook r r.diff
  have ⟨stored, adopted, inserted, taken, saved_eq⟩ :=
    inserted_of_save unidentified written nonempty h
  have ⟨c, key, held, keyed, absent, stored_eq, eq⟩ := Store.insert_eq_stored inserted
  subst stored_eq saved_eq
  have ⟨identity, source, target, fields⟩ := inserted_eq consistent unidentified taken
  have ⟨read, made, identity', source', target', fields'⟩ :=
    read_inserted unsaved consistent unidentified taken
  have ⟨_, key', key_eq⟩ := ((consistent.adopt taken).written r.diff).settled _ identity
  cases Id.keyOf_of key_eq
  have found : after.held? schema.name key = some (Collection.identify schema.name key r.diff) :=
    Store.held?_of_absent absent (Collection.hasKey_iff.mpr (Collection.get?_identify_key ..)) eq
  have identity_eq := identity'.trans identity.symm
  have source_eq := source'.trans source.symm
  have target_eq := target'.trans target.symm
  have fields_eq := fields'.trans fields.symm
  exact ⟨c, key, read, held, keyed, eq, identity, rfl, fields,
    Schema.get_of_held key_eq found made env,
    identity_eq, source_eq, target_eq, toFields_eq identity_eq source_eq target_eq fields_eq⟩

-- A record has written what it holds anyway.
theorem written_diff (identified : r.identity = some identity) :
    r.written r.diff = { r with dirty := ∅ } := by
  have same : r.fields.override (r.diff.filter fun name _ => !isReserved name) = r.fields := by
    refine NameMap.ext_get? fun name => ?_
    rw [NameMap.get?_override, NameMap.get?_filter, diff_of_identified identified, changes,
      NameMap.get?_filter]
    cases r.fields.get? name with
    | none => rfl
    | some v => cases r.dirty.contains name <;> cases isReserved name <;> rfl
  rw [written, same]

-- The document of a record with an identity keeps its place, and all of its attributes
-- but the dirty fields.
theorem patched_of_updated (consistent : r.Consistent schema)
    (hook : schema.beforeSave = Schema.writeUnchanged) (identified : r.identity = some identity)
    (nonempty : ¬r.diff.isEmpty)
    (h : r.save schema (Store.connector env) store = (.ok (), saved, after)) :
    ∃ c i document document', store.collections.get? schema.name = some c ∧
      c.position? identity.key = some i ∧ c.documents[i]? = some document ∧
      after = store.setCollection schema.name { c with documents := c.documents.set i document' } ∧
      (∀ field, r.dirty.contains field →
        ∃ value, r.fields.get? field = some value ∧ document'.get? field = some value) ∧
      (∀ attr, ¬r.dirty.contains attr → document'.get? attr = document.get? attr) ∧
      saved = { r with dirty := ∅ } := by
  have written := Schema.beforeSave_eq hook r r.diff
  have ⟨updated, saved_eq⟩ := updated_of_save identified written nonempty h
  have ⟨c, c', held, updated, eq⟩ := Store.update_eq_ok updated
  have ⟨i, document, position, at_index, _, eq'⟩ := Collection.update_eq_ok updated
  subst eq'
  have copy : r.IsCopy identity :=
    ⟨identified, fun name dirty => consistent.user name (consistent.held name dirty)⟩
  have attrs : ∀ attr, (Collection.patched document r.diff).get? attr =
      ((r.fields.get? attr).filter fun _ => r.dirty.contains attr).or (document.get? attr) := by
    intro attr
    rw [copy.patched_diff, NameMap.get?_override, diff_of_identified identified, changes,
      NameMap.get?_filter]
  refine ⟨c, i, document, _, held, position, at_index, eq, fun field dirty => ?_,
    fun attr clean => ?_, saved_eq.trans (written_diff identified)⟩
  · obtain ⟨value, held⟩ := Option.isSome_iff_exists.mp (consistent.held field dirty)
    exact ⟨value, held, by simp [attrs, held, Option.filter, dirty]⟩
  · rw [attrs]
    cases r.fields.get? attr <;> simp [Option.filter, clean]

-- Whatever is done with a record, and whatever else happens to the store: a save that succeeds has
-- written what was to be written, and nothing else. A document that has been inserted is read as
-- the record that has been saved. A save with nothing to be written does nothing.
theorem saved_is_read_back {reference : Reference} {built : Record} {result : Except Error Unit}
    (h : ofReference schema reference = .ok built)
    (hook : schema.beforeSave = Schema.writeUnchanged)
    {calls : List (Store × Call)} (run_eq : built.run schema (Store.connector env) calls = r)
    (save_eq : r.save schema (Store.connector env) store = (result, saved, after)) :
    (r.identity = none → ¬r.diff.isEmpty → result = .ok () →
      ∃ c key read, store.collections.get? schema.name = some c ∧
        Collection.Keyed (store.nextKey env) r.diff key ∧
        after.collections = store.collections.insert schema.name
          { c with documents := c.documents ++ [Collection.identify schema.name key r.diff] } ∧
        saved.identity = some ⟨Id.of schema.name key, key⟩ ∧ saved.dirty = ∅ ∧
        saved.fields = r.fields ∧
        schema.get (Store.connector env) (Id.of schema.name key) after = (.ok (some read), after) ∧
        read.identity = saved.identity ∧ read.source = saved.source ∧ read.target = saved.target ∧
        ∀ omitted, read.toFields omitted = saved.toFields omitted) ∧
    (∀ identity, r.identity = some identity → ¬r.diff.isEmpty → result = .ok () →
      ∃ c i document document', store.collections.get? schema.name = some c ∧
        c.position? identity.key = some i ∧ c.documents[i]? = some document ∧
        after = store.setCollection schema.name
          { c with documents := c.documents.set i document' } ∧
        (∀ field, r.dirty.contains field →
          ∃ value, r.fields.get? field = some value ∧ document'.get? field = some value) ∧
        (∀ attr, ¬r.dirty.contains attr → document'.get? attr = document.get? attr) ∧
        saved = { r with dirty := ∅ }) ∧
    (r.diff.isEmpty → result = .ok () ∧ saved = r ∧ after = store) := by
  have consistent : r.Consistent schema := run_eq ▸ (Consistent.ofReference h).run _ calls
  refine ⟨fun unidentified nonempty ok => ?_, fun identity identified nonempty ok => ?_,
    fun empty => ?_⟩
  · subst run_eq ok
    have unsaved := Unsaved.run (Unsaved.ofReference h) (.ofReference h) hook env calls unidentified
    exact read_of_inserted unsaved consistent hook unidentified nonempty save_eq
  · subst ok
    exact patched_of_updated consistent hook identified nonempty save_eq
  · rw [save_of_isEmpty (Schema.beforeSave_eq hook r r.diff) empty] at save_eq
    cases save_eq
    exact ⟨rfl, rfl, rfl⟩

-- The ends of the edge are only known to the record before it is inserted under a generated key.
theorem saved_is_read_back_of_edge :
    let env : Environment := ⟨fun _ => "k", fun _ => none⟩
    let schema : Schema := ⟨"a", .edge, [], Schema.writeUnchanged⟩
    let store := Store.empty.after env (.createCollection "a" .edge)
    let fields := NameMap.ofList
      [("_from", .string "b/1"), ("_to", .string "b/2"), ("x", .string "1")]
    ∃ built saved after read, ofReference schema (.fields fields) = .ok built ∧
      built.run schema (Store.connector env) [] = built ∧
      built.save schema (Store.connector env) store = (.ok (), saved, after) ∧
      schema.get (Store.connector env) "a/k" after = (.ok (some read), after) ∧
      read.identity = some ⟨"a/k", "k"⟩ ∧ read.source = some "b/1" ∧ read.target = some "b/2" ∧
      ∀ omitted, read.toFields omitted = saved.toFields omitted := by
  intro env schema store fields
  obtain ⟨built, is_built⟩ : ∃ built, ofReference schema (.fields fields) = .ok built := ⟨_, rfl⟩
  have computed : built.identity = none ∧ ¬built.diff.isEmpty ∧
      let outcome := built.save schema (Store.connector env) store
      outcome.1.isOk ∧ outcome.2.1.identity = some ⟨"a/k", "k"⟩ ∧
        outcome.2.1.source = some "b/1" ∧ outcome.2.1.target = some "b/2" := by
    cases is_built
    decide +kernel
  have run_eq : built.run schema (Store.connector env) [] = built := rfl
  rcases save_eq : built.save schema (Store.connector env) store with ⟨result, saved, after⟩
  rw [save_eq] at computed
  obtain ⟨unidentified, nonempty, ok, identified, source, target⟩ := computed
  have inserted := (saved_is_read_back is_built rfl run_eq save_eq).1 unidentified nonempty
  obtain ⟨c, key, read, _, _, _, identity, _, _, got, identity_eq, source_eq, target_eq, shown⟩ :=
    inserted (eq_ok_of_isOk ok)
  cases eq_ok_of_isOk ok
  have made := Option.some.inj (identity.symm.trans identified)
  injection made with id_eq
  rw [id_eq] at got
  exact ⟨built, saved, after, read, is_built, run_eq, save_eq, got, identity_eq.trans identified,
    source_eq.trans source, target_eq.trans target, shown⟩

end Record
end RecordStore
