import RecordStore.Proofs.Record.Saving

-- The life of a record from its construction on: what is true of it at any time, and that it gets
-- an identity at most once and keeps it.

namespace RecordStore.Record

-- What is done with a record once it is built.
inductive Call where
  | set (field : String) (value : Value)
  | save
  | refresh

section

variable (schema : Schema) (conn : Connector σ)

def call (r : Record) (s : σ) : Call → Except Error Unit × Record × σ
  | .set field value =>
    match r.set field value with
    | .ok (_, r) => (.ok (), r, s)
    | .error e => (.error e, r, s)
  | .save => r.save schema conn s
  | .refresh => r.refresh schema conn s

-- The connector may be in any state when a call is made, since others use it as well.
def run (r : Record) (calls : List (σ × Call)) : Record :=
  calls.foldl (fun r (s, c) => (r.call schema conn s c).2.1) r

end

-- What is true of a record at any time.
structure Consistent (schema : Schema) (r : Record) : Prop where
  user : ∀ name, r.fields.contains name → ¬isReserved name
  held : ∀ name, r.dirty.contains name → r.fields.contains name
  settled : ∀ identity, r.identity = some identity →
    r.pendingKey = none ∧ ∃ key, schema.keyOf identity.id = .ok key

variable {schema : Schema} {conn : Connector σ} {r r' : Record} {identity : Identity}

theorem get?_diff_of_free (r : Record) (free : ¬isReserved name) :
    r.diff.get? name = r.changes.get? name := by
  have ne_key : name ≠ keyAttribute := fun eq => free (eq ▸ rfl)
  have ne_from : name ≠ fromAttribute := fun eq => free (eq ▸ rfl)
  have ne_to : name ≠ toAttribute := fun eq => free (eq ▸ rfl)
  unfold diff
  split
  case isTrue => rfl
  case isFalse => simp only [get?_insertIfSome, if_neg ne_key, if_neg ne_from, if_neg ne_to]

namespace Consistent

theorem of_extends (consistent : r.Consistent schema) (extended : r'.Extends r) :
    r'.Consistent schema where
  user name held := (extended.user name held).elim (consistent.user name) id
  held name dirty := extended.held name (consistent.held name (extended.dirty ▸ dirty))
  settled identity identified := by
    rw [extended.pendingKey]
    exact consistent.settled identity (extended.identity ▸ identified)

theorem adopt {document : Fields} (consistent : r.Consistent schema)
    (h : r.adopt schema document = (.ok (), r')) : r'.Consistent schema := by
  obtain ⟨extended, identity, derived, extends_r, rfl, _, key_eq, _⟩ := adopt_eq_ok h
  have consistent := consistent.of_extends extends_r
  refine { consistent with settled := fun identity' eq => ?_ }
  cases eq
  exact ⟨rfl, derived, key_eq⟩

theorem assigned (consistent : r.Consistent schema) {field : String} (free : ¬isReserved field)
    (value : Value) : ((r.setField field value).markDirty field).Consistent schema := by
  refine { consistent.of_extends (.setField r free value) with held := fun name dirty => ?_ }
  simp only [markDirty, setField, NameMap.contains_insert] at dirty ⊢
  exact dirty.imp_right (consistent.held name)

theorem set (consistent : r.Consistent schema) {field : String} {value : Value} {changed : Bool}
    (h : r.set field value = .ok (changed, r')) : r'.Consistent schema := by
  rcases set_eq_ok h with rfl | ⟨free, rfl⟩
  · exact consistent
  · exact consistent.assigned free value

-- Of what has been written, only the user fields become fields of the record.
theorem written (consistent : r.Consistent schema) (diff : Fields) :
    (r.written diff).Consistent schema where
  user name held := by
    rcases (NameMap.contains_override ..).mp held with held | held
    · simpa using (NameMap.contains_filter ..).mp held |>.2
    · exact consistent.user name held
  held name dirty := by cases dirty
  settled := consistent.settled

theorem refreshed (consistent : r.Consistent schema) (document : Fields) :
    (r.refreshed document).Consistent schema where
  user name held := by simpa using (NameMap.contains_filter ..).mp held |>.2
  held name dirty := by cases dirty
  settled := consistent.settled

theorem save (consistent : r.Consistent schema) (conn : Connector σ) (s : σ) :
    (r.save schema conn s).2.1.Consistent schema := by
  have saved := r.saved schema conn s
  generalize r.save schema conn s = outcome at saved
  cases saved with
  | rejected | skipped | notUpdated | notInserted => exact consistent
  | updated => exact consistent.written _
  | inserted _ _ _ _ _ adopted => exact (consistent.adopt adopted).written _
  | notAdopted _ _ _ _ _ failed => exact consistent.of_extends (adopt_eq_error failed)

theorem call (consistent : r.Consistent schema) (conn : Connector σ) (s : σ) (c : Call) :
    (r.call schema conn s c).2.1.Consistent schema := by
  cases c with
  | set field value =>
    simp only [Record.call]
    split
    case h_1 eq => exact consistent.set eq
    case h_2 => exact consistent
  | save => exact consistent.save conn s
  | refresh =>
    rcases refresh_record schema conn r s with eq | ⟨document, eq⟩
    · rw [Record.call, eq]; exact consistent
    · rw [Record.call, eq]; exact consistent.refreshed document

theorem run (consistent : r.Consistent schema) (conn : Connector σ) (calls : List (σ × Call)) :
    (r.run schema conn calls).Consistent schema := by
  induction calls generalizing r with
  | nil => exact consistent
  | cons c calls ih => exact ih (consistent.call conn c.1 c.2)

-- A record that is built from fields without an id takes them one after the other.
theorem takeNew (consistent : r.Consistent schema) (unidentified : r.identity = none)
    (h : r.takeNew schema name v = .ok r') : r'.Consistent schema ∧ r'.identity = none := by
  rcases takeNew_eq_ok h with ⟨free, rfl⟩ | ⟨_, _, _, _, rfl⟩
  · exact ⟨consistent.assigned free v, unidentified⟩
  · refine ⟨{ consistent with settled := fun identity identified => ?_ }, unidentified⟩
    cases unidentified.symm.trans identified

theorem foldlM_takeNew (consistent : r.Consistent schema) (unidentified : r.identity = none)
    {attrs : List (String × Value)}
    (h : attrs.foldlM (fun r e => r.takeNew schema e.1 e.2) r = .ok r') :
    r'.Consistent schema ∧ r'.identity = none := by
  induction attrs generalizing r with
  | nil => cases h; exact ⟨consistent, unidentified⟩
  | cons attr attrs ih =>
    have ⟨next, taken, h⟩ := bind_eq_ok_iff.mp h
    have ⟨consistent, unidentified⟩ := consistent.takeNew unidentified taken
    exact ih consistent unidentified h

theorem empty : Record.empty.Consistent schema :=
  ⟨nofun, nofun, nofun⟩

-- However a record is built, it is consistent at first.
theorem ofReference {reference : Reference} (h : ofReference schema reference = .ok r) :
    r.Consistent schema := by
  cases reference with
  | id id =>
    simp only [Record.ofReference, ofId] at h
    split at h <;> cases h
    case h_1 key key_eq =>
      refine ⟨nofun, nofun, fun identity eq => ?_⟩
      cases eq
      exact ⟨rfl, key, key_eq⟩
  | fields fields =>
    simp only [Record.ofReference, ofFields] at h
    split at h
    case isTrue =>
      split at h <;> cases h
      case h_1 adopted => exact empty.adopt adopted
    case isFalse => exact (empty.foldlM_takeNew rfl h).1

theorem get?_changes_of_reserved (consistent : r.Consistent schema) (reserved : isReserved name) :
    r.changes.get? name = none := by
  refine Option.not_isSome_iff_eq_none.mp fun changed => ?_
  exact consistent.user name (contains_changes.mp changed).1 reserved

-- Apart from the key that is asked for, the only reserved attributes that are inserted are the ends
-- of an edge.
theorem get?_diff_of_reserved (consistent : r.Consistent schema)
    (unidentified : r.identity = none) (ne_key : name ≠ keyAttribute) (reserved : isReserved name) :
    r.diff.get? name =
      if name = fromAttribute then r.source.map .string
      else if name = toAttribute then r.target.map .string
      else none := by
  have unchanged := consistent.get?_changes_of_reserved reserved
  have not_identified : ¬r.isIdentified := by simp [isIdentified, unidentified]
  simp only [diff, if_neg not_identified, get?_insertIfSome, if_neg ne_key, unchanged,
    Option.or_none]
  by_cases is_from : name = fromAttribute
  case pos => simp [is_from, fromAttribute, toAttribute]
  case neg => simp [is_from]

-- Of a record that has been saved before, the dirty fields are what is left to be written.
theorem names_diff (consistent : r.Consistent schema) (identified : r.identity = some identity) :
    r.diff.names = r.dirtyNames := by
  rw [diff_of_identified identified]
  refine NameMap.names_eq_of_contains fun name => contains_changes.trans ?_
  exact and_iff_right_of_imp (consistent.held name)

theorem isDirty_iff (consistent : r.Consistent schema) (identified : r.identity = some identity) :
    r.isDirty ↔ ¬r.diff.isEmpty := by
  rw [NameMap.isEmpty_iff_names, consistent.names_diff identified, dirtyNames,
    ← NameMap.isEmpty_iff_names]
  simp [isDirty]

end Consistent

-- A call leaves the identity of a record as it is, unless the record has none and a successful
-- insertion is answered with the stored document.
theorem call_identity (schema : Schema) (conn : Connector σ) (r : Record) (s : σ) (c : Call) :
    (r.call schema conn s c).2.1.identity = r.identity ∨
      r.identity = none ∧ c = .save ∧ (r.save schema conn s).1 = .ok () ∧
        ∃ diff document, schema.beforeSave r r.diff = .ok diff ∧ ¬diff.isEmpty ∧
          documentOf schema (conn.query (.insert schema.name diff) s).1 = .ok document := by
  cases c with
  | set field value =>
    left
    simp only [call]
    split
    case h_1 eq => rcases set_eq_ok eq with rfl | ⟨_, rfl⟩ <;> rfl
    case h_2 => rfl
  | save =>
    have saved := r.saved schema conn s
    unfold call
    generalize r.save schema conn s = outcome at saved
    cases saved with
    | rejected | skipped | updated | notUpdated | notInserted => exact .inl rfl
    | inserted hook nonempty unidentified answered reply =>
      -- This is the only place where an identity is set.
      exact .inr ⟨unidentified, rfl, rfl, _, _, hook, nonempty, by rwa [answered]⟩
    | notAdopted _ _ _ _ _ failed => exact .inl (adopt_eq_error failed).identity
  | refresh =>
    left
    rcases refresh_record schema conn r s with eq | ⟨_, eq⟩ <;> rw [call, eq]
    rfl

-- By induction on the calls: once there is an identity, no call is of the second kind.
theorem run_identity (identified : r.identity = some identity) (schema : Schema)
    (conn : Connector σ) (calls : List (σ × Call)) :
    (r.run schema conn calls).identity = some identity := by
  induction calls generalizing r with
  | nil => exact identified
  | cons c calls ih =>
    rcases r.call_identity schema conn c.1 c.2 with eq | ⟨unidentified, _⟩
    · exact ih (eq.trans identified)
    · cases unidentified.symm.trans identified

-- However a record is built, and whatever is done with it: its fields are user fields, and the
-- dirty ones are among them. Only a successful insertion gives it an identity, which it then keeps
-- for good. From then on, the dirty fields are what is left to be written.
theorem identified_once {reference : Reference} {built : Record}
    (h : ofReference schema reference = .ok built) (conn : Connector σ) (calls : List (σ × Call)) :
    let r := built.run schema conn calls
    (∀ name, isReserved name → ¬r.fields.contains name ∧ ¬r.dirty.contains name) ∧
    (∀ name, r.dirty.contains name → r.fields.contains name) ∧
    (∀ identity, r.identity = some identity →
      r.pendingKey = none ∧ (∃ key, schema.keyOf identity.id = .ok key) ∧
      (∀ later, (r.run schema conn later).identity = some identity) ∧
      r.diff.names = r.dirtyNames ∧ (r.isDirty ↔ ¬r.diff.isEmpty)) ∧
    (r.identity = none → ∀ s c, (r.call schema conn s c).2.1.identity ≠ none →
      c = .save ∧ (r.save schema conn s).1 = .ok () ∧
        ∃ diff document, schema.beforeSave r r.diff = .ok diff ∧ ¬diff.isEmpty ∧
          documentOf schema (conn.query (.insert schema.name diff) s).1 = .ok document) := by
  intro r
  have consistent : r.Consistent schema := (Consistent.ofReference h).run conn calls
  refine ⟨fun name reserved => ?_, consistent.held, fun identity identified => ?_, ?_⟩
  · have not_held : ¬r.fields.contains name := fun held => consistent.user name held reserved
    exact ⟨not_held, mt (consistent.held name) not_held⟩
  · have ⟨no_key, key_of⟩ := consistent.settled identity identified
    exact ⟨no_key, key_of, run_identity identified schema conn,
      consistent.names_diff identified, consistent.isDirty_iff identified⟩
  · intro unidentified s c identified
    rcases r.call_identity schema conn s c with eq | ⟨_, inserted⟩
    · exact absurd (eq.trans unidentified) identified
    · exact inserted

-- The first save inserts the record under a generated key. The second one finds no collection.
theorem identified_once_of_inserted :
    let conn := Store.connector ⟨fun _ => "k", fun _ => none⟩
    let schema : Schema := ⟨"a", .document, [], Schema.writeUnchanged⟩
    let store := (conn.createCollection "a" .document .empty).2
    let reference := Reference.fields (.ofList [("_rev", .null), ("x", .null)])
    ∃ built, ofReference schema reference = .ok built ∧ built.identity = none ∧
      let r := built.run schema conn
        [(store, .save), (store, .set "y" .null), (store, .set "_key" .null), (.empty, .save)]
      r.identity = some ⟨"a/k", "k"⟩ ∧ r.diff.names = ["y"] ∧ ¬r.fields.contains "_rev" ∧
        ∀ later, (r.run schema conn later).identity = some ⟨"a/k", "k"⟩ := by
  intro conn schema store reference
  refine ⟨_, rfl, rfl, ?_⟩
  intro r
  have is_built : ofReference schema reference = .ok _ := rfl
  have ⟨user, _, settled, _⟩ := identified_once is_built conn
    [(store, .save), (store, .set "y" .null), (store, .set "_key" .null), (.empty, .save)]
  have identified : r.identity = some ⟨"a/k", "k"⟩ := by decide +kernel
  have ⟨_, _, kept, names, _⟩ := settled _ identified
  have dirty : r.dirtyNames = ["y"] := by decide +kernel
  exact ⟨identified, names.trans dirty, (user "_rev" rfl).1, kept⟩

end RecordStore.Record
