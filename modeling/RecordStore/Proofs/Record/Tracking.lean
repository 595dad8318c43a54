import RecordStore.Proofs.Record.Lifecycle
import RecordStore.Proofs.Record.Sending

-- What a record remembers of the assignments to its fields: all that have changed a field since the
-- fields were last those of the store, and nothing else.

namespace RecordStore

namespace Record

def assign (r : Record) (field : String) (value : Value) : Record :=
  (r.setField field value).markDirty field

-- The field and the value of an assignment that has changed something.
def assignment? (r : Record) : Call → Option (String × Value)
  | .set field value =>
    match r.set field value with
    | .ok (true, _) => some (field, value)
    | _ => none
  | _ => none

section

variable (schema : Schema) (conn : Connector σ) (r : Record) (s : σ)

-- The document that a refresh finds.
def found? : Option Fields :=
  r.id?.bind fun id =>
    match (schema.readDocument conn id s).1 with
    | .ok document? => document?
    | .error _ => none

-- Whether a record has the fields of the store after a call: either a save has written them, or a
-- refresh has found them.
def settles : Call → Bool
  | .set _ _ => false
  | .save =>
    match schema.beforeSave r r.diff with
    | .ok diff => !diff.isEmpty && (r.save schema conn s).1.isOk
    | .error _ => false
  | .refresh => (r.found? schema conn s).isSome

end

variable {schema : Schema} {conn : Connector σ} {r r' : Record} {s : σ} {c : Call}
  {identity : Identity}
  {field : String} {value : Value}

theorem set_eq_assign {changed : Bool} (h : r.set field value = .ok (changed, r')) :
    r' = if changed then r.assign field value else r := by
  rcases r.set_of_free (free_of_set h) value with ⟨_, eq⟩ | ⟨_, eq⟩ <;> cases eq.symm.trans h <;>
    rfl

theorem refresh_eq_found (schema : Schema) (conn : Connector σ) (r : Record) (s : σ) :
    (r.refresh schema conn s).2.1 = match r.found? schema conn s with
      | some document => r.refreshed document
      | none => r := by
  unfold refresh found?
  cases r.id? with
  | none => rfl
  | some id =>
    rcases answer : schema.readDocument conn id s with ⟨_ | _ | document, s'⟩ <;> simp [answer]

theorem clean_of_settles (h : r.settles schema conn s c) :
    (r.call schema conn s c).2.1.dirty = ∅ := by
  cases c with
  | set => cases h
  | save =>
    have saved := r.saved schema conn s
    simp only [settles] at h
    simp only [call]
    generalize r.save schema conn s = outcome at saved h
    cases saved with
    | updated | inserted => rfl
    | skipped hook empty => simp [hook, empty] at h
    | rejected hook | notUpdated hook | notInserted hook | notAdopted hook =>
      simp [hook, Except.isOk, Except.toBool] at h
  | refresh =>
    obtain ⟨document, found⟩ := Option.isSome_iff_exists.mp h
    rw [call, refresh_eq_found, found]
    rfl

-- All that another call can do to a record that has an identity is to assign a field.
theorem call_of_not_settles (identified : r.identity = some identity)
    (h : ¬r.settles schema conn s c) :
    (r.call schema conn s c).2.1 = match r.assignment? c with
      | some (field, value) => r.assign field value
      | none => r := by
  cases c with
  | set field value =>
    simp only [call, assignment?]
    rcases result : r.set field value with _ | ⟨_ | _, r'⟩
    case error => rfl
    case ok.false => exact set_eq_assign result
    case ok.true => exact set_eq_assign result
  | save =>
    have saved := r.saved schema conn s
    simp only [settles] at h
    simp only [call, assignment?]
    generalize r.save schema conn s = outcome at saved h
    cases saved with
    | rejected | skipped | notUpdated => rfl
    | updated hook nonempty => simp [hook, nonempty, Except.isOk, Except.toBool] at h
    | inserted _ _ unidentified | notInserted _ _ unidentified | notAdopted _ _ unidentified =>
      cases unidentified.symm.trans identified
  | refresh =>
    have not_found : r.found? schema conn s = none := by simpa [settles] using h
    rw [call, refresh_eq_found, not_found]
    rfl

-- A record that is built with an identity has nothing to be written.
theorem clean_of_ofReference {reference : Reference} (h : ofReference schema reference = .ok r)
    (identified : r.identity ≠ none) : r.dirty = ∅ := by
  cases reference with
  | id id =>
    simp only [ofReference, ofId] at h
    split at h <;> cases h
    rfl
  | fields fields =>
    simp only [ofReference, ofFields] at h
    split at h
    case isTrue =>
      split at h <;> cases h
      case h_1 adopted =>
        obtain ⟨_, _, _, extended, eq, _⟩ := adopt_eq_ok adopted
        rw [eq]
        exact extended.dirty
    case isFalse => exact absurd (Consistent.empty.foldlM_takeNew rfl h).2 identified

-- A call that gives a record its identity settles it.
theorem identity_of_not_settles (h : ¬r.settles schema conn s c) :
    (r.call schema conn s c).2.1.identity = r.identity := by
  rcases r.call_identity schema conn s c with eq | ⟨_, rfl, ok, diff, _, hook, nonempty, _⟩
  · exact eq
  · simp [settles, hook, nonempty, ok, Except.isOk, Except.toBool] at h

end Record

-- A record together with the fields that it had when it was settled last, and the assignments that
-- have changed a field since then, the last one at the end.
structure Tracked where
  record : Record
  baseline : Fields
  assigned : List (String × Value)

namespace Tracked

def start (r : Record) : Tracked where
  record := r
  baseline := r.fields
  assigned := []

section

variable (schema : Schema) (conn : Connector σ)

def call (t : Tracked) (s : σ) (c : Record.Call) : Tracked :=
  let r := (t.record.call schema conn s c).2.1
  if t.record.settles schema conn s c then start r
  else { t with record := r, assigned := t.assigned ++ (t.record.assignment? c).toList }

def run (t : Tracked) (calls : List (σ × Record.Call)) : Tracked :=
  calls.foldl (fun t (s, c) => t.call schema conn s c) t

end

-- The assignments are all that sets the record apart from its baseline.
structure Faithful (t : Tracked) : Prop where
  dirty : ∀ field, t.record.dirty.contains field ↔ ∃ value, (field, value) ∈ t.assigned
  fields : ∀ field, t.record.fields.get? field =
    (t.assigned.reverse.lookup field).or (t.baseline.get? field)

variable {schema : Schema} {conn : Connector σ} {t : Tracked} {identity : Identity}

theorem lookup_assigned_eq_none_iff {field : String} :
    t.assigned.reverse.lookup field = none ↔ ¬∃ value, (field, value) ∈ t.assigned := by
  rw [List.lookup_eq_none_iff]
  constructor
  · rintro absent ⟨value, mem⟩
    simpa using absent _ (List.mem_reverse.mpr mem)
  · intro absent e mem
    refine bne_iff_ne.mpr fun eq => absent ⟨e.2, ?_⟩
    rw [eq]
    exact List.mem_reverse.mp mem

namespace Faithful

theorem start {r : Record} (clean : r.dirty = ∅) : (Tracked.start r).Faithful where
  dirty field := by
    rw [Tracked.start, clean]
    exact iff_of_false nofun nofun
  fields _ := rfl

theorem assign (faithful : t.Faithful) (field : String) (value : Value) :
    Faithful { t with
      record := t.record.assign field value, assigned := t.assigned ++ [(field, value)] } where
  dirty other := by
    simp only [Record.assign, Record.markDirty, Record.setField, NameMap.contains_insert,
      faithful.dirty, List.mem_append, List.mem_singleton, Prod.mk.injEq, exists_or,
        exists_and_left,
      exists_eq, and_true]
    exact or_comm
  fields other := by
    simp only [Record.assign, Record.markDirty, Record.setField, NameMap.get?_insert,
      List.reverse_append, List.reverse_cons, List.reverse_nil, List.nil_append, List.cons_append,
      NameMap.lookup_cons]
    split
    case isTrue => rfl
    case isFalse => exact faithful.fields other

-- Before a record has an identity, all of its fields may be dirty.
theorem call (faithful : t.record.identity ≠ none → t.Faithful) (conn : Connector σ) (s : σ)
    (c : Record.Call) (identified : (t.call schema conn s c).record.identity ≠ none) :
    (t.call schema conn s c).Faithful := by
  unfold Tracked.call at identified ⊢
  split
  case isTrue settled => exact start (Record.clean_of_settles settled)
  case isFalse not_settled =>
    rw [if_neg not_settled] at identified
    dsimp only at identified ⊢
    rw [Record.identity_of_not_settles not_settled] at identified
    have ⟨identity, eq⟩ := Option.ne_none_iff_exists'.mp identified
    rw [Record.call_of_not_settles eq not_settled]
    cases t.record.assignment? c with
    | none => simpa using faithful identified
    | some e => exact (faithful identified).assign e.1 e.2

theorem run (faithful : t.record.identity ≠ none → t.Faithful) (conn : Connector σ)
    (calls : List (σ × Record.Call))
    (identified : (t.run schema conn calls).record.identity ≠ none) :
    (t.run schema conn calls).Faithful := by
  induction calls generalizing t with
  | nil => exact faithful identified
  | cons c calls ih => exact ih (call faithful conn c.1 c.2) identified

-- What is to be written is what has been assigned last.
theorem get?_diff (faithful : t.Faithful) (identified : t.record.identity = some identity)
    (field : String) : t.record.diff.get? field = t.assigned.reverse.lookup field := by
  rw [Record.diff_of_identified identified, Record.changes, NameMap.get?_filter, faithful.fields]
  cases assigned : t.assigned.reverse.lookup field with
  | none =>
    have clean := mt (faithful.dirty field).mp (lookup_assigned_eq_none_iff.mp assigned)
    cases t.baseline.get? field <;> simp [Option.filter, clean]
  | some value =>
    have dirty : t.record.dirty.contains field := by
      refine (faithful.dirty field).mpr (Classical.byContradiction fun absent => ?_)
      cases assigned.symm.trans (lookup_assigned_eq_none_iff.mpr absent)
    simp [Option.filter, dirty]

theorem fields_eq (faithful : t.Faithful) (identified : t.record.identity = some identity) :
    t.record.fields = t.baseline.override t.record.diff := by
  refine NameMap.ext_get? fun field => ?_
  rw [NameMap.get?_override, faithful.get?_diff identified, faithful.fields]

end Faithful

theorem run_record (schema : Schema) (conn : Connector σ) (t : Tracked)
    (calls : List (σ × Record.Call)) :
    (t.run schema conn calls).record = t.record.run schema conn calls := by
  induction calls generalizing t with
  | nil => rfl
  | cons c calls ih =>
    have step : (t.call schema conn c.1 c.2).record = (t.record.call schema conn c.1 c.2).2.1 := by
      unfold call
      split <;> rfl
    have := ih (t.call schema conn c.1 c.2)
    rw [step] at this
    exact this

-- Whatever is done with a record that has an identity, its fields are those that it had when they
-- were last the ones of the store, with what is to be written over them. This is exactly what has
-- been assigned since then, each field as it has been assigned last, and it is what the next update
-- is made of.
theorem changes_since_settled {reference : Reference} {built : Record}
    (h : Record.ofReference schema reference = .ok built) (conn : Connector σ)
    (calls : List (σ × Record.Call)) :
    let t := (start built).run schema conn calls
    t.record = built.run schema conn calls ∧
    ∀ identity, t.record.identity = some identity →
      t.record.fields = t.baseline.override t.record.diff ∧
      (∀ field, ¬t.record.dirty.contains field →
        t.record.fields.get? field = t.baseline.get? field) ∧
      (∀ field, t.record.dirty.contains field ↔ ∃ value, (field, value) ∈ t.assigned) ∧
      t.record.diff.names = t.record.dirtyNames ∧
      (∀ field, t.record.diff.get? field = t.assigned.reverse.lookup field) ∧
      ∀ s diff, schema.beforeSave t.record t.record.diff = .ok diff → ¬diff.isEmpty →
        (t.record.save schema (Scripted.connector conn) ⟨s, [], []⟩).2.2.sent =
          [.update schema.name identity.key diff] := by
  intro t
  have record_eq : t.record = built.run schema conn calls := run_record schema conn _ calls
  refine ⟨record_eq, fun identity identified => ?_⟩
  have consistent : t.record.Consistent schema :=
    record_eq ▸ (Record.Consistent.ofReference h).run conn calls
  have clean : built.identity ≠ none → (start built).Faithful := fun stored =>
    .start (Record.clean_of_ofReference h stored)
  have faithful : t.Faithful := Faithful.run clean conn calls (by simp [t, identified])
  have get?_diff := faithful.get?_diff identified
  refine ⟨faithful.fields_eq identified, fun field unassigned => ?_, faithful.dirty,
    consistent.names_diff identified, get?_diff, fun s diff hook nonempty => ?_⟩
  · rw [faithful.fields, lookup_assigned_eq_none_iff.mpr (mt (faithful.dirty field).mpr unassigned),
      Option.none_or]
  · rw [Record.save_eq_answered hook nonempty, Scripted.query_eq, Record.writing, identified]
    rfl

-- The first save inserts the record. The second one fails, since it is given a store without the
-- document, and the field is assigned once more after that. The other field is assigned the value
-- that it has anyway.
theorem changes_since_settled_of_failed_save :
    let conn := Store.connector ⟨fun _ => "k", fun _ => none⟩
    let schema : Schema := ⟨"a", .document, [], Schema.writeUnchanged⟩
    let store := (conn.createCollection "a" .document .empty).2
    let reference := Reference.fields (.ofList [("x", .string "1"), ("y", .string "2")])
    ∃ built, Record.ofReference schema reference = .ok built ∧
      let t := (start built).run schema conn [
        (store, .save), (store, .set "x" (.string "3")), (store, .save),
        (store, .set "x" (.string "4")), (store, .set "y" (.string "2"))]
      t.record.diff.names = ["x"] ∧ (t.record.diff.get? "x").bind Value.string? = some "4" ∧
        t.record.fields = t.baseline.override t.record.diff ∧
        (t.baseline.get? "x").bind Value.string? = some "1" := by
  intro conn schema store reference
  refine ⟨_, rfl, ?_⟩
  intro t
  have is_built : Record.ofReference schema reference = .ok _ := rfl
  have tracked := changes_since_settled is_built conn [
    (store, .save), (store, .set "x" (.string "3")), (store, .save),
    (store, .set "x" (.string "4")), (store, .set "y" (.string "2"))]
  have identified : t.record.identity = some ⟨"a/k", "k"⟩ := by decide +kernel
  obtain ⟨fields_eq, _, _, names, get?_diff, _⟩ := tracked.2 _ identified
  have dirty : t.record.dirtyNames = ["x"] := by decide +kernel
  refine ⟨names.trans dirty, ?_, fields_eq, by decide +kernel⟩
  rw [get?_diff]
  decide +kernel

end Tracked
end RecordStore
