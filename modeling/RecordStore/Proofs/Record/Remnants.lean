import RecordStore.Proofs.Record.Lifecycle

-- What a save that fails leaves behind in the record: nothing, unless a document has
-- come back for it.
--
-- Of such a document, the attributes that precede the first wrong one have been taken over by then.

namespace RecordStore.Record

variable {schema : Schema} {document : Fields} {r r' : Record} {attrs : List (String × Value)}

-- Links have to be strings.
def isTakeable (attr : String × Value) : Bool :=
  !links.contains attr.1 || attr.2.string?.isSome

theorem isTakeable_iff {attr : String × Value} :
    isTakeable attr ↔ (attr.1 ∈ links → ∃ s, attr.2 = .string s) := by
  have string_iff : attr.2.string?.isSome ↔ ∃ s, attr.2 = .string s := by
    cases attr.2 <;> simp [Value.string?]
  simp [isTakeable, ← string_iff, imp_iff_not_or]

-- The attributes before the first one that cannot be taken.
def leading (attrs : List (String × Value)) : List (String × Value) :=
  attrs.takeWhile isTakeable

-- The last string of a name.
def lastString? (attrs : List (String × Value)) (name : String) : Option String :=
  attrs.reverse.findSome? fun e => if e.1 = name then e.2.string? else none

theorem mem_of_lastString? (h : lastString? attrs name = some s) : (name, .string s) ∈ attrs := by
  have ⟨e, mem, found⟩ := List.exists_of_findSome?_eq_some h
  split at found
  case isFalse => cases found
  case isTrue eq =>
    obtain ⟨_, v⟩ := e
    cases v <;> cases found
    exact eq ▸ List.mem_reverse.mp mem

-- The record with all that is listed laid over it, apart from its identity.
def overlaid (r : Record) (attrs : List (String × Value)) : Record :=
  { r with
    source := (lastString? attrs fromAttribute).or r.source
    target := (lastString? attrs toAttribute).or r.target
    fields := r.fields.insertAll (attrs.filter fun e => !isReserved e.1)
    system := r.system.insertAll (attrs.filter fun e => isReserved e.1 && !links.contains e.1) }

theorem overlaid_append (r : Record) (front back : List (String × Value)) :
    r.overlaid (front ++ back) = (r.overlaid front).overlaid back := by
  simp [overlaid, lastString?, NameMap.insertAll, Option.or_assoc]

theorem overlaid_link (r : Record) (link : name ∈ links) (v : Value) :
    r.overlaid [(name, v)] =
      { r with
        source := (if name = fromAttribute then v.string? else none).or r.source
        target := (if name = toAttribute then v.string? else none).or r.target } := by
  simp [overlaid, lastString?, NameMap.insertAll, link, isReserved_of_mem_links link]

theorem overlaid_other (r : Record) (other : name ∉ links) (v : Value) :
    r.overlaid [(name, v)] = if isReserved name then r.setSystem name v else r.setField name v := by
  have ne {link} (mem : link ∈ links) : name ≠ link := fun eq => other (eq ▸ mem)
  have ne_from : name ≠ fromAttribute := ne (by decide)
  have ne_to : name ≠ toAttribute := ne (by decide)
  cases reserved : isReserved name <;>
    simp [overlaid, lastString?, NameMap.insertAll, setField, setSystem, other, reserved, ne_from,
      ne_to]

namespace Adoption

variable {a a' : Adoption}

-- To take an attribute is to lay it over the record.
theorem record_take (h : a.take name v = .ok a') : a'.record = a.record.overlaid [(name, v)] := by
  cases take_eq_ok h with
  | id | key | source | target => rw [overlaid_link _ (by decide)]; rfl
  | system other reserved => rw [overlaid_other _ other, if_pos reserved]
  | user free => rw [overlaid_other _ (mt isReserved_of_mem_links free), if_neg free]

theorem record_takeAll (a : Adoption) (attrs : List (String × Value)) :
    (a.takeAll attrs).2.record = a.record.overlaid (leading attrs) := by
  induction attrs generalizing a with
  | nil => rfl
  | cons attr attrs ih =>
    have takeable : (∃ a', a.take attr.1 attr.2 = .ok a') ↔ isTakeable attr :=
      (take_isOk_iff a attr.1 attr.2).trans isTakeable_iff.symm
    simp only [takeAll]
    split
    case h_1 next taken =>
      rw [ih next, record_take taken, ← overlaid_append, leading, leading,
        List.takeWhile_cons_of_pos (takeable.mp ⟨_, taken⟩)]
      rfl
    case h_2 e wrong =>
      have not_takeable : ¬isTakeable attr := by simp [← takeable, wrong]
      rw [leading, List.takeWhile_cons_of_neg not_takeable]
      rfl

end Adoption

theorem adopt_error_eq (h : r.adopt schema document = (.error e, r')) :
    r' = r.overlaid (leading document.entries) :=
  (record_of_adopt_error h).trans (Adoption.record_takeAll ⟨r, none, none⟩ document.entries)

-- Of a record that has been laid over, all that is new stands in the document under the same name.
structure ChangedWithin (r : Record) (document : Fields) (r' : Record) : Prop where
  fields : ∀ name, r'.fields.get? name ≠ r.fields.get? name →
    ¬isReserved name ∧ ∃ v, document.get? name = some v ∧ r'.fields.get? name = some v
  system : ∀ name, r'.system.get? name ≠ r.system.get? name →
    (isReserved name ∧ name ∉ links) ∧ ∃ v, document.get? name = some v ∧
    r'.system.get? name = some v
  source : r'.source ≠ r.source → ∃ s, document.get? "_from" = some (.string s) ∧ r'.source = some s
  target : r'.target ≠ r.target → ∃ s, document.get? "_to" = some (.string s) ∧ r'.target = some s

theorem changedWithin_of_overlaid (r : Record) (listed : attrs ⊆ document.entries) :
    r.ChangedWithin document (r.overlaid attrs) := by
  have held {name v} (mem : (name, v) ∈ attrs) : document.get? name = some v :=
    NameMap.get?_eq_some_iff.mpr (listed mem)
  have endpoint (name : String) (known : Option String)
      (changed : (lastString? attrs name).or known ≠ known) :
      ∃ s, document.get? name = some (.string s) ∧ (lastString? attrs name).or known = some s := by
    cases last : lastString? attrs name with
    | none => simp [last] at changed
    | some s => exact ⟨s, held (mem_of_lastString? last), rfl⟩
  constructor
  case fields =>
    intro name changed
    have ⟨v, mem, eq⟩ := NameMap.mem_of_get?_insertAll_ne changed
    have ⟨mem, free⟩ := List.mem_filter.mp mem
    exact ⟨by simpa using free, v, held mem, eq⟩
  case system =>
    intro name changed
    have ⟨v, mem, eq⟩ := NameMap.mem_of_get?_insertAll_ne changed
    have ⟨mem, other⟩ := List.mem_filter.mp mem
    exact ⟨by simpa using other, v, held mem, eq⟩
  case source => exact endpoint fromAttribute r.source
  case target => exact endpoint toAttribute r.target

theorem changedWithin_of_adopt_error (h : r.adopt schema document = (.error e, r')) :
    r.ChangedWithin document r' := by
  rw [adopt_error_eq h]
  exact r.changedWithin_of_overlaid (List.takeWhile_prefix isTakeable).subset

-- A failed save leaves the record as it was, unless the record has no identity yet and its
-- insertion is answered by an object. What precedes the first wrong attribute of the object has
-- then been taken over.
theorem remnants_of_failed_save (conn : Connector σ)
    (h : r.save schema conn s = (.error e, r', s')) :
    r'.dirty = r.dirty ∧ r'.pendingKey = r.pendingKey ∧ r'.identity = r.identity ∧
    (∀ name, isReserved name → r'.fields.get? name = r.fields.get? name) ∧
    (r' = r ∨ r.identity = none ∧ ∃ diff cursor document,
      schema.beforeSave r r.diff = .ok diff ∧ ¬diff.isEmpty ∧
      conn.query (.insert schema.name diff) s = (.ok cursor, s') ∧
      cursor.first = .ok (some (.object document)) ∧
      r' = r.overlaid (leading document.entries) ∧
      r.ChangedWithin document r') := by
  have saved := r.saved schema conn s
  rw [h] at saved
  cases saved with
  | rejected | notUpdated | notInserted => exact ⟨rfl, rfl, rfl, fun _ _ => rfl, .inl rfl⟩
  | notAdopted hook nonempty unidentified answered reply failed =>
    obtain ⟨cursor, rfl, first⟩ := documentOf_eq_ok reply
    have extended := adopt_eq_error failed
    have changed := changedWithin_of_adopt_error failed
    refine ⟨extended.dirty, extended.pendingKey, extended.identity, fun name reserved => ?_,
      .inr ⟨unidentified, ?_⟩⟩
    · exact not_not.mp fun differ => (changed.fields name differ).1 reserved
    · exact ⟨_, cursor, _, hook, nonempty, answered, first, adopt_error_eq failed, changed⟩

-- The id is wrong, so that only what stands before it has been taken over.
theorem remnants_of_failed_save_of_wrong_id :
    let conn := Scripted.connector (Store.connector ⟨fun _ => "k", fun _ => none⟩)
    let schema : Schema := ⟨"owns", .edge, [], Schema.writeUnchanged⟩
    let r := (Record.empty.setField "b" (.string "x")).markDirty "b"
    let reply := Value.ofList
      [("A", .string "x"), ("_from", .string "users/a"), ("_id", .bool true), ("b", .string "y")]
    let (result, r', _) := r.save schema conn ⟨.empty, [.ok [.ok reply]], []⟩
    ¬result.isOk ∧ r'.dirty = r.dirty ∧ r'.identity = none ∧ r'.source = some "users/a" ∧
      ["A", "b"].map (fun name => (r'.fields.get? name).bind Value.string?) = [some "x", some "x"] ∧
      ∃ document, r.ChangedWithin document r' := by
  intro conn schema r reply
  have computed :
      let (result, r', _) := r.save schema conn ⟨.empty, [.ok [.ok reply]], []⟩
      result.isOk = false ∧ r'.source = some "users/a" ∧
        ["A", "b"].map (fun name => (r'.fields.get? name).bind Value.string?) =
          [some "x", some "x"] := by
    decide +kernel
  rcases saved : r.save schema conn ⟨.empty, [.ok [.ok reply]], []⟩ with ⟨e | ⟨⟩, r', world'⟩ <;>
    rw [saved] at computed
  case ok => cases computed.1
  case error =>
    obtain ⟨_, source, fields⟩ := computed
    obtain ⟨dirty, _, identity, _, rfl | ⟨_, _, _, members, _, _, _, _, _, changed⟩⟩ :=
      remnants_of_failed_save conn saved
    · cases source
    · exact ⟨nofun, dirty, identity, source, fields, _, changed⟩

end RecordStore.Record
