import RecordStore.Proofs.Record.Wrapping

-- Records that are got and records that are refreshed. Both show what is stored under their id and
-- nothing else, although they come by it in different ways: a record that is got adopts the
-- document, and one that is refreshed replaces what it has.

namespace RecordStore

variable {schema : Schema} {env : Environment} {store : Store} {id : String} {r other : Record}
  {document : Fields}

-- A record that is got is one of the document that is held under the key in its id.
theorem Schema.exists_held_of_get (reachable : store.Reachable)
    (got : (schema.get (Store.connector env) id store).1 = .ok (some r)) :
    ∃ key document, schema.keyOf id = .ok key ∧ store.held? schema.name key = some document ∧
      r.identity = some ⟨id, key⟩ ∧ r.Wraps document := by
  have ⟨document, read, made⟩ := get_eq_some got
  obtain ⟨stored, rfl, rfl⟩ := Stored.exists_of_document reachable read
  have contained : stored.document.contains idAttribute := NameMap.contains_of_get? stored.id_held
  have adopted := (Record.ofFields_eq_ok_iff contained).mp made
  obtain ⟨id', key, id_held, key_eq, identified⟩ := Record.identity_of_adopt adopted
  cases stored.id_held.symm.trans id_held
  cases stored.keyOf_eq key_eq
  have held : stored.store.held? schema.name stored.key = some stored.document := by
    rw [Store.held?_eq stored.held, Collection.find?_eq_getElem? stored.position?_eq,
      stored.at_index]
  rw [stored.key_held] at identified
  exact ⟨stored.key, stored.document, key_eq, held, identified,
    Record.wraps_of_adopt stored.key_held adopted⟩

namespace Record

-- Whatever the fields of a record were, it shows the document once it has been refreshed, unless it
-- has other ends.
theorem Wraps.refreshed_eq (wraps : r.Wraps document) (same : other.identity = r.identity)
    (source : other.source = none ∨ other.source = r.source)
    (target : other.target = none ∨ other.target = r.target) :
    other.refreshed document = { r with pendingKey := other.pendingKey } := by
  have end_eq {name : String} {known read : Option String}
      (held : document.get? name = read.map .string)
      (known_eq : known = none ∨ known = read) :
        known.or ((document.get? name).bind Value.string?) = read := by
    have read_eq : (document.get? name).bind Value.string? = read := by
      rw [held]
      cases read <;> rfl
    rw [read_eq]
    rcases known_eq with rfl | rfl
    · exact Option.none_or
    · exact Option.or_self
  have system : r.system = document.filter fun name _ => isReserved name && !(name == idAttribute ||
      name == keyAttribute || name == fromAttribute || name == toAttribute) := by
    rw [wraps.system]
    simp only [links, List.contains_cons, List.contains_nil, Bool.or_false, Bool.or_assoc]
  have source_eq : other.source.or ((document.get? fromAttribute).bind Value.string?) = r.source :=
    end_eq wraps.source source
  have target_eq : other.target.or ((document.get? toAttribute).bind Value.string?) = r.target :=
    end_eq wraps.target target
  simp only [refreshed, source_eq, target_eq, same, ← wraps.fields, ← system, ← wraps.clean.1]

-- To get a record and to refresh one are the same, whether the latter has just been built from the
-- id or has been changed in the meantime. Only the key that has been asked for before it was
-- inserted is left as it was.
theorem refreshed_as_got (reachable : store.Reachable)
    (got : (schema.get (Store.connector env) id store).1 = .ok (some r)) :
    (r.id? = some id ∧ r.dirty = ∅) ∧
    (∃ built, ofReference schema (.id id) = .ok built ∧
      built.refresh schema (Store.connector env) store = (.ok (), r, store)) ∧
    ∀ other : Record, other.id? = some id → other.key? = r.key? →
      (other.source = none ∨ other.source = r.source) →
      (other.target = none ∨ other.target = r.target) →
      other.refresh schema (Store.connector env) store =
        (.ok (), { r with pendingKey := other.pendingKey }, store) := by
  obtain ⟨key, document, key_eq, held, identified, wraps⟩ := Schema.exists_held_of_get reachable got
  have agree (other : Record) (same : other.identity = r.identity)
      (source : other.source = none ∨ other.source = r.source)
      (target : other.target = none ∨ other.target = r.target) :
      other.refresh schema (Store.connector env) store =
        (.ok (), { r with pendingKey := other.pendingKey }, store) := by
    rw [refresh_of_keyOf (same.trans identified) key_eq, held]
    simp only [wraps.refreshed_eq same source target]
  refine ⟨⟨by simp [id?, identified], wraps.clean.1⟩, ?built, ?other⟩
  case built =>
    refine ⟨{ empty with identity := some ⟨id, key⟩ }, by simp [ofReference, ofId, key_eq], ?_⟩
    rw [agree _ identified.symm (.inl rfl) (.inl rfl)]
    simp only [empty, ← wraps.clean.2]
  case other =>
    intro other id_eq key_same source target
    refine agree other ?_ source target
    obtain ⟨⟨id', key'⟩, eq, rfl⟩ := Option.map_eq_some_iff.mp id_eq
    have key_same : key' = key := by simpa [key?, eq, identified] using key_same
    rw [eq, identified, key_same]

-- An edge that one end is known of is given the other one. The field that has been changed is read
-- again, and the one that is not stored is gone.
theorem refreshed_as_got_of_edge :
    let conn := Store.connector ⟨fun _ => "k", fun _ => none⟩
    let schema : Schema := ⟨"links", .edge, [], Schema.writeUnchanged⟩
    let store := [
      Store.Operation.createCollection "links" .edge,
      .importDocuments "links" [.ofList [("_key", .string "a"), ("_from", .string "items/b"),
        ("_to", .string "items/c"), ("_rev", .string "1"), ("w", .string "2")]]].foldl
          (Store.after ⟨fun _ => "k", fun _ => none⟩) .empty
    let other : Record := { empty with
      identity := some ⟨"links/a", "a"⟩
      source := some "items/b"
      fields := .ofList [("v", .null), ("w", .string "3")]
      dirty := .ofList [("v", ()), ("w", ())] }
    ∃ r, (schema.get conn "links/a" store).1 = .ok (some r) ∧
      (r.fields.get? "w").bind Value.string? = some "2" ∧ r.fields.names = ["w"] ∧
      r.target = some "items/c" ∧
      (∃ built, ofReference schema (.id "links/a") = .ok built ∧
        built.refresh schema conn store = (.ok (), r, store)) ∧
      other.refresh schema conn store = (.ok (), { r with pendingKey := none }, store) := by
  intro conn schema store other
  have legal (n : Nat) : LegalKey "k" := by simp [LegalKey]
  have reachable : store.Reachable := Store.Reachable.empty.run legal _
  have computed : ((schema.get conn "links/a" store).1.toOption.join.map fun r =>
      (r.key?, r.source, r.target, r.fields.names, (r.fields.get? "w").bind Value.string?)) =
        some (some "a", some "items/b", some "items/c", ["w"], some "2") := by
    decide +kernel
  obtain ⟨r, found, shown⟩ := Option.map_eq_some_iff.mp computed
  obtain ⟨key, source, target, names, field⟩ : r.key? = some "a" ∧ r.source = some "items/b" ∧
      r.target = some "items/c" ∧ r.fields.names = ["w"] ∧
      (r.fields.get? "w").bind Value.string? = some "2" := by
    simpa only [Prod.mk.injEq] using shown
  have got : (schema.get conn "links/a" store).1 = .ok (some r) := by
    cases answer : (schema.get conn "links/a" store).1 with
    | error => rw [answer] at found; cases found
    | ok read =>
      have read_eq : read = some r := by simpa [answer, Except.toOption] using found
      rw [read_eq]
  obtain ⟨_, built, others⟩ := refreshed_as_got reachable got
  exact ⟨r, got, field, names, target, built,
    others other rfl key.symm (.inr source.symm) (.inl rfl)⟩

end Record
end RecordStore
