import RecordStore.Proofs.Record.Wrapping
import RecordStore.Proofs.Schema.Reference

namespace RecordStore.Record

variable {schema : Schema} {r : Record} {document : Fields}

-- The names under which the identity and the ends of an edge are serialized.
def sigilNames : List String := ["$id", "$key", "$from", "$to"]

-- What a record serializes under a name.
def serialized? (r : Record) (name : String) : Option Value :=
  if name = "$id" then r.id?.map .string
  else if name = "$key" then r.key?.map .string
  else if name = "$from" then r.source.map .string
  else if name = "$to" then r.target.map .string
  else if isReserved name then none
  else r.fields.get? name

-- No field comes under the name of the identity, since such names are reserved.
theorem get?_toFields (r : Record) (omitted : List String) (name : String) :
    (r.toFields omitted).get? name =
      if omitted.contains name then none else r.serialized? name := by
  rw [toFields, NameMap.get?_filter_names]
  simp only [get?_insertIfSome, NameMap.get?_filter_names, serialized?]
  cases omitted.contains name
  case true => rfl
  case false =>
    by_cases is_to : name = "$to"
    case pos => subst is_to; cases r.target <;> rfl
    by_cases is_from : name = "$from"
    case pos => subst is_from; cases r.source <;> rfl
    by_cases is_key : name = "$key"
    case pos => subst is_key; cases r.key? <;> rfl
    by_cases is_id : name = "$id"
    case pos => subst is_id; cases r.id? <;> rfl
    simp only [is_to, is_from, is_key, is_id, if_false]
    cases isReserved name <;> rfl

theorem isReserved_of_mem_sigilNames (sigil : name ∈ sigilNames) : isReserved name := by
  revert name
  simp only [sigilNames, List.forall_mem_cons]
  decide

theorem serialized?_of_notMem (r : Record) (other : name ∉ sigilNames) :
    r.serialized? name = if isReserved name then none else r.fields.get? name := by
  simp only [sigilNames, List.mem_cons, List.not_mem_nil, or_false, not_or] at other
  simp [serialized?, other]

-- Names that are omitted make no difference to the others.
theorem toFields_omitted (r : Record) (omitted : List String) :
    r.toFields omitted = (r.toFields []).filter fun name _ => !omitted.contains name := by
  refine NameMap.ext_get? fun name => ?_
  rw [NameMap.get?_filter_names, get?_toFields, get?_toFields]
  cases omitted.contains name <;> rfl

-- All that is serialized of a stored document. The key is the one that is part of the id if there
-- is no other.
structure Serializes (document out : Fields) : Prop where
  user : ∀ name, ¬isReserved name → out.get? name = document.get? name
  id : out.get? "$id" = document.get? "_id"
  key : ∀ v, document.get? "_key" = some v → out.get? "$key" = some v
  key_of_id : document.get? "_key" = none →
    ∃ name key, document.get? "_id" = some (.string (name ++ "/" ++ key)) ∧
    '/' ∉ name.toList ∧ out.get? "$key" = some (.string key)
  source : out.get? "$from" = document.get? "_from"
  target : out.get? "$to" = document.get? "_to"
  rest : ∀ name, isReserved name → name ∉ sigilNames → out.get? name = none

theorem serializes_of_adopt (h : empty.adopt schema document = (.ok (), r)) :
    Serializes document (r.toFields []) := by
  have out (name) : (r.toFields []).get? name = r.serialized? name := r.get?_toFields [] name
  have ⟨id, derived, id_held, key_eq, identified⟩ := identity_of_adopt h
  have ⟨id_eq, named, _⟩ := Schema.keyOf_eq_ok_iff.mp key_eq
  have key_out : (r.toFields []).get? "$key" =
      some (.string (((document.get? keyAttribute).bind Value.string?).getD derived)) := by
    simp [out, serialized?, key?, identified]
  constructor
  case user =>
    intro name free
    rw [out, r.serialized?_of_notMem (mt isReserved_of_mem_sigilNames free), if_neg free,
      fields_of_adopt h, NameMap.get?_filter_names]
    simp [free]
  case id =>
    refine Eq.trans ?_ id_held.symm
    simp [out, serialized?, id?, identified]
  case key =>
    intro v key_held
    have strings := ((adopt_isOk_iff schema empty document).mp (by rw [h]; rfl)).1
    obtain ⟨key, rfl⟩ := strings keyAttribute (by decide) v key_held
    rw [key_out, keyAttribute, key_held]
    rfl
  case key_of_id =>
    intro absent
    refine ⟨schema.name, derived, id_held.trans (by rw [id_eq]; rfl), named.no_slash, ?_⟩
    rw [key_out, keyAttribute, absent]
    rfl
  case source =>
    have known : r.known fromAttribute = document.get? "_from" :=
      known_of_adopt_empty h (by decide) (by decide)
    exact (out "$from").trans known
  case target =>
    have known : r.known toAttribute = document.get? "_to" :=
      known_of_adopt_empty h (by decide) (by decide)
    exact (out "$to").trans known
  case rest =>
    intro name reserved other
    rw [out, r.serialized?_of_notMem other, if_pos reserved]

-- Fields with an id make a record of a collection unless one of the links is no string, or the id
-- is none of the collection's.
theorem ofFields_eq_error_iff (stored : document.contains idAttribute) :
    (∃ e, ofFields schema document = .error e) ↔
      (∃ attr ∈ links, ∃ v, document.get? attr = some v ∧ ∀ s, v ≠ .string s) ∨
        ∃ id, document.get? idAttribute = some (.string id) ∧ ¬schema.Owns id := by
  have stored_iff := exists_ofFields_iff schema stored
  simp only [exists_and_left, Schema.exists_keyOf_iff] at stored_iff
  rw [exists_eq_error_iff, stored_iff]
  constructor
  · intro rejected
    by_cases strings : ∀ attr ∈ links, ∀ v, document.get? attr = some v → ∃ s, v = .string s
    case pos =>
      obtain ⟨v, held⟩ := Option.isSome_iff_exists.mp stored
      obtain ⟨id, rfl⟩ := strings idAttribute (by decide) v held
      exact .inr ⟨id, held, fun owned => rejected ⟨strings, id, held, owned⟩⟩
    case neg =>
      push Not at strings
      exact .inl strings
  · rintro (⟨attr, link, v, held, not_string⟩ | ⟨id, held, not_owned⟩) ⟨strings, id', held', owned⟩
    · obtain ⟨s, eq⟩ := strings attr link v held
      exact not_string s eq
    · cases held.symm.trans held'
      exact not_owned owned

-- A record that has been built from stored state serializes to all of it, apart from the reserved
-- attributes, of which only the identity and the ends are left, under names of their own. Nothing
-- else is serialized, and names that are omitted are left out. The record is built unless one of
-- these attributes is no string, or the id is none of the collection's.
theorem serialized_as_built (stored : document.contains "_id") :
    (∀ r, ofReference schema (.fields document) = .ok r → Serializes document (r.toFields []) ∧
      ∀ omitted, r.toFields omitted = (r.toFields []).filter fun name _ => !omitted.contains name) ∧
    ((∃ e, ofReference schema (.fields document) = .error e) ↔
      (∃ attr ∈ ["_id", "_key", "_from", "_to"], ∃ v,
        document.get? attr = some v ∧ ∀ s, v ≠ .string s) ∨
        ∃ id, document.get? "_id" = some (.string id) ∧ ¬schema.Owns id) := by
  refine ⟨fun r built => ⟨?_, r.toFields_omitted⟩, ofFields_eq_error_iff stored⟩
  exact serializes_of_adopt ((ofFields_eq_ok_iff stored).mp built)

-- The key is taken from the id. Of what is reserved only an end is serialized, and a field
-- that has a name like one of these is a field like any other. The same fields make no
-- record of another collection.
theorem serialized_as_built_without_key :
    let schema (name : String) : Schema := ⟨name, .document, [], Schema.writeUnchanged⟩
    let fields := NameMap.ofList [
      ("_id", .string "items/a/b"), ("_from", .string "users/c"), ("_rev", .null),
      ("$id", .string "d"), ("to_json", .string "e"), ("id", .string "f")]
    ∃ r, ofReference (schema "items") (.fields fields) = .ok r ∧
      (∀ attr ∈ [("$id", "items/a/b"), ("$key", "a/b"), ("$from", "users/c"), ("id", "f")],
        (r.toFields []).get? attr.1 = some (.string attr.2)) ∧
      (∀ name ∈ ["_id", "_from", "_rev", "to_json", "$to"], (r.toFields []).get? name = none) ∧
      r.toFields ["$id", "id"] =
        (r.toFields []).filter (fun name _ => !(["$id", "id"].contains name)) ∧
      ∃ e, ofReference (schema "users") (.fields fields) = .error e := by
  intro schema fields
  have stored : fields.contains "_id" := by decide +kernel
  have id_held : fields.get? "_id" = some (.string "items/a/b") := rfl
  have source : fields.get? "_from" = some (.string "users/c") := rfl
  have user : fields.get? "id" = some (.string "f") := rfl
  have absent : fields.get? "_key" = none ∧ fields.get? "_to" = none := ⟨rfl, rfl⟩
  obtain ⟨r, built⟩ : ∃ r, ofReference (schema "items") (.fields fields) = .ok r := ⟨_, rfl⟩
  obtain ⟨serializes, omits⟩ := (serialized_as_built stored).1 r built
  have foreign : ¬(schema "users").Owns "items/a/b" := by
    rw [← Schema.exists_keyOf_iff]
    rintro ⟨key, owned⟩
    cases owned
  have rejected : ∃ e, ofReference (schema "users") (.fields fields) = .error e :=
    (serialized_as_built stored).2.mpr (.inr ⟨_, id_held, foreign⟩)
  refine ⟨r, built, ?shown, ?hidden, omits _, rejected⟩
  case shown =>
    obtain ⟨name, key, split, no_slash, key_out⟩ := serializes.key_of_id absent.1
    have id_eq : "items/a/b" = name ++ "/" ++ key :=
      Value.string.inj (Option.some.inj (id_held.symm.trans split))
    have parts : "items/a/b".toList = name.toList ++ '/' :: key.toList := by rw [id_eq]; simp
    have from_slash := congrArg (List.dropWhile (· ≠ '/')) parts
    have before : ∀ c ∈ name.toList, decide (c ≠ '/') :=
      fun c mem => by simpa using ne_of_mem_of_not_mem mem no_slash
    rw [List.dropWhile_append_of_pos before] at from_slash
    have key_eq : key = "a/b" := String.toList_inj.mp (List.tail_eq_of_cons_eq from_slash).symm
    simp only [List.forall_mem_cons, List.not_mem_nil, false_implies, implies_true, and_true]
    exact ⟨serializes.id.trans id_held, key_eq ▸ key_out, serializes.source.trans source,
      (serializes.user "id" (by decide)).trans user⟩
  case hidden =>
    simp only [List.forall_mem_cons, List.not_mem_nil, false_implies, implies_true, and_true]
    exact ⟨serializes.rest _ (by decide) (by decide), serializes.rest _ (by decide) (by decide),
      serializes.rest _ (by decide) (by decide), serializes.rest _ (by decide) (by decide),
      serializes.target.trans absent.2⟩

end RecordStore.Record
