import RecordStore.Proofs.NameMap
import RecordStore.Proofs.Outcome
import RecordStore.Record.Adoption

namespace RecordStore.Record

variable {schema : Schema} {document : Fields} {r r' : Record}

theorem string_of_stringAttribute (h : stringAttribute name v = .ok s) : v = .string s := by
  cases v <;> cases h
  rfl

-- The attributes that make up the identity of a document and the ends of an edge.
def links : List String := [idAttribute, keyAttribute, fromAttribute, toAttribute]

theorem isReserved_of_mem_links (h : name ∈ links) : isReserved name := by
  simp only [links, List.mem_cons, List.not_mem_nil, or_false] at h
  rcases h with rfl | rfl | rfl | rfl <;> rfl

-- The attributes of the stored document that a record knows, apart from its identity.
def known (r : Record) (name : String) : Option Value :=
  if name = fromAttribute then r.source.map .string
  else if name = toAttribute then r.target.map .string
  else if isReserved name then r.system.get? name
  else r.fields.get? name

theorem known_of_free (r : Record) (free : ¬isReserved name) :
    r.known name = r.fields.get? name := by
  have ne_from : name ≠ fromAttribute := fun eq => free (eq ▸ rfl)
  have ne_to : name ≠ toAttribute := fun eq => free (eq ▸ rfl)
  simp [known, free, ne_from, ne_to]

-- What a record that is taking over a document keeps, and what it may have taken over.
structure Extends (r' r : Record) : Prop where
  identity : r'.identity = r.identity
  pendingKey : r'.pendingKey = r.pendingKey
  dirty : r'.dirty = r.dirty
  held : ∀ name, r.fields.contains name → r'.fields.contains name
  user : ∀ name, r'.fields.contains name → r.fields.contains name ∨ ¬isReserved name

namespace Extends

theorem refl (r : Record) : r.Extends r :=
  ⟨rfl, rfl, rfl, fun _ => id, fun _ => .inl⟩

theorem trans {r₁ r₂ r₃ : Record} (h₂ : r₃.Extends r₂) (h₁ : r₂.Extends r₁) : r₃.Extends r₁ where
  identity := h₂.identity.trans h₁.identity
  pendingKey := h₂.pendingKey.trans h₁.pendingKey
  dirty := h₂.dirty.trans h₁.dirty
  held name held := h₂.held name (h₁.held name held)
  user name held := (h₂.user name held).elim (h₁.user name) .inr

-- The ends of an edge and the system attributes may be any.
theorem rest (r : Record) (source target : Option String) (system : Fields) :
    { r with source, target, system }.Extends r :=
  ⟨rfl, rfl, rfl, fun _ => id, fun _ => .inl⟩

theorem setField (r : Record) (free : ¬isReserved name) (value : Value) :
    (r.setField name value).Extends r where
  identity := rfl
  pendingKey := rfl
  dirty := rfl
  held other held := by simp [Record.setField, NameMap.contains_insert, held]
  user other held := by
    simp only [Record.setField, NameMap.contains_insert] at held
    exact held.elim (fun eq => .inr (eq ▸ free)) .inl

end Extends

namespace Adoption

variable {a a' : Adoption}

-- What is done with an attribute depends on its name alone.
inductive Taken (a : Adoption) : String → Value → Adoption → Prop where
  | id (s : String) : Taken a idAttribute (.string s) { a with id := some s }
  | key (s : String) : Taken a keyAttribute (.string s) { a with key := some s }
  | source (s : String) :
    Taken a fromAttribute (.string s) { a with record := { a.record with source := some s } }
  | target (s : String) :
    Taken a toAttribute (.string s) { a with record := { a.record with target := some s } }
  | system (other : name ∉ links) (reserved : isReserved name) (v : Value) :
    Taken a name v { a with record := a.record.setSystem name v }
  | user (free : ¬isReserved name) (v : Value) :
    Taken a name v { a with record := a.record.setField name v }

theorem take_eq_ok (h : a.take name v = .ok a') : Taken a name v a' := by
  -- All links are read in the same way.
  have read : ∀ {f : String → Adoption},
      (do return f (← stringAttribute name v)) = Except.ok a' → ∃ s, v = .string s ∧ a' = f s := by
    intro f h
    have ⟨s, read, h⟩ := bind_eq_ok_iff.mp h
    exact ⟨s, string_of_stringAttribute read, (Except.ok.inj h).symm⟩
  unfold take at h
  split at h
  case isTrue eq =>
    obtain ⟨s, rfl, rfl⟩ := read h
    exact eq ▸ .id s
  case isFalse ne_id =>
    split at h
    case isTrue eq =>
      obtain ⟨s, rfl, rfl⟩ := read h
      exact eq ▸ .key s
    case isFalse ne_key =>
      split at h
      case isTrue eq =>
        obtain ⟨s, rfl, rfl⟩ := read h
        exact eq ▸ .source s
      case isFalse ne_from =>
        split at h
        case isTrue eq =>
          obtain ⟨s, rfl, rfl⟩ := read h
          exact eq ▸ .target s
        case isFalse ne_to =>
          split at h <;> cases h
          case isTrue reserved => exact .system (by simp [links, *]) reserved v
          case isFalse free => exact .user free v

theorem take_extends (h : a.take name v = .ok a') : a'.record.Extends a.record := by
  cases take_eq_ok h with
  | id | key => exact .refl a.record
  | source | target | system => exact .rest a.record _ _ _
  | user free => exact .setField a.record free v

-- This is so for the attributes that precede a wrong one as well.
theorem takeAll_extends (a : Adoption) (attrs : List (String × Value)) :
    (a.takeAll attrs).2.record.Extends a.record := by
  induction attrs generalizing a with
  | nil => exact .refl a.record
  | cons attr attrs ih =>
    simp only [Adoption.takeAll]
    split
    case h_1 next eq => exact (ih next).trans (take_extends eq)
    case h_2 => exact .refl a.record

-- The attributes that have been found so far, those of the identity and all others.
def held (a : Adoption) (name : String) : Option Value :=
  if name = idAttribute then a.id.map .string
  else if name = keyAttribute then a.key.map .string
  else a.record.known name

-- Seen in this way, to take an attribute is to put it under its name.
theorem held_take (h : a.take name v = .ok a') (other : String) :
    a'.held other = if other = name then some v else a.held other := by
  split
  case isTrue eq =>
    subst eq
    cases take_eq_ok h with
    | id | key | source | target => rfl
    | system ne_link reserved =>
      simp only [links, List.mem_cons, List.not_mem_nil, or_false, not_or] at ne_link
      simp [held, known, setSystem, ne_link, reserved]
    | user free =>
      have ne_link : other ∉ links := fun link => free (isReserved_of_mem_links link)
      simp only [links, List.mem_cons, List.not_mem_nil, or_false, not_or] at ne_link
      simp [held, known, setField, ne_link, free]
  case isFalse ne =>
    cases take_eq_ok h with
    | id | key | source | target => simp [held, known, ne]
    | system => simp only [held, known, setSystem, NameMap.get?_insert_of_ne ne]
    | user => simp only [held, known, setField, NameMap.get?_insert_of_ne ne]

-- Of a list of attributes, those that precede a wrong one are taken.
theorem held_takeAll (a : Adoption) (attrs : List (String × Value)) :
    ∃ front, front <+: attrs ∧ ((a.takeAll attrs).1 = .ok () → front = attrs) ∧
      ∀ name, (a.takeAll attrs).2.held name = (front.reverse.lookup name).or (a.held name) := by
  induction attrs generalizing a with
  | nil => exact ⟨[], List.prefix_rfl, fun _ => rfl, fun _ => rfl⟩
  | cons attr attrs ih =>
    simp only [takeAll]
    split
    case h_2 => exact ⟨[], List.nil_prefix, nofun, fun _ => rfl⟩
    case h_1 next eq =>
      have ⟨front, isFront, whole, held⟩ := ih next
      refine ⟨attr :: front, List.cons_prefix_cons.mpr ⟨rfl, isFront⟩, fun ok => ?_, fun name => ?_⟩
      · rw [whole ok]
      · rw [held, held_take eq, List.reverse_cons, List.lookup_append, Option.or_assoc,
          NameMap.lookup_cons]
        split <;> simp

-- A document is taken as a whole unless one of its attributes is wrong.
theorem held_of_takeAll (h : a.takeAll document.entries = (.ok (), a')) (name : String) :
    a'.held name = (document.get? name).or (a.held name) := by
  have ⟨front, _, whole, held⟩ := a.held_takeAll document.entries
  rw [h] at whole held
  rw [held, whole rfl, NameMap.lookup_reverse document.sorted_entries]
  rfl

-- Only links can be wrong, and they are if they are no strings.
theorem take_isOk_iff (a : Adoption) (name : String) (v : Value) :
    (∃ a', a.take name v = .ok a') ↔ (name ∈ links → ∃ s, v = .string s) := by
  have read : ∀ f : String → Adoption,
      (∃ a', (do return f (← stringAttribute name v)) = Except.ok a') ↔ ∃ s, v = .string s := by
    intro f
    cases v with
    | string s => exact iff_of_true ⟨_, rfl⟩ ⟨s, rfl⟩
    | _ => exact iff_of_false nofun nofun
  unfold take
  split
  case isTrue eq => simpa [links, eq] using read _
  case isFalse ne_id =>
    split
    case isTrue eq => simpa [links, eq] using read _
    case isFalse ne_key =>
      split
      case isTrue eq => simpa [links, eq] using read _
      case isFalse ne_from =>
        split
        case isTrue eq => simpa [links, eq] using read _
        case isFalse ne_to => split <;> simp [links, ne_id, ne_key, ne_from, ne_to]

theorem takeAll_isOk_iff (a : Adoption) (attrs : List (String × Value)) :
    (∃ a', a.takeAll attrs = (.ok (), a')) ↔ ∀ e ∈ attrs, e.1 ∈ links → ∃ s, e.2 = .string s := by
  induction attrs generalizing a with
  | nil => simp [takeAll]
  | cons attr attrs ih =>
    rw [List.forall_mem_cons, ← take_isOk_iff a]
    simp only [takeAll]
    split
    case h_1 next eq => simp [ih next, eq]
    case h_2 e eq => simp [eq]

end Adoption

-- The record has taken over all that it could, and then its identity has been set.
theorem adopt_eq_taken (h : r.adopt schema document = (.ok (), r')) :
    ∃ (a : Adoption) (id derived : String),
      Adoption.takeAll ⟨r, none, none⟩ document.entries = (.ok (), a) ∧ a.id = some id ∧
      schema.keyOf id = .ok derived ∧
      r' = { a.record with identity := some ⟨id, a.key.getD derived⟩, pendingKey := none } := by
  unfold adopt at h
  split at h
  case h_1 => cases h
  case h_2 a taken =>
    split at h
    case h_2 => cases h
    case h_1 identity found =>
      cases h
      unfold Adoption.identity at found
      split at found
      case h_2 => cases found
      case h_1 id id_eq =>
        have ⟨derived, key_eq, found⟩ := bind_eq_ok_iff.mp found
        cases found
        exact ⟨a, id, derived, taken, id_eq, key_eq, rfl⟩

-- What has been put aside for the identity is what the document holds.
theorem get?_of_takeAll (h : Adoption.takeAll ⟨r, none, none⟩ document.entries = (.ok (), a)) :
    document.get? idAttribute = a.id.map .string ∧
    document.get? keyAttribute = a.key.map .string := by
  have held := Adoption.held_of_takeAll h
  exact ⟨by simpa [Adoption.held] using (held idAttribute).symm,
    by simpa [Adoption.held, idAttribute, keyAttribute] using (held keyAttribute).symm⟩

-- The key beside the id counts, and the one in the id does so only where there is none beside it.
theorem identity_of_adopt (h : r.adopt schema document = (.ok (), r')) :
    ∃ id derived, document.get? idAttribute = some (.string id) ∧ schema.keyOf id = .ok derived ∧
      r'.identity = some ⟨id, ((document.get? keyAttribute).bind Value.string?).getD derived⟩ := by
  have ⟨a, id, derived, taken, id_eq, key_eq, eq⟩ := adopt_eq_taken h
  have ⟨id_held, key_held⟩ := get?_of_takeAll taken
  refine ⟨id, derived, by rw [id_held, id_eq]; rfl, key_eq, ?_⟩
  rw [eq, key_held]
  cases a.key <;> rfl

theorem identified_of_adopt (h : r.adopt schema document = (.ok (), r')) : r'.identity ≠ none := by
  have ⟨_, _, _, _, eq⟩ := identity_of_adopt h
  rw [eq]
  exact Option.some_ne_none _

theorem adopt_eq_ok (h : r.adopt schema document = (.ok (), r')) :
    ∃ (extended : Record) (identity : Identity) (derived : String), extended.Extends r ∧
      r' = { extended with identity := some identity, pendingKey := none } ∧
      document.get? idAttribute = some (.string identity.id) ∧
      schema.keyOf identity.id = .ok derived ∧
      (identity.key = derived ∨ document.get? keyAttribute = some (.string identity.key)) := by
  have ⟨a, id, derived, taken, id_eq, key_eq, eq⟩ := adopt_eq_taken h
  have extended := Adoption.takeAll_extends ⟨r, none, none⟩ document.entries
  rw [taken] at extended
  have ⟨id_held, key_held⟩ := get?_of_takeAll taken
  refine ⟨_, _, derived, extended, eq, by rw [id_held, id_eq]; rfl, key_eq, ?_⟩
  cases key : a.key with
  | none => exact .inl rfl
  | some key' => exact .inr (by rw [key_held, key]; rfl)

-- What a record knows once it has taken over a document is what the document holds.
theorem known_of_adopt (h : r.adopt schema document = (.ok (), r')) (ne_id : name ≠ idAttribute)
    (ne_key : name ≠ keyAttribute) : r'.known name = (document.get? name).or (r.known name) := by
  have ⟨a, _, _, taken, _, _, eq⟩ := adopt_eq_taken h
  have held := Adoption.held_of_takeAll taken name
  simp only [Adoption.held, if_neg ne_id, if_neg ne_key] at held
  rw [eq, ← held]
  rfl

-- A document can be taken over if its links are strings, and its id is one
-- of the schema's collection.
theorem adopt_isOk_iff (schema : Schema) (r : Record) (document : Fields) :
    (r.adopt schema document).1.isOk ↔
      (∀ attr ∈ links, ∀ v, document.get? attr = some v → ∃ s, v = .string s) ∧
      ∃ id key, document.get? idAttribute = some (.string id) ∧ schema.keyOf id = .ok key := by
  have strings : (∃ a, Adoption.takeAll ⟨r, none, none⟩ document.entries = (.ok (), a)) ↔
      ∀ attr ∈ links, ∀ v, document.get? attr = some v → ∃ s, v = .string s := by
    rw [Adoption.takeAll_isOk_iff]
    simp only [NameMap.get?_eq_some_iff, Prod.forall]
    exact ⟨fun h attr link v mem => h attr v mem link, fun h attr v mem link => h attr link v mem⟩
  constructor
  · intro ok
    rcases adopted : r.adopt schema document with ⟨_ | ⟨⟩, r'⟩
    case error => simp [adopted, Except.isOk, Except.toBool] at ok
    have ⟨a, id, derived, taken, id_eq, key_eq, _⟩ := adopt_eq_taken adopted
    have id_held := (get?_of_takeAll taken).1
    rw [id_eq] at id_held
    exact ⟨strings.mp ⟨a, taken⟩, id, derived, id_held, key_eq⟩
  · intro ⟨links_ok, id, key, held, key_eq⟩
    have ⟨a, taken⟩ := strings.mpr links_ok
    have ⟨id', found, eq⟩ := Option.map_eq_some_iff.mp ((get?_of_takeAll taken).1.symm.trans held)
    cases eq
    have identity : a.identity schema = .ok ⟨id, a.key.getD key⟩ := by
      rw [Adoption.identity, found]
      exact bind_eq_ok_iff.mpr ⟨key, key_eq, rfl⟩
    simp only [adopt, taken, identity]
    rfl

-- Fields with an id are taken over as they are.
theorem ofFields_eq_ok_iff (id_held : document.contains idAttribute) :
    ofFields schema document = .ok r ↔ empty.adopt schema document = (.ok (), r) := by
  rw [ofFields, if_pos id_held]
  rcases empty.adopt schema document with ⟨_ | ⟨⟩, _⟩ <;> simp

-- Where it fails, what could be taken has been taken over.
theorem record_of_adopt_error (h : r.adopt schema document = (.error e, r')) :
    r' = (Adoption.takeAll ⟨r, none, none⟩ document.entries).2.record := by
  unfold adopt at h
  split at h
  case h_1 taken => cases h; rw [taken]
  case h_2 taken => split at h <;> cases h; rw [taken]

-- A record that fails to take over a document does not get another identity.
theorem adopt_eq_error (h : r.adopt schema document = (.error e, r')) : r'.Extends r := by
  rw [record_of_adopt_error h]
  exact Adoption.takeAll_extends ⟨r, none, none⟩ document.entries

-- It may then know some of what the document holds, and nothing else is new.
theorem known_of_adopt_error (h : r.adopt schema document = (.error e, r')) :
    ∃ found : String → Option Value, (∀ name v, found name = some v → document.get? name = some v) ∧
      ∀ name, name ≠ idAttribute → name ≠ keyAttribute →
        r'.known name = (found name).or (r.known name) := by
  have ⟨front, isFront, _, held⟩ := Adoption.held_takeAll ⟨r, none, none⟩ document.entries
  refine ⟨(List.lookup · front.reverse), fun name v found => ?_, fun name ne_id ne_key => ?_⟩
  · have sorted := document.sorted_entries.sublist isFront.sublist
    have mem : (name, v) ∈ front :=
      (NameMap.lookup_eq_some_iff sorted).mp ((NameMap.lookup_reverse sorted name).symm.trans found)
    exact NameMap.get?_eq_some_iff.mpr (isFront.subset mem)
  · have held := held name
    simp only [Adoption.held, if_neg ne_id, if_neg ne_key] at held
    rwa [record_of_adopt_error h]

-- Of a document that is not stored yet, the user fields are to be written.
theorem takeNew_eq_ok (h : r.takeNew schema name v = .ok r') :
    (¬isReserved name ∧ r' = (r.setField name v).markDirty name) ∨
      ∃ pendingKey source target system, r' = { r with pendingKey, source, target, system } := by
  unfold takeNew at h
  split at h
  case isTrue =>
    have ⟨_, _, h⟩ := bind_eq_ok_iff.mp h
    cases h
    exact .inr ⟨_, _, _, _, rfl⟩
  case isFalse =>
    split at h
    case isTrue =>
      have ⟨_, _, h⟩ := bind_eq_ok_iff.mp h
      cases h
      exact .inr ⟨_, _, _, _, rfl⟩
    case isFalse =>
      split at h
      case isTrue =>
        have ⟨_, _, h⟩ := bind_eq_ok_iff.mp h
        cases h
        exact .inr ⟨_, _, _, _, rfl⟩
      case isFalse =>
        split at h <;> cases h
        case isTrue => exact .inr ⟨_, _, _, _, rfl⟩
        case isFalse free => exact .inl ⟨free, rfl⟩

end RecordStore.Record
