import RecordStore.Proofs.NameMap
import RecordStore.Proofs.Outcome
import RecordStore.Store.Collection

-- What the operations on a collection do to its documents where they succeed, and that they do
-- nothing where they fail.

namespace RecordStore

-- The keys that a document can have.
def LegalKey (key : String) : Prop := key ≠ "" ∧ '/' ∉ key.toList

theorem Collection.isLegalKey_iff {key : String} : isLegalKey key ↔ LegalKey key := by
  simp [isLegalKey, LegalKey]

namespace Collection

variable {c c' : Collection} {name key generated : String} {document stored patch : Fields}

theorem hasKey_iff : hasKey document key ↔ document.get? keyAttribute = some (.string key) := by
  simp only [hasKey]
  cases h : document.get? keyAttribute with
  | none => simp
  | some v => cases v <;> simp [Value.string?]

theorem getElem_of_position? (h : c.position? key = some i) :
    ∃ lt : i < c.documents.length, hasKey c.documents[i] key :=
  have ⟨lt, held, _⟩ := List.findIdx?_eq_some_iff_getElem.mp h
  ⟨lt, held⟩

-- Looking for a key finds the document at its position.
theorem find?_eq_getElem? (h : c.position? key = some i) : c.find? key = c.documents[i]? := by
  have ⟨lt, held, before⟩ := List.findIdx?_eq_some_iff_getElem.mp h
  rw [find?, List.getElem?_eq_getElem lt, List.find?_eq_some_iff_getElem]
  exact ⟨held, i, lt, rfl, fun j j_lt => by simpa using before j j_lt⟩

theorem position?_eq_none_iff :
    c.position? key = none ↔ ∀ document ∈ c.documents, ¬hasKey document key := by
  simp [position?]

theorem get?_of_find? (h : c.find? key = some document) :
    document.get? keyAttribute = some (.string key) :=
  hasKey_iff.mp (List.find?_some (p := (hasKey · key)) h)

theorem exists_position?_of_find? (h : c.find? key = some document) :
    ∃ i, c.position? key = some i ∧ c.documents[i]? = some document := by
  cases position : c.position? key with
  | none =>
    have absent := position?_eq_none_iff.mp position document (List.mem_of_find?_eq_some h)
    exact absurd (List.find?_some h) absent
  | some i => exact ⟨i, rfl, (find?_eq_getElem? position).symm.trans h⟩

-- A key is either asked for or generated.
theorem legalKey_of_chooseKey (legal : LegalKey generated)
    (h : chooseKey generated document = .ok key) : LegalKey key := by
  unfold chooseKey at h
  split at h
  case h_1 => cases h; exact legal
  case h_2 =>
    split at h
    case isTrue legal => cases h; exact isLegalKey_iff.mp legal
    case isFalse => cases h
  case h_3 => cases h

-- All that an insertion checks, and what it does after that. All of the checks come before the
-- change.
theorem insert_cases (c : Collection) (name generated : String) (document : Fields) :
    (∃ e, c.insert name generated document = (.error e, c)) ∨
    ∃ key stored, c.insert name generated document =
        (.ok stored, { c with documents := c.documents ++ [stored] }) ∧
      c.checkEndpoints name document = .ok () ∧ chooseKey generated document = .ok key ∧
      c.position? key = none ∧ stored = identify name key document ∧
      c.checkUnique name stored c.documents = .ok () := by
  unfold insert
  split
  case h_1 e _ => exact .inl ⟨e, rfl⟩
  case h_2 endpoints =>
    split
    case h_1 e _ => exact .inl ⟨e, rfl⟩
    case h_2 key chosen =>
      split
      case isTrue => exact .inl ⟨_, rfl⟩
      case isFalse absent =>
        dsimp only
        split
        case h_1 e _ => exact .inl ⟨e, rfl⟩
        case h_2 unique =>
          exact .inr ⟨key, _, rfl, endpoints, chosen, by simpa using absent, rfl, unique⟩

theorem insert_eq_ok (h : c.insert name generated document = (.ok stored, c')) :
    c.checkEndpoints name document = .ok () ∧ ∃ key, chooseKey generated document = .ok key ∧
      c.position? key = none ∧ stored = identify name key document ∧
      c.checkUnique name stored c.documents = .ok () ∧
      c' = { c with documents := c.documents ++ [stored] } := by
  obtain ⟨e, eq⟩ | ⟨key, stored', eq, endpoints, chosen, absent, stored_eq, unique⟩ :=
    c.insert_cases name generated document
  all_goals cases eq.symm.trans h
  exact ⟨endpoints, key, chosen, absent, stored_eq, unique, rfl⟩

theorem insert_atomic (c : Collection) (name generated : String) (document : Fields) :
    Atomic c (c.insert name generated document) := by
  obtain ⟨e, eq⟩ | ⟨key, stored, eq, _⟩ := c.insert_cases name generated document
  · exact .of_eq (congrArg Prod.snd eq)
  · intro e c' failed
    cases eq.symm.trans failed

-- All that an update checks, and what it does after that.
theorem update_cases (c : Collection) (name key : String) (patch : Fields) :
    (∃ e, c.update name key patch = (.error e, c)) ∨
    ∃ i document, c.update name key patch =
        (.ok (), { c with documents := c.documents.set i (patched document patch) }) ∧
      c.position? key = some i ∧ c.documents[i]? = some document ∧
      c.checkUnique name (patched document patch) (c.documents.eraseIdx i) = .ok () := by
  unfold update
  split
  case h_1 i document position found =>
    dsimp only
    split
    case h_1 e _ => exact .inl ⟨e, rfl⟩
    case h_2 unique =>
      have at_position := (find?_eq_getElem? position).symm.trans found
      exact .inr ⟨i, document, rfl, position, at_position, unique⟩
  case h_2 => exact .inl ⟨_, rfl⟩

theorem update_eq_ok (h : c.update name key patch = (.ok (), c')) :
    ∃ i document, c.position? key = some i ∧ c.documents[i]? = some document ∧
      c.checkUnique name (patched document patch) (c.documents.eraseIdx i) = .ok () ∧
      c' = { c with documents := c.documents.set i (patched document patch) } := by
  obtain ⟨e, eq⟩ | ⟨i, document, eq, position, held, unique⟩ := c.update_cases name key patch
  all_goals cases eq.symm.trans h
  exact ⟨i, document, position, held, unique, rfl⟩

theorem update_atomic (c : Collection) (name key : String) (patch : Fields) :
    Atomic c (c.update name key patch) := by
  obtain ⟨e, eq⟩ | ⟨i, document, eq, _⟩ := c.update_cases name key patch
  · exact .of_eq (congrArg Prod.snd eq)
  · intro e c' failed
    cases eq.symm.trans failed

theorem remove_eq_ok (h : c.remove name key = (.ok (), c')) :
    ∃ i, c.position? key = some i ∧ c' = { c with documents := c.documents.eraseIdx i } := by
  unfold remove at h
  split at h
  case h_1 i position => cases h; exact ⟨i, position, rfl⟩
  case h_2 => cases h

theorem remove_atomic (c : Collection) (name key : String) : Atomic c (c.remove name key) := by
  intro e c' h
  unfold remove at h
  split at h <;> cases h
  rfl

theorem createIndex_documents (c : Collection) (index : Index) :
    (c.createIndex index).documents = c.documents := by
  unfold createIndex
  split <;> rfl

theorem createIndex_of_matches {index : Index}
    (existing : ∃ listed ∈ c.indexes, listed.Matches index) :
    c.createIndex index = c :=
  if_pos (by simpa using existing)

theorem createIndex_of_new {index : Index} (new : ∀ listed ∈ c.indexes, ¬listed.Matches index) :
    c.createIndex index = { c with indexes := c.indexes ++ [index] } :=
  if_neg (by simpa using new)

theorem get?_identify_key (name key : String) (document : Fields) :
    (identify name key document).get? keyAttribute = some (.string key) := by
  simp [identify, NameMap.get?_insert, idAttribute, keyAttribute]

theorem get?_identify_id (name key : String) (document : Fields) :
    (identify name key document).get? idAttribute = some (.string (Id.of name key)) := by
  simp [identify]

theorem get?_identify_of_ne (name key : String) (document : Fields) {attr : String}
    (ne_id : attr ≠ idAttribute) (ne_key : attr ≠ keyAttribute) :
    (identify name key document).get? attr = document.get? attr := by
  simp [identify, NameMap.get?_insert, ne_id, ne_key]

-- A patch decides about all attributes that it has, apart from the identity.
theorem get?_patched (document patch : Fields) (attr : String) :
    (patched document patch).get? attr =
      if attr = idAttribute ∨ attr = keyAttribute then document.get? attr
      else (patch.get? attr).or (document.get? attr) := by
  rw [patched, NameMap.get?_override, NameMap.get?_filter]
  by_cases id : attr = idAttribute <;> by_cases key : attr = keyAttribute <;>
    cases patch.get? attr <;> simp [id, key]

end Collection
end RecordStore
