import RecordStore.Id

namespace RecordStore.Id

theorem eq_of_splitChars? {id name key : List Char} (h : splitChars? id = some (name, key)) :
    id = name ++ '/' :: key := by
  unfold splitChars? at h
  have whole := List.takeWhile_append_dropWhile (p := (· != '/')) (l := id)
  split at h
  case h_2 => cases h
  case h_1 slash key' rest =>
    have slash_eq : slash = '/' := by
      have := List.head?_dropWhile_not (· != '/') id
      simpa [rest] using this
    dsimp only at h
    split at h <;> cases h
    rw [rest, slash_eq] at whole
    exact whole.symm

variable {id collection name key key' : String}

-- What an id is split into makes it up again.
theorem eq_of_split? (h : split? id = some (name, key)) : id = of name key := by
  have ⟨(name', key'), chars, eq⟩ := Option.map_eq_some_iff.mp h
  cases eq
  apply String.toList_inj.mp
  simpa [of] using eq_of_splitChars? chars

theorem keyOf_eq_ok_iff : keyOf collection id = .ok key ↔ split? id = some (collection, key) := by
  unfold keyOf
  split
  case h_1 owner held split =>
    rw [split]
    by_cases eq : owner = collection <;> simp [eq]
  case h_2 split => simp [split]

-- An id of a collection is made of the collection's name and a key.
theorem eq_of_keyOf (h : keyOf collection id = .ok key) : id = of collection key :=
  eq_of_split? (keyOf_eq_ok_iff.mp h)

theorem of_inj : of collection key = of collection key' ↔ key = key' := by
  simp [of, ← String.toList_inj]

-- The key of an id that has been made is the one that it has been made of.
theorem keyOf_of (h : keyOf collection (of collection key) = .ok key') : key' = key :=
  (of_inj.mp (eq_of_keyOf h)).symm

theorem isWord_iff {name : List Char} :
    isWord name ↔ name ≠ [] ∧ ∀ c ∈ name, isWordCharacter c := by
  simp [isWord]

theorem ne_slash_of_isWordCharacter {c : Char} (h : isWordCharacter c) : c ≠ '/' := by
  rintro rfl
  revert h
  decide +kernel

-- The name of a collection has to be a word, since it ends at the first slash.
theorem splitChars?_append {name key : List Char} (word : isWord name) (key_ne : key ≠ []) :
    splitChars? (name ++ '/' :: key) = some (name, key) := by
  have ⟨_, characters⟩ := isWord_iff.mp word
  have no_slash : ∀ c ∈ name, (c != '/') = true :=
    fun c mem => bne_iff_ne.mpr (ne_slash_of_isWordCharacter (characters c mem))
  have rest : ('/' :: key).dropWhile (· != '/') = '/' :: key := rfl
  have taken : ('/' :: key).takeWhile (· != '/') = [] := rfl
  simp only [splitChars?, List.takeWhile_append_of_pos no_slash,
    List.dropWhile_append_of_pos no_slash, rest, taken, List.append_nil]
  simp [word, key_ne]

-- An id is split into what it has been made of.
theorem split?_of (word : isWord collection.toList) (key_ne : key ≠ "") :
    split? (of collection key) = some (collection, key) := by
  have chars : (of collection key).toList = collection.toList ++ '/' :: key.toList := by simp [of]
  rw [split?, chars, splitChars?_append word (by simpa using key_ne)]
  simp

theorem legal_of_split? (h : split? id = some (name, key)) : isWord name.toList ∧ key ≠ "" := by
  have ⟨(name', key'), chars, eq⟩ := Option.map_eq_some_iff.mp h
  cases eq
  unfold splitChars? at chars
  split at chars
  case h_2 => cases chars
  case h_1 =>
    dsimp only at chars
    split at chars <;> cases chars
    case isTrue legal => simpa using legal

theorem isWord_of_split? (h : split? id = some (name, key)) : isWord name.toList :=
  (legal_of_split? h).1

-- An id is a word and a key that is not empty, with a slash between them.
theorem split?_eq_some_iff :
    split? id = some (name, key) ↔ id = of name key ∧ isWord name.toList ∧ key ≠ "" := by
  constructor
  · intro split
    exact ⟨eq_of_split? split, legal_of_split? split⟩
  · rintro ⟨rfl, word, key_ne⟩
    exact split?_of word key_ne

-- A collection recognizes the ids of its own documents only if its name is a word.
theorem exists_keyOf_of_iff (key_ne : key ≠ "") :
    (∃ key', keyOf collection (of collection key) = .ok key') ↔ isWord collection.toList := by
  simp only [keyOf_eq_ok_iff]
  constructor
  · intro ⟨key', split⟩
    exact isWord_of_split? split
  · intro word
    exact ⟨key, split?_of word key_ne⟩

end RecordStore.Id
