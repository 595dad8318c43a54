import RecordStore.Proofs.Declaration.Validity
import RecordStore.Proofs.Name.Field
import RecordStore.Proofs.Schema.Reference

-- The names that collections are given by default: ids can be made of them, and types that are
-- named as usual never share one.

namespace RecordStore

namespace Unicode

variable {c : Char}

theorem isAscii_of_isAlphanum (alphanum : c.isAlphanum) : isAscii c := by
  simp only [Char.isAlphanum, Char.isAlpha, Char.isUpper, Char.isLower, Char.isDigit,
    Bool.or_eq_true,
    Bool.and_eq_true, decide_eq_true_eq, ge_iff_le, UInt32.le_iff_toNat_le] at alphanum
  have bound : c.val.toNat < 0x80 := by
    rcases alphanum with (⟨_, le⟩ | ⟨_, le⟩) | ⟨_, le⟩
    all_goals exact Nat.lt_of_le_of_lt le (by decide)
  exact decide_eq_true bound

theorem isUppercase_of_isAscii (ascii : isAscii c) : isUppercase c = c.isUpper :=
  if_pos ascii

theorem lowercase_of_isAscii (ascii : isAscii c) : lowercase c = [c.toLower] :=
  if_pos ascii

end Unicode

namespace Name

variable {c : Char}

theorem isWord_iff : isWord c ↔ c.isAlphanum ∨ c = '_' := by
  simp [isWord]

theorem isAscii_of_isWord (word : isWord c) : Unicode.isAscii c := by
  rcases isWord_iff.mp word with alphanum | rfl
  · exact Unicode.isAscii_of_isAlphanum alphanum
  · decide

theorem isUppercase_iff (word : isWord c) : Unicode.isUppercase c ↔ c.isUpper := by
  rw [Unicode.isUppercase_of_isAscii (isAscii_of_isWord word)]

theorem isAlphanumeric_or (word : isWord c) : Unicode.isAlphanumeric c ∨ c = '_' := by
  refine (isWord_iff.mp word).imp_left fun alphanum => ?_
  rwa [Unicode.isAlphanumeric, if_pos (isAscii_of_isWord word)]

theorem isWord_toLower_of_isWord (word : isWord c) : isWord c.toLower := by
  by_cases upper : c.isUpper
  case pos => exact isWord_toLower (Bool.or_eq_true_iff.mpr (.inl upper))
  case neg => rwa [Char.toLower_eq_of_not_isUpper upper]

end Name

namespace Declaration

open Meta

-- Identifiers of letters, digits and underscores, all of which are in ASCII.
def IsIdentifier (ident : String) : Prop :=
  ident ≠ "" ∧ Name.IsWord ident.toList

-- The usual style of types: words begin with capitals, and nothing else sets them apart. Digits
-- belong to the word that they follow.
structure IsTypeName (ident : String) : Prop where
  identifier : IsIdentifier ident
  capital : ∃ c ∈ ident.toList.head?, c.isUpper
  no_underscore : '_' ∉ ident.toList

-- Outside of ASCII there are capitals without small forms.
def IsLowerable (ident : String) : Prop :=
  ∀ c ∈ ident.toList, Unicode.isUppercase c → ∀ d ∈ Unicode.lowercase c, ¬Unicode.isUppercase d

-- What makes a name usable for a collection: it can stand in ids, and it is written in small
-- letters throughout, so that it remains as it is.
structure IsUsable (name : String) : Prop where
  word : Id.IsName name
  lower : ∀ c ∈ name.toList, ¬Unicode.isUppercase c
  splits : ∀ key, key ≠ "" → Id.split? (name ++ "/" ++ key) = some (name, key)
  settled : snakeCase name = name

-- Attributes that leave the name of the collection to be made of the identifier.
def Unnamed (attributes : List Attribute) : Prop :=
  ∀ item ∈ attributes.flatMap Attribute.items, item.path ≠ "name"

-- The form that a character has in the names that are made of identifiers.
def lowered (c : Char) : List Char :=
  if Unicode.isUppercase c then Unicode.lowercase c else [c]

-- The inverse of `snakeCase` on names of types. Underscores are left out, and what follows one is
-- made a capital, as is what comes first.
def camelCase : (capital : Bool) → List Char → List Char
  | _, [] => []
  | capital, c :: cs =>
    if c = '_' then camelCase true cs else (if capital then c.toUpper else c) :: camelCase false cs

section

variable {c d : Char} {cs : List Char} {ident name : String}

theorem lowered_of_not_isUppercase (lower : ¬Unicode.isUppercase c) : lowered c = [c] :=
  if_neg lower

theorem lowered_of_isWord (word : Name.isWord c) : lowered c = [c.toLower] := by
  by_cases upper : c.isUpper
  case pos =>
    rw [lowered, if_pos ((Name.isUppercase_iff word).mpr upper),
      Unicode.lowercase_of_isAscii (Name.isAscii_of_isWord word)]
  case neg =>
    rw [lowered_of_not_isUppercase (mt (Name.isUppercase_iff word).mp upper),
      Char.toLower_eq_of_not_isUpper upper]

theorem snakeCaseRest_cons_of_isUppercase (upper : Unicode.isUppercase c) (cs : List Char) :
    snakeCaseRest (c :: cs) = '_' :: (lowered c ++ snakeCaseRest cs) := by
  rw [snakeCaseRest, lowered, if_pos upper, if_pos upper, List.cons_append]

theorem snakeCaseRest_cons_of_not_isUppercase (lower : ¬Unicode.isUppercase c) (cs : List Char) :
    snakeCaseRest (c :: cs) = c :: snakeCaseRest cs := by
  rw [snakeCaseRest, if_neg lower, List.singleton_append]

-- No underscore is put before the first character.
theorem toList_snakeCase (chars : ident.toList = c :: cs) :
    (snakeCase ident).toList = lowered c ++ snakeCaseRest cs := by
  simp only [snakeCase, chars, String.toList_ofList, lowered]

theorem mem_snakeCaseRest (mem : d ∈ snakeCaseRest cs) : d = '_' ∨ ∃ c ∈ cs, d ∈ lowered c := by
  induction cs with
  | nil => cases mem
  | cons c cs ih =>
    rcases List.mem_append.mp mem with here | rest
    case inl =>
      by_cases upper : Unicode.isUppercase c
      case pos =>
        rw [if_pos upper] at here
        refine (List.mem_cons.mp here).imp_right fun form => ⟨c, List.mem_cons_self, ?_⟩
        rwa [lowered, if_pos upper]
      case neg =>
        rw [if_neg upper] at here
        refine .inr ⟨c, List.mem_cons_self, ?_⟩
        rwa [lowered, if_neg upper]
    case inr => exact (ih rest).imp_right List.exists_mem_cons_of_exists

theorem mem_snakeCase (mem : d ∈ (snakeCase ident).toList) :
    d = '_' ∨ ∃ c ∈ ident.toList, d ∈ lowered c := by
  cases chars : ident.toList with
  | nil =>
    rw [snakeCase, chars] at mem
    cases mem
  | cons c cs =>
    rw [toList_snakeCase chars] at mem
    rcases List.mem_append.mp mem with here | rest
    · exact .inr ⟨c, List.mem_cons_self, here⟩
    · exact (mem_snakeCaseRest rest).imp_right List.exists_mem_cons_of_exists

theorem snakeCaseRest_of_lower (lower : ∀ c ∈ cs, ¬Unicode.isUppercase c) :
    snakeCaseRest cs = cs := by
  induction cs with
  | nil => rfl
  | cons c cs ih =>
    obtain ⟨first, rest⟩ := List.forall_mem_cons.mp lower
    rw [snakeCaseRest_cons_of_not_isUppercase first, ih rest]

-- Names in small letters remain as they are.
theorem snakeCase_of_lower (lower : ∀ c ∈ name.toList, ¬Unicode.isUppercase c) :
    snakeCase name = name := by
  apply String.toList_inj.mp
  cases chars : name.toList with
  | nil => rw [snakeCase, chars]; rfl
  | cons c cs =>
    rw [chars] at lower
    obtain ⟨first, rest⟩ := List.forall_mem_cons.mp lower
    rw [toList_snakeCase chars, lowered_of_not_isUppercase first, snakeCaseRest_of_lower rest,
      List.singleton_append]

theorem IsLowerable.lower (lowerable : IsLowerable ident) :
    ∀ d ∈ (snakeCase ident).toList, ¬Unicode.isUppercase d := by
  intro d mem
  rcases mem_snakeCase mem with rfl | ⟨c, mem, form⟩
  case inl => decide
  case inr =>
    by_cases upper : Unicode.isUppercase c
    case pos =>
      rw [lowered, if_pos upper] at form
      exact lowerable c mem upper d form
    case neg =>
      rw [lowered_of_not_isUppercase upper, List.mem_singleton] at form
      rwa [form]

theorem IsLowerable.snakeCase_snakeCase (lowerable : IsLowerable ident) :
    snakeCase (snakeCase ident) = snakeCase ident :=
  snakeCase_of_lower lowerable.lower

end

variable {ident ident' : String} {cs : List Char}

namespace IsIdentifier

theorem isLowerable (identifier : IsIdentifier ident) : IsLowerable ident := by
  intro c mem _ d form
  have word := identifier.2 c mem
  rw [Unicode.lowercase_of_isAscii (Name.isAscii_of_isWord word), List.mem_singleton] at form
  rw [form, Name.isUppercase_iff (Name.isWord_toLower_of_isWord word),
    Char.isUpper_toLower_eq_false]
  exact Bool.false_ne_true

theorem isName (identifier : IsIdentifier ident) : Id.IsName ident :=
  ⟨identifier.1, fun c mem => Name.isAlphanumeric_or (identifier.2 c mem)⟩

theorem snakeCase (identifier : IsIdentifier ident) : IsIdentifier (snakeCase ident) := by
  refine ⟨snakeCase_ne_empty identifier.1, fun d mem => ?_⟩
  rcases mem_snakeCase mem with rfl | ⟨c, mem, form⟩
  case inl => decide
  case inr =>
    have word := identifier.2 c mem
    rw [lowered_of_isWord word, List.mem_singleton] at form
    exact form ▸ Name.isWord_toLower_of_isWord word

theorem isUsable (identifier : IsIdentifier ident) : IsUsable (Declaration.snakeCase ident) where
  word := identifier.snakeCase.isName
  lower := identifier.isLowerable.lower
  splits _ := Id.split?_of_isName identifier.snakeCase.isName
  settled := identifier.isLowerable.snakeCase_snakeCase

end IsIdentifier

theorem camelCase_underscore (capital : Bool) (cs : List Char) :
    camelCase capital ('_' :: cs) = camelCase true cs :=
  rfl

theorem camelCase_of_ne {c : Char} (ne : c ≠ '_') (cs : List Char) :
    camelCase false (c :: cs) = c :: camelCase false cs :=
  if_neg ne

theorem camelCase_toLower {c : Char} (upper : c.isUpper) (cs : List Char) :
    camelCase true (c.toLower :: cs) = c :: camelCase false cs := by
  have ne : c.toLower ≠ '_' := by
    intro eq
    have alpha := Name.isAlpha_toLower upper
    rw [eq] at alpha
    exact absurd alpha (by decide)
  rw [camelCase, if_neg ne, if_pos rfl, Char.toUpper_toLower_eq_toUpper,
    Char.toUpper_eq_of_not_isLower (Char.not_isLower_of_isUpper upper)]

-- The only underscores are those that have been put before capitals.
theorem camelCase_snakeCaseRest (words : Name.IsWord cs) (no_underscore : '_' ∉ cs) :
    camelCase false (snakeCaseRest cs) = cs := by
  induction cs with
  | nil => rfl
  | cons c cs ih =>
    obtain ⟨first, rest⟩ := List.forall_mem_cons.mp words
    rw [List.mem_cons, not_or] at no_underscore
    have rest_eq := ih rest no_underscore.2
    by_cases upper : Unicode.isUppercase c
    case pos =>
      rw [snakeCaseRest_cons_of_isUppercase upper, lowered_of_isWord first, camelCase_underscore,
        List.singleton_append, camelCase_toLower ((Name.isUppercase_iff first).mp upper), rest_eq]
    case neg =>
      rw [snakeCaseRest_cons_of_not_isUppercase upper, camelCase_of_ne (Ne.symm no_underscore.1),
        rest_eq]

namespace IsTypeName

theorem camelCase_snakeCase (type : IsTypeName ident) :
    camelCase true (snakeCase ident).toList = ident.toList := by
  obtain ⟨⟨_, words⟩, ⟨c, head, upper⟩, no_underscore⟩ := type
  obtain ⟨cs, chars⟩ := List.head?_eq_some_iff.mp head
  rw [chars] at words no_underscore
  obtain ⟨first, rest⟩ := List.forall_mem_cons.mp words
  rw [toList_snakeCase chars, lowered_of_isWord first, List.singleton_append,
    camelCase_toLower upper,
    camelCase_snakeCaseRest rest (List.not_mem_of_not_mem_cons no_underscore), chars]

theorem snakeCase_inj (type : IsTypeName ident) (type' : IsTypeName ident') :
    snakeCase ident = snakeCase ident' ↔ ident = ident' := by
  constructor
  · intro eq
    apply String.toList_inj.mp
    rw [← type.camelCase_snakeCase, eq, type'.camelCase_snakeCase]
  · rintro rfl
    rfl

end IsTypeName

theorem name_of_unnamed {attributes : List Attribute} {d : Declaration}
    (unnamed : Unnamed attributes)
    (declared : ofAttributes ident attributes = .ok d) : d.name = snakeCase ident := by
  have nothing : given string? "name" (attributes.flatMap Attribute.items) = [] := by
    refine List.eq_nil_iff_forall_not_mem.mpr fun name mem => ?_
    obtain ⟨item, mem, path, _⟩ := mem_given_iff.mp mem
    exact unnamed item mem path
  rw [(declares_of_ofAttributes declared).name, nothing]
  rfl

-- The name that is made of an identifier is a word in small letters, so that it is found again in
-- all ids that begin with it, and it is its own default name. Types never share their default names
-- if theirs begin with capitals and have no underscores.
theorem default_names_usable_and_distinct :
    (∀ ident, IsIdentifier ident → IsUsable (snakeCase ident)) ∧
    (∀ ident, IsLowerable ident → snakeCase (snakeCase ident) = snakeCase ident) ∧
    (∀ ident ident', IsTypeName ident → IsTypeName ident' → snakeCase ident = snakeCase ident' →
      ident = ident') ∧
    ∀ (ident : String) (attributes : List Attribute) (d : Declaration), Unnamed attributes →
      ofAttributes ident attributes = .ok d →
        (IsIdentifier ident → IsUsable d.name ∧ (Schema.ofDeclaration d).ReadsReferences) ∧
        ∀ ident' attributes' d', IsTypeName ident → IsTypeName ident' → Unnamed attributes' →
          ofAttributes ident' attributes' = .ok d' → (d.name = d'.name ↔ ident = ident') := by
  refine ⟨fun _ => IsIdentifier.isUsable, fun _ => IsLowerable.snakeCase_snakeCase, ?_, ?_⟩
  · intro ident ident' type type'
    exact (type.snakeCase_inj type').mp
  · intro ident attributes d unnamed declared
    have name_eq := name_of_unnamed unnamed declared
    refine ⟨fun identifier => ?_, fun ident' attributes' d' type type' unnamed' declared' => ?_⟩
    · have usable : IsUsable d.name := name_eq ▸ identifier.isUsable
      exact ⟨usable, Schema.readsReferences usable.word⟩
    · rw [name_eq, name_of_unnamed unnamed' declared']
      exact type.snakeCase_inj type'

-- A run of capitals is taken apart into single letters.
theorem default_names_usable_and_distinct_of_acronym :
    let attributes : List Attribute := [.other, .collection [.mk "edge" none none]]
    IsIdentifier "_Raw_Item2" ∧ IsUsable (snakeCase "_Raw_Item2") ∧
    IsLowerable "_Raw_Item2" ∧ snakeCase (snakeCase "_Raw_Item2") = snakeCase "_Raw_Item2" ∧
    IsTypeName "HTTPServer2" ∧ IsTypeName "HttpServer2" ∧
    snakeCase "HTTPServer2" ≠ snakeCase "HttpServer2" ∧ Unnamed attributes ∧
    ∃ d d', ofAttributes "HTTPServer2" attributes = .ok d ∧
      ofAttributes "HttpServer2" [] = .ok d' ∧ d.name = "h_t_t_p_server2" ∧
      d'.name = "http_server2" ∧ IsUsable d.name ∧ d.name ≠ d'.name := by
  intro attributes
  have raw : IsIdentifier "_Raw_Item2" := ⟨by decide, List.all_eq_true.mp (by decide)⟩
  have type : IsTypeName "HTTPServer2" :=
    ⟨⟨by decide, List.all_eq_true.mp (by decide)⟩, ⟨'H', rfl, by decide⟩, by decide⟩
  have type' : IsTypeName "HttpServer2" :=
    ⟨⟨by decide, List.all_eq_true.mp (by decide)⟩, ⟨'H', rfl, by decide⟩, by decide⟩
  have unnamed : Unnamed attributes := by simp [Unnamed, attributes, Attribute.items, path]
  have unnamed' : Unnamed [] := by simp [Unnamed]
  obtain ⟨usable, settled, distinct, declared⟩ := default_names_usable_and_distinct
  obtain ⟨d, read⟩ : ∃ d, ofAttributes "HTTPServer2" attributes = .ok d := ⟨_, rfl⟩
  obtain ⟨d', read'⟩ : ∃ d', ofAttributes "HttpServer2" [] = .ok d' := ⟨_, rfl⟩
  obtain ⟨usable_name, same_iff⟩ := declared "HTTPServer2" attributes d unnamed read
  have same_iff := same_iff "HttpServer2" [] d' type type' unnamed' read'
  refine ⟨raw, usable _ raw, raw.isLowerable, settled _ raw.isLowerable, type, type', ?_, unnamed,
    d, d', read, read', ?_, ?_, ?_, ?_⟩
  · exact mt (distinct _ _ type type') (by decide)
  · cases read
    decide +kernel
  · cases read'
    decide +kernel
  · exact (usable_name type.identifier).1
  · exact mt same_iff.mp (by decide)

-- Types of another style can share a name.
example : snakeCase "UserFollows" = snakeCase "User_follows" ∧
    snakeCase "Items" = snakeCase "items" := by
  decide +kernel

end Declaration
end RecordStore
