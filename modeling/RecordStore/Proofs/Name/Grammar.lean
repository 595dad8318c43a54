import RecordStore.Proofs.Name.Field

-- The grammar of names. A comparator is spelled at the end of a name, after the field; where a name
-- can be read in several ways, the longest spelling counts that leaves a field before it.

namespace RecordStore

namespace Comparator

-- Equality can be left out, also after `Not`.
inductive SpelledBy : Comparator → String → Prop where
  | omitted : equal.SpelledBy ""
  | negated : notEqual.SpelledBy "Not"
  | full (c : Comparator) : c.SpelledBy c.text

variable {c : Comparator} {s : String}

theorem mem_spellings_iff : (s.toList, c) ∈ spellings ↔ c.SpelledBy s := by
  constructor
  case mp =>
    intro mem
    rcases List.mem_cons.mp mem with eq | mem
    · obtain ⟨spelled, rfl⟩ := Prod.mk.inj eq
      rw [String.toList_eq_nil_iff.mp spelled]
      exact .omitted
    rcases List.mem_cons.mp mem with eq | mem
    · obtain ⟨spelled, rfl⟩ := Prod.mk.inj eq
      rw [String.toList_inj.mp spelled]
      exact .negated
    · obtain ⟨c, _, eq⟩ := List.mem_map.mp mem
      obtain ⟨spelled, rfl⟩ := Prod.mk.inj eq
      rw [← String.toList_inj.mp spelled]
      exact .full c
  case mpr =>
    intro spelled
    cases spelled with
    | omitted => decide
    | negated => decide
    | full => cases c <;> decide

-- No spelling is one of two comparators.
theorem ofSpelling?_eq_some_iff : ofSpelling? s.toList = some c ↔ c.SpelledBy s := by
  constructor
  · intro found
    have ⟨_, _, eq, _⟩ := List.lookup_eq_some_iff.mp found
    exact mem_spellings_iff.mp (by simp [eq])
  · intro spelled
    cases spelled with
    | omitted => decide
    | negated => decide
    | full => cases c <;> decide

end Comparator

namespace Name

open Comparator

variable {word field token name : String} {c : Comparator} {cs f : List Char}

-- The split of a word before the longest spelling that it ends in.
def LongestSplit (cs f : List Char) (c : Comparator) : Prop :=
  ∃ s, cs = f ++ s ∧ ofSpelling? s = some c ∧
    ∀ f' s', cs = f' ++ s' → (ofSpelling? s').isSome → s'.length ≤ s.length

theorem longestSplit_splitComparator (cs : List Char) :
    LongestSplit cs (splitComparator cs).1 (splitComparator cs).2 := by
  induction cs with
  | nil =>
    refine ⟨[], rfl, rfl, fun f' s' eq _ => ?_⟩
    rw [(List.nil_eq_append_iff.mp eq).2]
  | cons d cs ih =>
    rw [splitComparator]
    split
    case h_1 c spelled =>
      refine ⟨d :: cs, rfl, spelled, fun f' s' eq _ => ?_⟩
      rw [eq, List.length_append]
      exact Nat.le_add_left _ _
    case h_2 unspelled =>
      obtain ⟨s, eq, spelled, longest⟩ := ih
      refine ⟨s, congrArg (d :: ·) eq, spelled, fun f' s' eq' spelled' => ?_⟩
      cases f' with
      | nil =>
        rw [List.nil_append] at eq'
        rw [← eq', unspelled] at spelled'
        cases spelled'
      | cons d' f' => exact longest f' s' (List.cons.inj eq').2 spelled'

-- There is only one such split.
theorem splitComparator_eq_iff : splitComparator cs = (f, c) ↔ LongestSplit cs f c := by
  have split := longestSplit_splitComparator cs
  constructor
  · intro eq
    rwa [eq] at split
  · intro ⟨s, eq, spelled, longest⟩
    have ⟨s', eq', spelled', longest'⟩ := split
    have le := longest _ s' eq' (by rw [spelled']; rfl)
    have ge := longest' f s eq (by rw [spelled]; rfl)
    have ⟨same_field, same⟩ := List.append_inj' (eq'.symm.trans eq) (Nat.le_antisymm le ge)
    have same_comparator : (splitComparator cs).2 = c := by
      rw [same, spelled] at spelled'
      exact (Option.some.inj spelled').symm
    exact Prod.ext same_field same_comparator

-- A word is read as a field and the comparator that is spelled after it. Of all spellings that
-- leave a field before them, the longest one counts.
def Reads (word field : String) (c : Comparator) : Prop :=
  ∃ s, word = field ++ s ∧ field ≠ "" ∧ c.SpelledBy s ∧
    ∀ (field' s' : String) (c' : Comparator), word = field' ++ s' → field' ≠ "" → c'.SpelledBy s' →
      s'.length ≤ s.length

-- A field has at least one character, which no spelling takes away from it.
theorem reads_iff (h : word.toList = d :: cs) :
    Reads word field c ↔ ∃ f, field.toList = d :: f ∧ splitComparator cs = (f, c) := by
  have first {field' s' : String} (eq : word = field' ++ s') (ne : field' ≠ "") :
      ∃ f', field'.toList = d :: f' ∧ cs = f' ++ s'.toList := by
    rw [eq, String.toList_append] at h
    cases chars : field'.toList with
    | nil => exact absurd (String.toList_eq_nil_iff.mp chars) ne
    | cons d' f' =>
      rw [chars] at h
      obtain ⟨rfl, rest⟩ := List.cons.inj h
      exact ⟨f', rfl, rest.symm⟩
  constructor
  case mp =>
    rintro ⟨s, eq, ne, spelled, longest⟩
    have ⟨f, chars, rest⟩ := first eq ne
    refine ⟨f, chars, splitComparator_eq_iff.mpr
      ⟨s.toList, rest, ofSpelling?_eq_some_iff.mpr spelled, fun f' s' rest' spelled' => ?_⟩⟩
    have ⟨c', spelled'⟩ := Option.isSome_iff_exists.mp spelled'
    have longer := longest (.ofList (d :: f')) (.ofList s') c'
      (String.toList_inj.mp (by simp [h, rest'])) (by simp)
      (ofSpelling?_eq_some_iff.mp (by simpa using spelled'))
    simpa [← String.length_toList] using longer
  case mpr =>
    rintro ⟨f, chars, split⟩
    have ⟨s, rest, spelled, longest⟩ := splitComparator_eq_iff.mp split
    refine ⟨.ofList s, String.toList_inj.mp (by simp [h, chars, rest]), ?_,
      ofSpelling?_eq_some_iff.mp (by simpa using spelled), fun field' s' c' eq ne spelled' => ?_⟩
    · rintro rfl
      cases chars
    · have ⟨f', _, rest'⟩ := first eq ne
      have longer := longest f' s'.toList rest' (by simp [ofSpelling?_eq_some_iff.mpr spelled'])
      simpa [← String.length_toList] using longer

-- What a finder or sorter names its field by.
def IsToken (token : String) : Prop :=
  IsWord token.toList ∧ ∃ c, token.toList.head? = some c ∧ isInitial c

theorem isWord_of_isInitial {c : Char} (initial : isInitial c) : isWord c := by
  rcases Bool.or_eq_true_iff.mp initial with upper | underscore
  · simp [isWord, Char.isAlphanum, Char.isAlpha, upper]
  · simp [isWord, underscore]

theorem isToken_iff :
    IsToken token ↔ ∃ c cs, token.toList = c :: cs ∧ (isInitial c && cs.all isWord) := by
  simp only [IsToken, IsWord, Bool.and_eq_true, List.all_eq_true]
  constructor
  · rintro ⟨words, c, head, initial⟩
    obtain ⟨cs, chars⟩ := List.head?_eq_some_iff.mp head
    exact ⟨c, cs, chars, initial, fun d mem => words d (chars ▸ List.mem_cons_of_mem c mem)⟩
  · rintro ⟨c, cs, chars, initial, words⟩
    rw [chars]
    exact ⟨List.forall_mem_cons.mpr ⟨isWord_of_isInitial initial, words⟩, c, rfl, initial⟩

-- The names that finders, continuations and sorters can have, and what they ask for.
def IsFinder (name : String) (p : Predicate) : Prop :=
  ∃ token field, name = "findBy" ++ token ∧ IsToken token ∧ Reads token field p.comparator ∧
    p.field = uncapitalize field.toList

def IsContinuation (name : String) (p : Predicate) : Prop :=
  IsWord name.toList ∧ (¬∃ c : Comparator, c.SpelledBy name) ∧ Reads name p.field p.comparator

def IsSorter (name : String) (key : SortKey) : Prop :=
  ∃ token, name = "sortBy" ++ token ++ key.direction.suffix ∧ IsToken token ∧
    key.field = uncapitalize token.toList

theorem after?_eq_some_iff {start rest : List Char} :
    after? start cs = some rest ↔ cs = start ++ rest := by
  rw [after?]
  split
  case isTrue starts =>
    obtain ⟨rest', rfl⟩ := List.isPrefixOf_iff_prefix.mp starts
    simp
  case isFalse starts =>
    refine ⟨nofun, ?_⟩
    rintro rfl
    exact absurd (List.isPrefixOf_iff_prefix.mpr (List.prefix_append start rest)) starts

theorem before?_eq_some_iff {ending rest : List Char} :
    before? ending cs = some rest ↔ cs = rest ++ ending := by
  rw [before?]
  split
  case isTrue ends =>
    obtain ⟨rest', rfl⟩ := List.isSuffixOf_iff_suffix.mp ends
    simp
  case isFalse ends =>
    refine ⟨nofun, ?_⟩
    rintro rfl
    exact absurd (List.isSuffixOf_iff_suffix.mpr (List.suffix_append rest ending)) ends

-- No word ends in both directions.
theorem splitDirection?_append (rest : List Char) (d : Direction) :
    splitDirection? (rest ++ d.suffix.toList) = some (rest, d) := by
  have ascending : ∀ rest' : List Char,
      rest ++ Direction.descending.suffix.toList ≠ rest' ++ Direction.ascending.suffix.toList := by
    intro rest' eq
    have shift : rest ++ Direction.descending.suffix.toList = (rest ++ ['D']) ++ "esc".toList := by
      rw [List.append_assoc]
      rfl
    have ends := (List.append_inj' (shift.symm.trans eq) rfl).2
    revert ends
    decide
  cases d with
  | ascending => rw [splitDirection?, before?_eq_some_iff.mpr rfl]
  | descending =>
    have not_ascending : before? Direction.ascending.suffix.toList
        (rest ++ Direction.descending.suffix.toList) = none :=
      Option.eq_none_iff_forall_ne_some.mpr fun rest' eq =>
        ascending rest' (before?_eq_some_iff.mp eq)
    rw [splitDirection?, not_ascending, before?_eq_some_iff.mpr rfl]
    rfl

theorem eq_of_splitDirection? {rest : List Char} {d : Direction}
    (h : splitDirection? cs = some (rest, d)) : cs = rest ++ d.suffix.toList := by
  rw [splitDirection?] at h
  split at h
  case h_1 ends => cases h; exact before?_eq_some_iff.mp ends
  case h_2 =>
    obtain ⟨_, ends, eq⟩ := Option.map_eq_some_iff.mp h
    cases eq
    exact before?_eq_some_iff.mp ends

theorem finder_of_token (h : token.toList = d :: cs) (legal : isInitial d && cs.all isWord) :
    finder ("findBy" ++ token) =
      .ok ⟨uncapitalize (d :: (splitComparator cs).1), (splitComparator cs).2⟩ := by
  have rest : after? "findBy".toList ("findBy" ++ token).toList = some (d :: cs) := by
    rw [after?_eq_some_iff, String.toList_append, h]
  simp only [finder, rest, legal, if_true]

theorem finder_eq_ok_iff {p : Predicate} : finder name = .ok p ↔ IsFinder name p := by
  constructor
  case mp =>
    intro read
    unfold finder at read
    split at read
    case h_2 => cases read
    case h_1 d cs rest =>
      split at read
      case isFalse => cases read
      case isTrue legal =>
        have chars : (String.ofList (d :: cs)).toList = d :: cs := String.toList_ofList
        refine ⟨.ofList (d :: cs), .ofList (d :: (splitComparator cs).1), ?_, ?_, ?_⟩
        · apply String.toList_inj.mp
          simpa using after?_eq_some_iff.mp rest
        · exact isToken_iff.mpr ⟨d, cs, chars, legal⟩
        · cases read
          rw [String.toList_ofList]
          exact ⟨(reads_iff chars).mpr ⟨_, String.toList_ofList, rfl⟩, rfl⟩
  case mpr =>
    rintro ⟨token, field, rfl, isToken, reads, field_eq⟩
    have ⟨d, cs, chars, legal⟩ := isToken_iff.mp isToken
    have ⟨f, field_chars, split⟩ := (reads_iff chars).mp reads
    rw [finder_of_token chars legal, split]
    congr 1
    rw [field_chars] at field_eq
    cases p
    cases field_eq
    rfl

-- If a word is not a spelling itself, all spellings that it ends in leave a field before them.
theorem reads_iff_of_unspelled (unspelled : ¬∃ c : Comparator, c.SpelledBy word) :
    Reads word field c ↔ splitComparator word.toList = (field.toList, c) := by
  cases chars : word.toList with
  | nil =>
    rw [String.toList_eq_nil_iff.mp chars] at unspelled
    exact absurd ⟨_, .omitted⟩ unspelled
  | cons d cs =>
    have no_spelling : ofSpelling? (d :: cs) = none := by
      refine Option.eq_none_iff_forall_ne_some.mpr fun c spelled => unspelled ⟨c, ?_⟩
      exact ofSpelling?_eq_some_iff.mp (chars ▸ spelled)
    rw [reads_iff chars, splitComparator, no_spelling]
    constructor
    · rintro ⟨f, field_chars, split⟩
      rw [split, field_chars]
    · intro split
      obtain ⟨field_chars, same⟩ := Prod.mk.inj split
      exact ⟨_, field_chars.symm, Prod.ext rfl same⟩

-- A spelling by itself has no field before it, and nothing else is without one.
theorem splitComparator_isEmpty_iff :
    (splitComparator name.toList).1.isEmpty ↔ ∃ c : Comparator, c.SpelledBy name := by
  have ⟨s, eq, spelled, longest⟩ := longestSplit_splitComparator name.toList
  constructor
  · intro empty
    rw [List.isEmpty_iff.mp empty, List.nil_append] at eq
    rw [← eq] at spelled
    exact ⟨_, ofSpelling?_eq_some_iff.mp spelled⟩
  · rintro ⟨c, whole⟩
    have le := longest [] name.toList rfl (by rw [ofSpelling?_eq_some_iff.mpr whole]; rfl)
    rw [eq, List.length_append] at le
    rw [List.isEmpty_iff]
    exact List.eq_nil_of_length_eq_zero (by omega)

theorem continuation_eq_ok_iff {p : Predicate} :
    continuation name = .ok p ↔ IsContinuation name p := by
  have unspelled_iff :
      ¬(splitComparator name.toList).1.isEmpty ↔ ¬∃ c : Comparator, c.SpelledBy name :=
    not_congr splitComparator_isEmpty_iff
  unfold continuation
  constructor
  case mp =>
    intro read
    split at read
    case isFalse => cases read
    case isTrue words =>
      split at read
      case h_1 f c split =>
        split at read
        case isTrue => cases read
        case isFalse nonempty =>
          rw [split] at unspelled_iff
          have unspelled := unspelled_iff.mp nonempty
          cases read
          refine ⟨List.all_eq_true.mp words, unspelled, (reads_iff_of_unspelled unspelled).mpr ?_⟩
          rw [split, String.toList_ofList]
  case mpr =>
    rintro ⟨words, unspelled, reads⟩
    have split := (reads_iff_of_unspelled unspelled).mp reads
    have nonempty := unspelled_iff.mpr unspelled
    rw [split] at nonempty ⊢
    dsimp only at nonempty ⊢
    rw [if_pos (List.all_eq_true.mpr words), if_neg nonempty, String.ofList_toList]

theorem sorter_of_token (h : token.toList = d :: cs) (legal : isInitial d && cs.all isWord)
    (direction : Direction) :
    sorter ("sortBy" ++ token ++ direction.suffix) = .ok ⟨uncapitalize (d :: cs), direction⟩ := by
  have rest : after? "sortBy".toList ("sortBy" ++ token ++ direction.suffix).toList =
      some (d :: (cs ++ direction.suffix.toList)) := by
    rw [after?_eq_some_iff, String.toList_append, String.toList_append, h, List.append_assoc,
      List.cons_append]
  simp only [sorter, rest, splitDirection?_append, legal, if_true]

theorem sorter_eq_ok_iff {key : SortKey} : sorter name = .ok key ↔ IsSorter name key := by
  constructor
  case mp =>
    intro read
    unfold sorter at read
    split at read
    case h_2 => cases read
    case h_1 d cs rest =>
      split at read
      case h_2 => cases read
      case h_1 f direction split =>
        split at read
        case isFalse => cases read
        case isTrue legal =>
          cases read
          refine ⟨.ofList (d :: f), ?_, isToken_iff.mpr ⟨d, f, String.toList_ofList, legal⟩, ?_⟩
          · apply String.toList_inj.mp
            simpa [eq_of_splitDirection? split] using after?_eq_some_iff.mp rest
          · rw [String.toList_ofList]
  case mpr =>
    rintro ⟨token, rfl, isToken, field_eq⟩
    have ⟨d, cs, chars, legal⟩ := isToken_iff.mp isToken
    rw [sorter_of_token chars legal, ← chars, ← field_eq]

-- A token can always be read, since nothing at all is a spelling as well.
theorem exists_isFinder_iff :
    (∃ p, IsFinder name p) ↔ ∃ token, name = "findBy" ++ token ∧ IsToken token := by
  constructor
  · rintro ⟨_, token, _, eq, isToken, _⟩
    exact ⟨token, eq, isToken⟩
  · rintro ⟨token, rfl, isToken⟩
    have ⟨d, cs, chars, legal⟩ := isToken_iff.mp isToken
    exact ⟨_, finder_eq_ok_iff.mp (finder_of_token chars legal)⟩

theorem exists_isContinuation_iff :
    (∃ p, IsContinuation name p) ↔ IsWord name.toList ∧ ¬∃ c : Comparator, c.SpelledBy name := by
  constructor
  · rintro ⟨_, words, unspelled, _⟩
    exact ⟨words, unspelled⟩
  · rintro ⟨words, unspelled⟩
    refine ⟨⟨.ofList (splitComparator name.toList).1, (splitComparator name.toList).2⟩, words,
      unspelled, ?_⟩
    rw [reads_iff_of_unspelled unspelled, String.toList_ofList]

theorem exists_isSorter_iff :
    (∃ key, IsSorter name key) ↔
      ∃ token d, name = "sortBy" ++ token ++ Direction.suffix d ∧ IsToken token := by
  constructor
  · rintro ⟨key, token, eq, isToken, _⟩
    exact ⟨token, key.direction, eq, isToken⟩
  · rintro ⟨token, d, eq, isToken⟩
    exact ⟨⟨_, d⟩, token, eq, isToken, rfl⟩

theorem finder_eq_error (h : finder name = .error e) : e = .malformedName .finder name := by
  unfold finder at h
  split at h
  case h_1 =>
    split at h <;> cases h
    rfl
  case h_2 => cases h; rfl

theorem continuation_eq_error (h : continuation name = .error e) :
    e = if name.toList.all isWord then .missingField name
      else .malformedName .continuation name := by
  unfold continuation at h
  split at h
  case isTrue words =>
    rw [if_pos words]
    split at h
    split at h <;> cases h
    rfl
  case isFalse not_words => cases h; rw [if_neg not_words]

theorem sorter_eq_error (h : sorter name = .error e) : e = .malformedName .sorter name := by
  unfold sorter at h
  split at h
  case h_1 =>
    split at h
    case h_1 =>
      split at h <;> cases h
      rfl
    case h_2 => cases h; rfl
  case h_2 => cases h; rfl

-- A name is read if and only if it is in the grammar of its form, and then as the grammar says.
-- Whatever is wrong with it, the error is one of grammar.
theorem read_iff_in_grammar (name : String) :
    ((∀ p, finder name = .ok p ↔ IsFinder name p) ∧
      ((∃ p, finder name = .ok p) ↔ ∃ token, name = "findBy" ++ token ∧ IsToken token) ∧
      ∀ e, finder name = .error e → e = .malformedName .finder name ∧ e.kind = .grammar) ∧
    ((∀ p, continuation name = .ok p ↔ IsContinuation name p) ∧
      ((∃ p, continuation name = .ok p) ↔
        IsWord name.toList ∧ ¬∃ c : Comparator, c.SpelledBy name) ∧
      ∀ e, continuation name = .error e →
        (e = if name.toList.all isWord then .missingField name
          else .malformedName .continuation name) ∧
          e.kind = .grammar) ∧
    (∀ key, sorter name = .ok key ↔ IsSorter name key) ∧
      ((∃ key, sorter name = .ok key) ↔
        ∃ token d, name = "sortBy" ++ token ++ Direction.suffix d ∧ IsToken token) ∧
      ∀ e, sorter name = .error e → e = .malformedName .sorter name ∧ e.kind = .grammar := by
  refine ⟨⟨fun _ => finder_eq_ok_iff, ?_, fun e failed => ?_⟩,
    ⟨fun _ => continuation_eq_ok_iff, ?_, fun e failed => ?_⟩,
    fun _ => sorter_eq_ok_iff, ?_, fun e failed => ?_⟩
  · simpa only [finder_eq_ok_iff] using exists_isFinder_iff
  · rw [finder_eq_error failed]
    exact ⟨rfl, rfl⟩
  · simpa only [continuation_eq_ok_iff] using exists_isContinuation_iff
  · rw [continuation_eq_error failed]
    refine ⟨rfl, ?_⟩
    split <;> rfl
  · simpa only [sorter_eq_ok_iff] using exists_isSorter_iff
  · rw [sorter_eq_error failed]
    exact ⟨rfl, rfl⟩

-- The same characters are a field and a comparator in a finder, but no field at
-- all in a continuation.
theorem read_iff_in_grammar_of_spelling :
    IsFinder "findByNotContainingOneOf" ⟨"not", .containingOneOf⟩ ∧
      continuation "NotContainingOneOf" = .error (.missingField "NotContainingOneOf") ∧
      (Error.missingField "NotContainingOneOf").kind = .grammar ∧
      IsContinuation "notNotContainingOneOf" ⟨"not", .notContainingOneOf⟩ ∧
      IsSorter "sortByDescAsc" ⟨"desc", .ascending⟩ := by
  have ⟨⟨finders, _⟩, _⟩ := read_iff_in_grammar "findByNotContainingOneOf"
  have ⟨_, ⟨_, _, failures⟩, _⟩ := read_iff_in_grammar "NotContainingOneOf"
  have ⟨_, ⟨continuations, _⟩, _⟩ := read_iff_in_grammar "notNotContainingOneOf"
  have ⟨_, _, sorters, _⟩ := read_iff_in_grammar "sortByDescAsc"
  have failed :
      continuation "NotContainingOneOf" = .error (.missingField "NotContainingOneOf") := by
    rfl
  exact ⟨(finders _).mp rfl, failed, (failures _ failed).2, (continuations _).mp rfl,
    (sorters _).mp rfl⟩

end Name
end RecordStore
