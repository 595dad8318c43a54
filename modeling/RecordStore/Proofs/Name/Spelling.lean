import RecordStore.Proofs.Name.Grammar
import RecordStore.Query

-- Names that are spelled and read again. A field and a comparator can be told apart unless the end
-- of the field and the comparator spell another comparator.

namespace RecordStore

namespace Comparator

variable {c : Comparator} {g : String}

-- The ends of fields that spell another comparator together with the one that follows them.
def Merges (g : List Char) (c : Comparator) : Prop :=
  (g = "Not".toList ∧ c ∈ [equal, matching, containing, containingOneOf]) ∨
    (g = "GreaterThanOr".toList ∨ g = "LesserThanOr".toList) ∧ c = equal

instance {g : List Char} : Decidable (Merges g c) :=
  inferInstanceAs (Decidable (_ ∨ _))

-- The spellings that end in a comparator are the comparator itself and those with such
-- an end before it.
theorem merges_of_suffix : ∀ e ∈ spellings, ∀ c ∈ all, c.text.toList <:+ e.1 →
    e.1 = c.text.toList ∨ Merges (e.1.take (e.1.length - c.text.toList.length)) c := by
  decide

theorem mem_all (c : Comparator) : c ∈ all := by
  cases c <;> decide

theorem merges_iff (ne : g ≠ "") :
    (∃ c' : Comparator, c'.SpelledBy (g ++ c.text)) ↔ Merges g.toList c := by
  constructor
  case mp =>
    rintro ⟨c', spelled⟩
    have mem := mem_spellings_iff.mpr spelled
    have ends : c.text.toList <:+ (g ++ c.text).toList := by simp
    rcases merges_of_suffix _ mem c (mem_all c) ends with eq | merges
    · rw [String.toList_append, List.append_left_eq_self, String.toList_eq_nil_iff] at eq
      exact absurd eq ne
    · simpa using merges
  case mpr =>
    rintro (⟨eq, mem⟩ | ⟨eq, rfl⟩)
    · rw [String.toList_inj.mp eq]
      fin_cases mem
      · exact ⟨_, .full notEqual⟩
      · exact ⟨_, .full notMatching⟩
      · exact ⟨_, .full notContaining⟩
      · exact ⟨_, .full notContainingOneOf⟩
    · rcases eq with eq | eq
      · rw [String.toList_inj.mp eq]
        exact ⟨_, .full greaterThanOrEqual⟩
      · rw [String.toList_inj.mp eq]
        exact ⟨_, .full lesserThanOrEqual⟩

theorem Merges.ne_empty (merges : Merges g.toList c) : g ≠ "" := by
  rintro rfl
  revert merges
  cases c <;> decide

theorem isWord_text (c : Comparator) : Name.IsWord c.text.toList := by
  have all : c.text.toList.all Name.isWord := by cases c <;> decide
  exact List.all_eq_true.mp all

-- Only equality can be left out as a whole.
theorem spelledBy_empty_iff : c.SpelledBy "" ↔ c = equal := by
  rw [← ofSpelling?_eq_some_iff]
  exact ⟨fun h => (Option.some.inj h).symm, fun h => h ▸ rfl⟩

end Comparator

-- A text that is put together in two ways.
theorem string_append_eq_append_iff {a b a' b' : String} :
    a ++ b = a' ++ b' ↔ (∃ m, a' = a ++ m ∧ b = m ++ b') ∨ ∃ m, a = a' ++ m ∧ b' = m ++ b := by
  constructor
  case mp =>
    intro eq
    have chars := congrArg String.toList eq
    rw [String.toList_append, String.toList_append] at chars
    rcases List.append_eq_append_iff.mp chars with ⟨m, eq₁, eq₂⟩ | ⟨m, eq₁, eq₂⟩
    · exact .inl ⟨.ofList m, String.toList_inj.mp (by simpa using eq₁),
        String.toList_inj.mp (by simpa using eq₂)⟩
    · exact .inr ⟨.ofList m, String.toList_inj.mp (by simpa using eq₁),
        String.toList_inj.mp (by simpa using eq₂)⟩
  case mpr =>
    rintro (⟨m, rfl, rfl⟩ | ⟨m, rfl, rfl⟩)
    · exact String.append_assoc.symm
    · exact String.append_assoc

namespace Plan

variable {name name' field : String}

-- A name has a part in a plan only by what it is read as.
theorem find_congr (h : Name.finder name = Name.finder name') (givens : List Given) :
    Plan.find name givens = Plan.find name' givens := by
  rw [Plan.find, Plan.find, h]

theorem filter_congr (h : Name.continuation name = Name.continuation name') (plan : Plan)
    (connective : Connective) (givens : List Given) :
    plan.filter connective name givens = plan.filter connective name' givens := by
  simp only [Plan.filter, Plan.pushFilter, h]

-- Equality takes any number of values.
theorem find_of_equal (h : Name.finder name = .ok ⟨field, .equal⟩) (givens : List Given) :
    ∃ plan, Plan.find name givens = .ok plan := by
  rw [Plan.find, h]
  exact ⟨_, rfl⟩

end Plan

namespace Name

open Comparator

variable {field w : String} {c : Comparator} {d : Char} {cs : List Char}

theorem isWord_append_text (isField : IsField field) : IsWord (field ++ c.text).toList := by
  rw [String.toList_append]
  intro d mem
  rcases List.mem_append.mp mem with mem | mem
  · exact isField.2 d mem
  · exact isWord_text c d mem

-- A comparator is read back unless it is spelled together with the end of the field.
theorem continuation_append_text_iff (isField : IsField field) :
    continuation (field ++ c.text) = .ok ⟨field, c⟩ ↔
      ¬∃ rest g, field = rest ++ g ∧ Merges g.toList c := by
  have ne : field ≠ "" := fun eq => isField.1 (String.toList_eq_nil_iff.mpr eq)
  rw [continuation_eq_ok_iff]
  constructor
  case mp =>
    rintro ⟨_, unspelled, s, eq, _, _, longest⟩ ⟨rest, g, rfl, merges⟩
    obtain rfl := (String.append_right_inj _).mp eq
    have ⟨c', spelled⟩ := (merges_iff merges.ne_empty).mpr merges
    by_cases whole : rest = ""
    case pos =>
      rw [whole, String.empty_append] at unspelled
      exact unspelled ⟨c', spelled⟩
    case neg =>
      have le := longest rest (g ++ c.text) c' String.append_assoc whole spelled
      rw [String.length_append] at le
      have empty : g.length = 0 := by omega
      exact merges.ne_empty (String.length_eq_zero_iff.mp empty)
  case mpr =>
    intro unmerged
    refine ⟨isWord_append_text isField, fun spelled => ?_, c.text, rfl, ne, .full c, ?_⟩
    · exact unmerged ⟨"", field, String.empty_append.symm, (merges_iff ne).mp spelled⟩
    · intro field' s' c' eq _ spelled
      rcases string_append_eq_append_iff.mp eq with ⟨m, _, eq'⟩ | ⟨g, eq', rfl⟩
      · rw [eq', String.length_append]
        exact Nat.le_add_left _ _
      · by_cases empty : g = ""
        · rw [empty, String.empty_append]
        · exact absurd ⟨field', g, eq', (merges_iff empty).mp ⟨c', spelled⟩⟩ unmerged

-- The inverse of `uncapitalize` on fields that begin with a lowercase letter or an underscore.
def capitalize : List Char → String
  | [] => ""
  | c :: cs => .ofList (c.toUpper :: cs)

def IsUncapitalized (w : String) : Prop :=
  IsWord w.toList ∧ ∃ d, w.toList.head? = some d ∧ (d.isLower ∨ d = '_')

theorem isInitial_toUpper (lower : d.isLower ∨ d = '_') : isInitial d.toUpper := by
  rcases lower with lower | rfl
  · have alpha : d.isAlpha := by simp [Char.isAlpha, lower]
    simp [isInitial, Char.isUpper_toUpper_eq_isAlpha, alpha]
  · decide

theorem not_isUpper (lower : d.isLower ∨ d = '_') : ¬d.isUpper := by
  rcases lower with lower | rfl
  · exact Char.not_isUpper_of_isLower lower
  · decide

theorem uncapitalize_toUpper (lower : d.isLower ∨ d = '_') (cs : List Char) :
    uncapitalize (d.toUpper :: cs) = .ofList (d :: cs) := by
  rw [uncapitalize, Char.toLower_toUpper_eq_toLower,
    Char.toLower_eq_of_not_isUpper (not_isUpper lower)]

-- All comparators are spelled with a capital.
theorem ofSpelling?_of_lower (lower : d.isLower ∨ d = '_') : ofSpelling? (d :: cs) = none := by
  have capitals : ∀ e ∈ spellings, e.1.head?.all Char.isUpper := by decide
  refine Option.eq_none_iff_forall_ne_some.mpr fun c found => not_isUpper lower ?_
  have ⟨_, _, eq, _⟩ := List.lookup_eq_some_iff.mp found
  exact capitals (d :: cs, c) (by simp [eq])

theorem isUncapitalized_iff :
    IsUncapitalized w ↔
      ∃ d cs, w.toList = d :: cs ∧ (d.isLower ∨ d = '_') ∧ ∀ c ∈ cs, isWord c := by
  constructor
  · rintro ⟨words, d, head, lower⟩
    obtain ⟨cs, chars⟩ := List.head?_eq_some_iff.mp head
    exact ⟨d, cs, chars, lower, fun c mem => words c (chars ▸ List.mem_cons_of_mem d mem)⟩
  · rintro ⟨d, cs, chars, lower, words⟩
    rw [IsUncapitalized, chars]
    refine ⟨List.forall_mem_cons.mpr ⟨?_, words⟩, d, rfl, lower⟩
    rcases lower with lower | rfl
    · simp [isWord, Char.isAlphanum, Char.isAlpha, lower]
    · decide

theorem IsUncapitalized.isField (uncapitalized : IsUncapitalized w) : IsField w := by
  have ⟨d, cs, chars, _⟩ := isUncapitalized_iff.mp uncapitalized
  exact ⟨chars ▸ List.cons_ne_nil d cs, uncapitalized.1⟩

theorem IsUncapitalized.append_text (uncapitalized : IsUncapitalized w) (c : Comparator) :
    IsUncapitalized (w ++ c.text) := by
  have ⟨d, head, lower⟩ := uncapitalized.2
  refine ⟨isWord_append_text uncapitalized.isField, d, ?_, lower⟩
  rw [String.toList_append, List.head?_append, head, Option.some_or]

-- The capitalized form of a word is a token, of which the word is the field.
theorem IsUncapitalized.token (uncapitalized : IsUncapitalized w) :
    ∃ d cs, w.toList = d :: cs ∧ (d.isLower ∨ d = '_') ∧
      (capitalize w.toList).toList = d.toUpper :: cs ∧ (isInitial d.toUpper && cs.all isWord) := by
  have ⟨d, cs, chars, lower, words⟩ := isUncapitalized_iff.mp uncapitalized
  refine ⟨d, cs, chars, lower, ?_, ?_⟩
  · rw [chars, capitalize, String.toList_ofList]
  · rw [isInitial_toUpper lower, List.all_eq_true.mpr words]
    rfl

theorem IsUncapitalized.read_alike (uncapitalized : IsUncapitalized w) :
    ∃ p, continuation w = .ok p ∧ finder ("findBy" ++ capitalize w.toList) = .ok p := by
  have ⟨d, cs, chars, lower, token, legal⟩ := uncapitalized.token
  have split :
      splitComparator w.toList = (d :: (splitComparator cs).1, (splitComparator cs).2) := by
    rw [chars, splitComparator, ofSpelling?_of_lower lower]
  refine ⟨⟨.ofList (d :: (splitComparator cs).1), (splitComparator cs).2⟩, ?_, ?_⟩
  · rw [continuation, split, if_pos (List.all_eq_true.mpr uncapitalized.1)]
    rfl
  · rw [finder_of_token token legal, uncapitalize_toUpper lower]

theorem IsUncapitalized.finder_eq (uncapitalized : IsUncapitalized w) :
    finder ("findBy" ++ capitalize w.toList) = continuation w := by
  have ⟨_, read, find⟩ := uncapitalized.read_alike
  rw [read, find]

theorem IsUncapitalized.sorter_eq (uncapitalized : IsUncapitalized w) (direction : Direction) :
    sorter ("sortBy" ++ capitalize w.toList ++ direction.suffix) = .ok ⟨w, direction⟩ := by
  have ⟨d, cs, chars, lower, token, legal⟩ := uncapitalized.token
  rw [sorter_of_token token legal, uncapitalize_toUpper lower, ← chars, String.ofList_toList]

theorem IsUncapitalized.capitalize_append (uncapitalized : IsUncapitalized w) (s : String) :
    capitalize (w ++ s).toList = capitalize w.toList ++ s := by
  have ⟨d, cs, chars, _⟩ := uncapitalized.token
  apply String.toList_inj.mp
  rw [String.toList_append, String.toList_append, chars, List.cons_append, capitalize, capitalize,
    String.toList_ofList, String.toList_ofList, List.cons_append]

-- The fields that the comparator after them takes the end of.
def Loses (field : String) (c : Comparator) : Prop :=
  ((∃ rest, field = rest ++ "Not") ∧ c ∈ [.equal, .matching, .containing, .containingOneOf]) ∨
    (∃ rest, field = rest ++ "GreaterThanOr" ∨ field = rest ++ "LesserThanOr") ∧ c = .equal

theorem loses_iff : Loses field c ↔ ∃ rest g, field = rest ++ g ∧ Merges g.toList c := by
  constructor
  case mp =>
    rintro (⟨⟨rest, eq⟩, mem⟩ | ⟨⟨rest, eq | eq⟩, equal⟩)
    · exact ⟨rest, _, eq, .inl ⟨rfl, mem⟩⟩
    · exact ⟨rest, _, eq, .inr ⟨.inl rfl, equal⟩⟩
    · exact ⟨rest, _, eq, .inr ⟨.inr rfl, equal⟩⟩
  case mpr =>
    rintro ⟨rest, g, eq, ⟨chars, mem⟩ | ⟨chars | chars, equal⟩⟩
    · exact .inl ⟨⟨rest, String.toList_inj.mp chars ▸ eq⟩, mem⟩
    · exact .inr ⟨⟨rest, .inl (String.toList_inj.mp chars ▸ eq)⟩, equal⟩
    · exact .inr ⟨⟨rest, .inr (String.toList_inj.mp chars ▸ eq)⟩, equal⟩

-- A word that is wholly its own field is compared for equality, and does not end in a negation.
theorem equal_of_whole (whole : continuation w = .ok ⟨w, c⟩) :
    c = .equal ∧ ¬∃ rest, w = rest ++ "Not" := by
  have ⟨_, unspelled, s, eq, _, spelled, longest⟩ := continuation_eq_ok_iff.mp whole
  obtain rfl : "" = s := (String.append_right_inj w).mp (String.append_empty.trans eq)
  refine ⟨spelledBy_empty_iff.mp spelled, ?_⟩
  rintro ⟨rest, rfl⟩
  by_cases empty : rest = ""
  · rw [empty, String.empty_append] at unspelled
    exact unspelled ⟨_, .negated⟩
  · exact absurd (longest rest "Not" _ rfl empty .negated) (by decide)

-- The words that are taken for another comparison if they are compared for equality explicitly.
def EndsInOr (w : String) : Prop :=
  ∃ rest, rest ≠ "" ∧ (w = rest ++ "GreaterThanOr" ∨ w = rest ++ "LesserThanOr")

theorem IsUncapitalized.loses_equal_iff (uncapitalized : IsUncapitalized w)
    (unnegated : ¬∃ rest, w = rest ++ "Not") : Loses w .equal ↔ EndsInOr w := by
  have proper {rest : String} (ends : w = rest ++ "GreaterThanOr" ∨ w = rest ++ "LesserThanOr") :
      rest ≠ "" := by
    rintro rfl
    have ⟨d, head, lower⟩ := uncapitalized.2
    rcases ends with rfl | rfl
    all_goals
      cases head
      exact absurd lower (by decide)
  constructor
  · rintro (⟨negated, _⟩ | ⟨⟨rest, ends⟩, _⟩)
    · exact absurd negated unnegated
    · exact ⟨rest, proper ends, ends⟩
  · rintro ⟨rest, _, ends⟩
    exact .inr ⟨⟨rest, ends⟩, rfl⟩

theorem IsUncapitalized.append_equal_iff (uncapitalized : IsUncapitalized w)
    (whole : continuation w = .ok ⟨w, c⟩) :
    continuation (w ++ Comparator.equal.text) = continuation w ↔ ¬EndsInOr w := by
  obtain ⟨rfl, unnegated⟩ := equal_of_whole whole
  rw [whole, continuation_append_text_iff uncapitalized.isField, ← loses_iff,
    uncapitalized.loses_equal_iff unnegated]

theorem IsUncapitalized.finder_append_text (uncapitalized : IsUncapitalized w) (c : Comparator) :
    finder ("findBy" ++ capitalize w.toList ++ c.text) = continuation (w ++ c.text) := by
  rw [String.append_assoc, ← uncapitalized.capitalize_append]
  exact (uncapitalized.append_text c).finder_eq

-- A field and a comparator are read back from their spelling, unless the comparator takes the end
-- of the field. Finders, continuations and sorters name the same fields, and an explicit equality
-- changes nothing, neither in what is read nor in the query, unless it becomes another comparator.
theorem spelled_and_read_back :
    (∀ (field : String) (c : Comparator), IsField field →
      (continuation (field ++ c.text) = .ok ⟨field, c⟩ ↔ ¬Loses field c)) ∧
    ∀ w, IsUncapitalized w →
      (∃ p, continuation w = .ok p ∧ finder ("findBy" ++ capitalize w.toList) = .ok p) ∧
      (∀ direction,
        sorter ("sortBy" ++ capitalize w.toList ++ Direction.suffix direction) =
          .ok ⟨w, direction⟩) ∧
      ∀ c, continuation w = .ok ⟨w, c⟩ →
        (continuation (w ++ "Equal") = continuation w ↔ ¬EndsInOr w) ∧
        (finder ("findBy" ++ capitalize w.toList ++ "Equal") =
            finder ("findBy" ++ capitalize w.toList) ↔
          ¬EndsInOr w) ∧
        (¬EndsInOr w → ∀ (givens : List Given) (collection : String),
          (∃ q,
            (Plan.find ("findBy" ++ capitalize w.toList) givens).map (Query.find collection) =
              .ok q ∧
            (Plan.find ("findBy" ++ capitalize w.toList ++ "Equal") givens).map
              (Query.find collection) = .ok q) ∧
          ∀ (plan : Plan) (connective : Connective),
            (plan.filter connective (w ++ "Equal") givens).map (Query.find collection) =
              (plan.filter connective w givens).map (Query.find collection)) := by
  refine ⟨fun field c isField => ?_, fun w uncapitalized => ⟨uncapitalized.read_alike,
    uncapitalized.sorter_eq, fun c whole => ?_⟩⟩
  case refine_1 => rw [continuation_append_text_iff isField, loses_iff]
  have alike : continuation (w ++ "Equal") = continuation w ↔ ¬EndsInOr w :=
    uncapitalized.append_equal_iff whole
  have finders :
      finder ("findBy" ++ capitalize w.toList ++ "Equal") = continuation (w ++ "Equal") :=
    uncapitalized.finder_append_text .equal
  refine ⟨alike, ?_, fun free givens collection => ?_⟩
  case refine_1 => rw [finders, uncapitalized.finder_eq, alike]
  case refine_2 =>
    have same := alike.mpr free
    obtain ⟨rfl, _⟩ := equal_of_whole whole
    have read : finder ("findBy" ++ capitalize w.toList) = .ok ⟨w, .equal⟩ :=
      uncapitalized.finder_eq.trans whole
    have ⟨plan, found⟩ := Plan.find_of_equal read givens
    refine ⟨⟨.find collection plan, ?_, ?_⟩, fun plan connective => ?_⟩
    · rw [found]
      rfl
    · rw [Plan.find_congr (finders.trans (same.trans uncapitalized.finder_eq.symm)) givens, found]
      rfl
    · rw [Plan.filter_congr same]

-- The same end is a part of the field where another comparator follows, and is
-- none where equality does.
theorem spelled_and_read_back_of_price :
    IsField "priceGreaterThanOr" ∧
      continuation "priceGreaterThanOrMatching" = .ok ⟨"priceGreaterThanOr", .matching⟩ ∧
      ¬Loses "priceGreaterThanOr" .matching ∧ Loses "priceGreaterThanOr" .equal ∧
    IsUncapitalized "price" ∧ sorter "sortByPriceDesc" = .ok ⟨"price", .descending⟩ ∧
      continuation "price" = .ok ⟨"price", .equal⟩ ∧ ¬EndsInOr "price" ∧
      ∃ q, (Plan.find "findByPrice" []).map (Query.find "items") = .ok q ∧
        (Plan.find "findByPriceEqual" []).map (Query.find "items") = .ok q := by
  have ⟨fields, words⟩ := spelled_and_read_back
  have isField : IsField "priceGreaterThanOr" :=
    ⟨by decide, List.all_eq_true.mp (by decide)⟩
  have uncapitalized : IsUncapitalized "price" :=
    ⟨List.all_eq_true.mp (by decide), 'p', rfl, .inl (by decide)⟩
  have ⟨_, sorters, equality⟩ := words "price" uncapitalized
  have whole : continuation "price" = .ok ⟨"price", .equal⟩ := rfl
  have ⟨alike, _, queries⟩ := equality _ whole
  have free : ¬EndsInOr "price" := alike.mp rfl
  have read : continuation "priceGreaterThanOrMatching" = .ok ⟨"priceGreaterThanOr", .matching⟩ :=
    rfl
  exact ⟨isField, read, (fields _ _ isField).mp read, .inr ⟨⟨"price", .inl rfl⟩, rfl⟩,
    uncapitalized, sorters .descending, whole, free, (queries free [] "items").1⟩

end Name

end RecordStore
