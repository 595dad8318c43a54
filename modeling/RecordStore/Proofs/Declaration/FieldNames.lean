import Mathlib.Data.List.DropRight
import Mathlib.Data.List.Forall2
import RecordStore.Declaration

-- The names of an index's fields are what stands between the commas of a text, without the white
-- space around it.

namespace RecordStore

namespace Unicode

theorem parts_eq_splitOn (separator : Char) (cs : List Char) :
    parts separator cs = cs.splitOn separator := by
  induction cs with
  | nil => rfl
  | cons c cs ih =>
    rw [parts, List.splitOn_cons_eq_if_modifyHead, ih]
    split
    case isTrue => rfl
    case isFalse =>
      cases pieces : cs.splitOn separator with
      | nil => exact absurd pieces (List.splitOn_ne_nil separator cs)
      | cons => rfl

end Unicode

namespace Declaration

-- The name in a piece of text that has no white space at its ends, and nothing but
-- white space around it.
def Trims (cs : List Char) (name : String) : Prop :=
  ∃ before after, cs = before ++ name.toList ++ after ∧
    (∀ c ∈ before ++ after, Unicode.isWhiteSpace c) ∧
    (∀ c ∈ name.toList.head?, ¬Unicode.isWhiteSpace c) ∧ ∀ c ∈ name.toList.getLast?,
      ¬Unicode.isWhiteSpace c

-- The names that a text lists.
def ListsNames (text : String) (names : List String) : Prop :=
  List.Forall₂ Trims (text.toList.splitOn ',') names

variable {cs before after : List Char} {name text : String} {names : List String}

theorem trim_eq (cs : List Char) :
    trim cs = (cs.dropWhile Unicode.isWhiteSpace).rdropWhile Unicode.isWhiteSpace :=
  rfl

theorem dropWhile_append_of_forall {p : Char → Bool} (all : ∀ c ∈ before, p c)
    (first : ∀ c ∈ cs.head?, ¬p c) :
    (before ++ cs).dropWhile p = cs := by
  rw [List.dropWhile_append, List.dropWhile_eq_nil_iff.mpr all]
  cases cs with
  | nil => rfl
  | cons c cs => simpa using first

theorem rdropWhile_append_of_forall {p : Char → Bool} (all : ∀ c ∈ after, p c)
    (last : ∀ c ∈ cs.getLast?, ¬p c) :
    (cs ++ after).rdropWhile p = cs := by
  rw [List.rdropWhile, List.reverse_append, dropWhile_append_of_forall, List.reverse_reverse]
  · simpa using all
  · simpa using last

theorem trims_iff : Trims cs name ↔ name = .ofList (trim cs) := by
  rw [← String.toList_inj, String.toList_ofList, trim_eq]
  constructor
  · rintro ⟨before, after, rfl, blank, first, last⟩
    have ⟨blank_before, blank_after⟩ := List.forall_mem_append.mp blank
    by_cases empty : name.toList = []
    case pos =>
      have gone : (before ++ name.toList ++ after).dropWhile Unicode.isWhiteSpace = [] := by
        rw [List.dropWhile_eq_nil_iff, empty, List.append_nil]
        exact blank
      rw [gone, empty, List.rdropWhile_nil]
    case neg =>
      rw [List.append_assoc, dropWhile_append_of_forall blank_before,
        rdropWhile_append_of_forall blank_after last]
      rwa [List.head?_append_of_ne_nil _ empty]
  · intro eq
    let rest := cs.dropWhile Unicode.isWhiteSpace
    refine ⟨cs.takeWhile Unicode.isWhiteSpace, rest.rtakeWhile Unicode.isWhiteSpace, ?_, ?_, ?_, ?_⟩
    · rw [eq, List.append_assoc, List.rdropWhile_append_rtakeWhile, List.takeWhile_append_dropWhile]
    · rw [List.forall_mem_append]
      exact ⟨fun c => List.mem_takeWhile_imp, fun c => List.mem_rtakeWhile_imp⟩
    · intro c first
      have ⟨tail, whole⟩ := rest.rdropWhile_prefix Unicode.isWhiteSpace
      have head : rest.head? = some c := by
        rw [← whole, ← eq, List.head?_append, Option.mem_def.mp first, Option.some_or]
      have kept := cs.head?_dropWhile_not Unicode.isWhiteSpace
      rw [head] at kept
      simpa using kept
    · intro c last
      have ne : rest.rdropWhile Unicode.isWhiteSpace ≠ [] := by
        rw [← eq]
        rintro none
        simp [none] at last
      rw [eq, List.getLast?_eq_some_getLast ne, Option.mem_some_iff] at last
      exact last ▸ rest.rdropWhile_last_not Unicode.isWhiteSpace ne

theorem listsNames_iff : ListsNames text names ↔ names = fieldNames text := by
  rw [ListsNames, fieldNames, Unicode.parts_eq_splitOn]
  generalize text.toList.splitOn ',' = pieces
  induction pieces generalizing names with
  | nil => cases names <;> simp
  | cons piece pieces ih => cases names <;> simp [trims_iff, ih]

theorem fieldNames_ne_nil (text : String) : fieldNames text ≠ [] := by
  simp [fieldNames, Unicode.parts_eq_splitOn, List.splitOn_ne_nil]

end Declaration

end RecordStore
