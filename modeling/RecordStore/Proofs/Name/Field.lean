import RecordStore.Name
import Mathlib

-- The fields that names ask for are words, so that they can be told apart from what follows them.

namespace RecordStore

-- What has a property throughout can be told apart from what begins without it.
theorem span_inj {p : α → Bool} {xs₁ xs₂ ys₁ ys₂ : List α}
    (all₁ : ∀ x ∈ xs₁, p x) (all₂ : ∀ x ∈ xs₂, p x)
    (stop₁ : ∀ y ∈ ys₁.head?, ¬p y) (stop₂ : ∀ y ∈ ys₂.head?, ¬p y)
    (h : xs₁ ++ ys₁ = xs₂ ++ ys₂) : xs₁ = xs₂ ∧ ys₁ = ys₂ := by
  have take {xs ys : List α} (all : ∀ x ∈ xs, p x) (stop : ∀ y ∈ ys.head?, ¬p y) :
      (xs ++ ys).takeWhile p = xs := by
    rw [List.takeWhile_append_of_pos all]
    cases ys with
    | nil => simp
    | cons y ys => simp [stop y rfl]
  have eq : xs₁ = xs₂ := by rw [← take all₁ stop₁, h, take all₂ stop₂]
  exact ⟨eq, List.append_cancel_left (eq ▸ h)⟩

namespace Name

def IsWord (cs : List Char) : Prop := ∀ c ∈ cs, isWord c

-- The fields of filters and sort keys.
def IsField (field : String) : Prop :=
  field.toList ≠ [] ∧ IsWord field.toList

theorem isAlpha_toLower {c : Char} (upper : c.isUpper) : c.toLower.isAlpha := by
  rw [Char.isAlpha_toLower_eq_isAlpha, Char.isAlpha, upper, Bool.true_or]

theorem isWord_toLower {c : Char} (initial : isInitial c) : isWord c.toLower := by
  rcases Bool.or_eq_true_iff.mp initial with upper | underscore
  case inr => rw [beq_iff_eq.mp underscore]; decide
  case inl => rw [isWord, Char.isAlphanum, isAlpha_toLower upper, Bool.true_or, Bool.true_or]

theorem isField_uncapitalize {c : Char} {cs : List Char}
    (initial : isInitial c) (words : ∀ d ∈ cs, isWord d) : IsField (uncapitalize (c :: cs)) := by
  rw [IsField, uncapitalize, String.toList_ofList]
  refine ⟨List.cons_ne_nil _ _, fun d mem => ?_⟩
  rcases List.mem_cons.mp mem with rfl | mem
  · exact isWord_toLower initial
  · exact words d mem

theorem isPrefix_splitComparator : (cs : List Char) → (splitComparator cs).1 <+: cs
  | [] => List.nil_prefix
  | c :: cs => by
    rw [splitComparator]
    split
    · exact List.nil_prefix
    · exact List.cons_prefix_cons.mpr ⟨rfl, isPrefix_splitComparator cs⟩

theorem finder_isField (h : finder name = .ok p) : IsField p.field := by
  unfold finder at h
  split at h
  case h_2 => cases h
  case h_1 c cs _ =>
    split at h
    case isFalse => cases h
    case isTrue valid =>
      have ⟨initial, words⟩ := Bool.and_eq_true_iff.mp valid
      cases h
      refine isField_uncapitalize initial fun d mem => ?_
      exact List.all_eq_true.mp words d <| (isPrefix_splitComparator cs).subset mem

theorem continuation_isField (h : continuation name = .ok p) : IsField p.field := by
  unfold continuation at h
  split at h
  case isFalse => cases h
  case isTrue words =>
    split at h
    case h_1 field comparator eq =>
      split at h
      case isTrue => cases h
      case isFalse nonempty =>
        cases h
        rw [IsField, String.toList_ofList]
        refine ⟨by simpa using nonempty, fun d mem => List.all_eq_true.mp words d ?_⟩
        exact (eq ▸ isPrefix_splitComparator name.toList).subset mem

theorem sorter_isField (h : sorter name = .ok key) : IsField key.field := by
  unfold sorter at h
  split at h
  case h_2 => cases h
  case h_1 c cs _ =>
    split at h
    case h_2 => cases h
    case h_1 field direction _ =>
      split at h
      case isFalse => cases h
      case isTrue valid =>
        have ⟨initial, words⟩ := Bool.and_eq_true_iff.mp valid
        cases h
        exact isField_uncapitalize initial fun d mem => List.all_eq_true.mp words d mem

end Name
end RecordStore
