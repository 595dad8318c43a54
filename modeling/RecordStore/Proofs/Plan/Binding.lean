import RecordStore.Proofs.Plan.Question

namespace RecordStore

-- What follows the last occurrence of an element can be told apart from what precedes it.
theorem append_cons_inj_of_notMem {a : α} {xs₁ xs₂ ys₁ ys₂ : List α}
    (absent₁ : a ∉ ys₁) (absent₂ : a ∉ ys₂) (h : xs₁ ++ a :: ys₁ = xs₂ ++ a :: ys₂) :
    xs₁ = xs₂ ∧ ys₁ = ys₂ := by
  rcases List.append_eq_append_iff.mp h with ⟨zs, eq, rest⟩ | ⟨zs, eq, rest⟩
  all_goals cases zs with
  | nil => simp_all
  | cons z zs => simp_all

theorem toString_toList (n : Nat) : (toString n).toList = Nat.toDigits 10 n := by
  rw [Nat.toString_eq_ofList_toDigits, String.toList_ofList]

theorem toString_inj {m n : Nat} (h : (toString m).toList = (toString n).toList) : m = n := by
  rw [toString_toList, toString_toList] at h
  rw [← Nat.ofDigitChars_ten_toDigits (n := m), h, Nat.ofDigitChars_ten_toDigits]

namespace Filter

theorem bindName_toList (field : String) (position : Nat) :
    (bindName field position).toList =
      field.toList.dropWhile (· == '_') ++ '_' :: (toString position).toList := by
  simp [bindName]

-- The digits after the last underscore are the position.
theorem bindName_inj {field₁ field₂ : String} {i j : Nat}
    (h : bindName field₁ i = bindName field₂ j) : i = j := by
  have chars := congrArg String.toList h
  rw [bindName_toList, bindName_toList] at chars
  have absent (n : Nat) : '_' ∉ (toString n).toList := by
    rw [toString_toList]
    exact Nat.underscore_not_in_toDigits
  have ⟨_, digits⟩ := append_cons_inj_of_notMem (absent i) (absent j) chars
  exact toString_inj digits

end Filter

theorem Plan.StandsFor.nodup_binds {plan : Plan} {question : Question}
    (stands : plan.StandsFor question) : (plan.filters.map (·.bind)).Nodup := by
  rw [stands.filters, List.Nodup, List.pairwise_map, List.pairwise_iff_getElem]
  intro i j _ _ lt eq
  simp only [List.getElem_mapIdx, Condition.filter] at eq
  exact Nat.ne_of_lt lt (Filter.bindName_inj eq)

end RecordStore
