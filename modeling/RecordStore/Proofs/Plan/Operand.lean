import RecordStore.Plan

namespace RecordStore.Operand

variable {operator : Operator} {gs : List Given}

theorem ofGiven_of_multiple (operator : Operator) (multiple : gs.length ≠ 1) :
    ofGiven operator gs = .value (.array (gs.map Given.toValue)) := by
  rcases gs with _ | ⟨g, _ | ⟨g', gs⟩⟩
  · rfl
  · exact absurd rfl multiple
  · rfl

theorem ofGiven_of_takesList (gs : List Given) (takes : operator.takesList) :
    ofGiven operator gs = .value (.array (gs.map Given.toValue)) := by
  by_cases single : gs.length = 1
  case pos =>
    obtain ⟨g, rfl⟩ := List.length_eq_one_iff.mp single
    simp [ofGiven, takes]
  case neg => exact ofGiven_of_multiple operator single

-- Only patterns are not bound as values.
theorem ofGiven_of_not_takesPattern (gs : List Given) (takes : ¬operator.takesPattern) :
    ∃ v, ofGiven operator gs = .value v := by
  unfold ofGiven
  split
  case h_2 => exact ⟨_, rfl⟩
  case h_1 g =>
    split
    case isTrue => exact ⟨_, rfl⟩
    case isFalse =>
      cases g <;> exact ⟨_, rfl⟩

theorem takesPattern_of_ofGiven (pattern : ofGiven operator gs = .pattern p) :
    operator.takesPattern := by
  refine Classical.byContradiction fun takes => ?_
  have ⟨_, bound⟩ := ofGiven_of_not_takesPattern gs takes
  cases bound.symm.trans pattern

theorem ofGiven_of_takesPattern (g : Given) (takes : operator.takesPattern) :
    ofGiven operator [g] = match g with
      | .value v => .value v
      | .pattern p => .pattern p := by
  have list : operator.takesList = false := by
    cases operator <;> cases takes <;> rfl
  cases g with
  | value v => simp [ofGiven, list]
  | pattern p => simp [ofGiven, list, takes]

end RecordStore.Operand
