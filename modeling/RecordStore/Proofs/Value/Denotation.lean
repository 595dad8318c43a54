import RecordStore.Proofs.Double
import RecordStore.Proofs.Value.Sameness

-- What values denote. The order of values tells apart only what is different after rounding, and
-- nothing is rounded that has integers of a magnitude of up to `2 ^ 53` only.

namespace RecordStore

namespace Value

mutual

-- Values of the same structure, in which numbers agree by what they stand for.
def Agree (denote : Number → ℚ) : Value → Value → Prop
  | .null, .null => True
  | .bool a, .bool b => a = b
  | .number m, .number n => denote m = denote n
  | .string a, .string b => a = b
  | .array as, .array bs => ItemsAgree denote as bs
  | .object ⟨_, _, as⟩, .object ⟨_, _, bs⟩ => MembersAgree denote as bs
  | _, _ => False

def ItemsAgree (denote : Number → ℚ) : List Value → List Value → Prop
  | [], [] => True
  | a :: as, b :: bs => Agree denote a b ∧ ItemsAgree denote as bs
  | _, _ => False

def MembersAgree (denote : Number → ℚ) :
    {ms ns : List String} → Values Value ms → Values Value ns → Prop
  | _, _, .nil, .nil => True
  | m :: _, n :: _, .cons a as, .cons b bs => m = n ∧ Agree denote a b ∧ MembersAgree denote as bs
  | _, _, _, _ => False

end

mutual

-- The numbers in a value, at any depth.
def numbers : Value → List Number
  | .number n => [n]
  | .array items => itemNumbers items
  | .object ⟨_, _, members⟩ => memberNumbers members
  | _ => []

def itemNumbers : List Value → List Number
  | [] => []
  | v :: vs => numbers v ++ itemNumbers vs

def memberNumbers : {names : List String} → Values Value names → List Number
  | _, .nil => []
  | _, .cons v vs => numbers v ++ memberNumbers vs

end

section

variable {denote : Number → ℚ}

mutual

theorem Agree.refl (v : Value) : v.Agree denote v := by
  cases v with
  | array items => exact ItemsAgree.refl items
  | object fields => exact MembersAgree.refl fields.values
  | _ => simp [Agree]

theorem ItemsAgree.refl (vs : List Value) : ItemsAgree denote vs vs := by
  match vs with
  | [] => trivial
  | v :: vs => exact ⟨Agree.refl v, ItemsAgree.refl vs⟩

theorem MembersAgree.refl {names : List String} (vs : Values Value names) :
    MembersAgree denote vs vs := by
  match names, vs with
  | _, .nil => trivial
  | _, .cons v vs => exact ⟨rfl, Agree.refl v, MembersAgree.refl vs⟩

end

variable {denote' : Number → ℚ}

mutual

-- What numbers stand for may be replaced if they still agree, which matters only for the numbers
-- that are there.
theorem Agree.replace {a b : Value} (agree : a.Agree denote b)
    (imp : ∀ m ∈ a.numbers, ∀ n ∈ b.numbers, denote m = denote n → denote' m = denote' n) :
    a.Agree denote' b := by
  cases a <;> cases b
  case number.number m n => exact imp m (.head _) n (.head _) agree
  case array.array as bs => exact ItemsAgree.replace agree imp
  case object.object as bs =>
    obtain ⟨_, _, as⟩ := as
    obtain ⟨_, _, bs⟩ := bs
    exact MembersAgree.replace agree imp
  all_goals exact agree

theorem ItemsAgree.replace {as bs : List Value} (agree : ItemsAgree denote as bs)
    (imp : ∀ m ∈ itemNumbers as, ∀ n ∈ itemNumbers bs, denote m = denote n →
      denote' m = denote' n) :
    ItemsAgree denote' as bs := by
  match as, bs with
  | [], [] => trivial
  | a :: as, b :: bs =>
    simp only [itemNumbers, List.mem_append] at imp
    exact ⟨agree.1.replace fun m m_mem n n_mem => imp m (.inl m_mem) n (.inl n_mem),
      agree.2.replace fun m m_mem n n_mem => imp m (.inr m_mem) n (.inr n_mem)⟩

theorem MembersAgree.replace {ms ns : List String} {as : Values Value ms} {bs : Values Value ns}
    (agree : MembersAgree denote as bs)
    (imp : ∀ m ∈ memberNumbers as, ∀ n ∈ memberNumbers bs, denote m = denote n →
      denote' m = denote' n) :
    MembersAgree denote' as bs := by
  match ms, ns, as, bs with
  | _, _, .nil, .nil => trivial
  | _, _, .cons a as, .cons b bs =>
    simp only [memberNumbers, List.mem_append] at imp
    exact ⟨agree.1, agree.2.1.replace fun m m_mem n n_mem => imp m (.inl m_mem) n (.inl n_mem),
      agree.2.2.replace fun m m_mem n n_mem => imp m (.inr m_mem) n (.inr n_mem)⟩

end
end

mutual

theorem compare_eq_iff_agree (a b : Value) : a.compare b = .eq ↔ a.Agree Number.rounded b := by
  cases a <;> cases b
  case number.number m n =>
    rw [Agree, Number.rounded, Number.rounded, Double.value_eq_iff]
    exact Std.LawfulEqOrd.compare_eq_iff_eq (α := Int)
  case array.array as bs => exact compareItems_eq_iff_agree as bs
  case object.object as bs => exact compareMembers_eq_iff_agree as.values bs.values
  all_goals simp [compare, Agree, rank]

theorem compareItems_eq_iff_agree (as bs : List Value) :
    compareItems as bs = .eq ↔ ItemsAgree Number.rounded as bs := by
  match as, bs with
  | [], [] | [], _ :: _ | _ :: _, [] => simp [compareItems, ItemsAgree]
  | a :: as, b :: bs =>
    rw [compareItems, ItemsAgree, Ordering.then_eq_eq, compare_eq_iff_agree a b,
      compareItems_eq_iff_agree as bs]

theorem compareMembers_eq_iff_agree {ms ns : List String} (as : Values Value ms)
    (bs : Values Value ns) :
    compareMembers as bs = .eq ↔ MembersAgree Number.rounded as bs := by
  match ms, ns, as, bs with
  | _, _, .nil, .nil | _, _, .nil, .cons _ _ | _, _, .cons _ _, .nil =>
    simp [compareMembers, MembersAgree]
  | m :: _, n :: _, .cons a as, .cons b bs =>
    rw [compareMembers, MembersAgree, Ordering.then_eq_eq, Ordering.then_eq_eq,
      compare_eq_iff_agree a b,
      compareMembers_eq_iff_agree as bs, Std.LawfulEqOrd.compare_eq_iff_eq]

end

theorem same_iff_agree {a b : Value} : a.same b ↔ a.Agree Number.rounded b :=
  (same_iff a b).trans (compare_eq_iff_agree a b)

end Value
end RecordStore
