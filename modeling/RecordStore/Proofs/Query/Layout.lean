import RecordStore.Proofs.Plan.Binding
import RecordStore.Query

-- How the texts of queries are laid out, and why nothing in them can be taken for something else.
--
-- Texts are read from the left. Each part ends where something follows that cannot be part of it.

namespace RecordStore

-- Here no word goes on.
def Stops (cs : List Char) : Prop := ∀ c ∈ cs.head?, ¬Name.isWord c

@[simp]
theorem stops_cons {c : Char} {cs : List Char} : Stops (c :: cs) ↔ ¬Name.isWord c := by
  simp [Stops]

theorem Name.IsWord.append_inj {word₁ word₂ rest₁ rest₂ : List Char} (isWord₁ : Name.IsWord word₁)
    (isWord₂ : Name.IsWord word₂) (stops₁ : Stops rest₁) (stops₂ : Stops rest₂)
    (h : word₁ ++ rest₁ = word₂ ++ rest₂) : word₁ = word₂ ∧ rest₁ = rest₂ :=
  span_inj isWord₁ isWord₂ stops₁ stops₂ h

-- Decimal numbers end where no digit follows.
theorem toString_append_inj {m n : Nat} {c₁ c₂ : Char} {rest₁ rest₂ : List Char}
    (stop₁ : ¬c₁.isDigit) (stop₂ : ¬c₂.isDigit)
    (h : (toString m).toList ++ c₁ :: rest₁ = (toString n).toList ++ c₂ :: rest₂) :
    m = n ∧ c₁ :: rest₁ = c₂ :: rest₂ := by
  have digits (k : Nat) : ∀ c ∈ (toString k).toList, c.isDigit := by
    rw [toString_toList]
    exact fun c mem => Nat.isDigit_of_mem_toDigits (by decide) (by decide) mem
  have ⟨eq, rest_eq⟩ := span_inj (digits m) (digits n) (by simpa using stop₁)
    (by simpa using stop₂) h
  exact ⟨toString_inj eq, rest_eq⟩

section Joined

variable {α : Type} {item : α → List Char} {R : α → α → Prop} {a b : α} {as bs : List α} {s : Char}
  {sep₁ sep₂ rest₁ rest₂ : List Char}

-- Items, each of them with a separator in front, and the end of the line.
def joined (item : α → List Char) (s : Char) (sep : List Char) (as : List α) (rest : List Char) :
    List Char :=
  as.flatMap (fun a => s :: (sep ++ item a)) ++ '\n' :: rest

theorem stops_joined (stop : ¬Name.isWord s) : Stops (joined item s sep₁ as rest₁) := by
  cases as with
  | nil => simp [joined, Name.isWord]
  | cons a as => simpa [joined] using stop

-- Lists can be told apart if their items can, and if the line does not end with a separator. Where
-- there are items, the separators are the same.
theorem joined_inj (ne : s ≠ '\n') (stop : ¬Name.isWord s)
    (seps : ∀ xs ys, sep₁ ++ xs = sep₂ ++ ys → sep₁ = sep₂)
    (items : ∀ a ∈ as, ∀ b ∈ bs, ∀ xs ys, Stops xs → Stops ys →
      item a ++ xs = item b ++ ys → R a b ∧ xs = ys)
    (h : joined item s sep₁ as rest₁ = joined item s sep₂ bs rest₂) :
    List.Forall₂ R as bs ∧ (as ≠ [] → sep₁ = sep₂) ∧ rest₁ = rest₂ := by
  induction as generalizing bs with
  | nil =>
    cases bs with
    | nil => exact ⟨.nil, fun h => absurd rfl h, (List.cons.inj h).2⟩
    | cons b bs => exact absurd (List.cons.inj h).1.symm ne
  | cons a as ih =>
    cases bs with
    | nil => exact absurd (List.cons.inj h).1 ne
    | cons b bs =>
      simp only [joined, List.flatMap_cons, List.cons_append, List.append_assoc, List.cons.injEq,
        true_and] at h
      have sep_eq := seps _ _ h
      rw [sep_eq, List.append_cancel_left_eq] at h
      have ⟨related, h⟩ := items a List.mem_cons_self b List.mem_cons_self _ _
        (stops_joined stop) (stops_joined stop) h
      have rest_items : ∀ a ∈ as, ∀ b ∈ bs, ∀ xs ys, Stops xs → Stops ys →
          item a ++ xs = item b ++ ys → R a b ∧ xs = ys :=
        fun a mem b mem' => items a (.tail _ mem) b (.tail _ mem')
      have ⟨rest_related, _, rest_eq⟩ := ih rest_items (sep_eq ▸ h)
      exact ⟨.cons related rest_related, fun _ => sep_eq, rest_eq⟩

-- The first item has no separator in front.
theorem append_joined_inj (ne : s ≠ '\n') (stop : ¬Name.isWord s)
    (seps : ∀ xs ys, sep₁ ++ xs = sep₂ ++ ys → sep₁ = sep₂)
    (items : ∀ a' ∈ a :: as, ∀ b' ∈ b :: bs, ∀ xs ys, Stops xs → Stops ys →
      item a' ++ xs = item b' ++ ys → R a' b' ∧ xs = ys)
    (h : item a ++ joined item s sep₁ as rest₁ = item b ++ joined item s sep₂ bs rest₂) :
    List.Forall₂ R (a :: as) (b :: bs) ∧ (as ≠ [] → sep₁ = sep₂) ∧ rest₁ = rest₂ := by
  have ⟨related, h⟩ := items a List.mem_cons_self b List.mem_cons_self _ _
    (stops_joined stop) (stops_joined stop) h
  have ⟨rest_related, sep_eq, rest_eq⟩ := joined_inj ne stop seps
    (fun a mem b mem' => items a (.tail _ mem) b (.tail _ mem')) h
  exact ⟨.cons related rest_related, sep_eq, rest_eq⟩

end Joined

-- Operators end where a variable or a field begins.
structure IsOperatorText (operator : List Char) : Prop where
  no_at : '@' ∉ operator
  no_d : 'd' ∉ operator

theorem Operator.isOperatorText (operator : Operator) : IsOperatorText operator.text.toList := by
  cases operator <;> constructor <;> decide

theorem operator_append_inj {stop : Char} {operator₁ operator₂ rest₁ rest₂ : List Char}
    (ne : ' ' ≠ stop) (absent₁ : stop ∉ operator₁) (absent₂ : stop ∉ operator₂)
    (h : operator₁ ++ ' ' :: stop :: rest₁ = operator₂ ++ ' ' :: stop :: rest₂) :
    operator₁ = operator₂ ∧ rest₁ = rest₂ := by
  have before {operator : List Char} (absent : stop ∉ operator) :
      ∀ c ∈ operator ++ [' '], (c != stop) := by
    intro c mem
    rcases List.mem_append.mp mem with mem | mem
    · exact bne_iff_ne.mpr fun eq => absent (eq ▸ mem)
    · exact bne_iff_ne.mpr fun eq => ne (List.mem_singleton.mp mem ▸ eq)
  have h : (operator₁ ++ [' ']) ++ stop :: rest₁ = (operator₂ ++ [' ']) ++ stop :: rest₂ := by
    simpa using h
  have ⟨eq, rest_eq⟩ := span_inj (before absent₁) (before absent₂) (by simp) (by simp) h
  exact ⟨List.append_cancel_right eq, (List.cons.inj rest_eq).2⟩

-- The forms in which a filter can be written.
inductive Filter.Form where
  | plain
  | reversed
  | test (negated ignoreCase : Bool)

namespace Filter.Form

def text (field operator bind : List Char) : Form → List Char
  | plain => "doc.".toList ++ field ++ ' ' :: operator ++ " @".toList ++ bind
  | reversed => '@' :: bind ++ ' ' :: operator ++ " doc.".toList ++ field
  | test negated ignoreCase =>
    (if negated then ['!'] else []) ++ "REGEX_TEST(doc.".toList ++ field ++ ", @".toList ++ bind ++
      ", ".toList ++ (if ignoreCase then "true" else "false").toList ++ [')']

-- Whether the operator is written out.
def ShowsOperator : Form → Prop
  | plain | reversed => True
  | test .. => False

variable {field field₁ field₂ operator operator₁ operator₂ bind bind₁ bind₂ rest₁ rest₂ : List Char}

theorem text_plain : plain.text field operator bind =
    "doc.".toList ++ field ++ ' ' :: operator ++ " @".toList ++ bind :=
  rfl

theorem text_reversed : reversed.text field operator bind =
    '@' :: bind ++ ' ' :: operator ++ " doc.".toList ++ field :=
  rfl

theorem text_test {negated ignoreCase : Bool} : (test negated ignoreCase).text field operator bind =
    (if negated then ['!'] else []) ++ "REGEX_TEST(doc.".toList ++ field ++ ", @".toList ++ bind ++
      ", ".toList ++ (if ignoreCase then "true" else "false").toList ++ [')'] :=
  rfl

theorem text_inj {form₁ form₂ : Form}
    (field_word₁ : Name.IsWord field₁) (field_word₂ : Name.IsWord field₂)
    (bind_word₁ : Name.IsWord bind₁) (bind_word₂ : Name.IsWord bind₂)
    (operator_text₁ : IsOperatorText operator₁) (operator_text₂ : IsOperatorText operator₂)
    (stops₁ : Stops rest₁) (stops₂ : Stops rest₂)
    (h : form₁.text field₁ operator₁ bind₁ ++ rest₁ =
      form₂.text field₂ operator₂ bind₂ ++ rest₂) :
    form₁ = form₂ ∧ field₁ = field₂ ∧ bind₁ = bind₂ ∧
      (form₁.ShowsOperator → operator₁ = operator₂) ∧ rest₁ = rest₂ := by
  -- Different forms begin with different characters.
  cases form₁ with
  | plain =>
    cases form₂ with
    | plain =>
      simp only [text_plain, List.append_assoc, List.cons_append, List.append_cancel_left_eq] at h
      obtain ⟨field_eq, h⟩ := field_word₁.append_inj field_word₂ (by simp [Name.isWord])
        (by simp [Name.isWord]) h
      obtain ⟨operator_eq, h⟩ := operator_append_inj (by decide) operator_text₁.no_at
        operator_text₂.no_at (List.cons.inj h).2
      obtain ⟨bind_eq, rest_eq⟩ := bind_word₁.append_inj bind_word₂ stops₁ stops₂ h
      exact ⟨rfl, field_eq, bind_eq, fun _ => operator_eq, rest_eq⟩
    | reversed => simp [text_plain, text_reversed] at h
    | test negated _ => cases negated <;> simp [text_plain, text_test] at h
  | reversed =>
    cases form₂ with
    | plain => simp [text_plain, text_reversed] at h
    | reversed =>
      simp only [text_reversed, List.append_assoc, List.cons_append, List.cons.injEq,
        true_and] at h
      obtain ⟨bind_eq, h⟩ := bind_word₁.append_inj bind_word₂ (by simp [Name.isWord])
        (by simp [Name.isWord]) h
      obtain ⟨operator_eq, h⟩ := operator_append_inj (by decide) operator_text₁.no_d
        operator_text₂.no_d (List.cons.inj h).2
      obtain ⟨field_eq, rest_eq⟩ := field_word₁.append_inj field_word₂ stops₁ stops₂
        (by simpa using h)
      exact ⟨rfl, field_eq, bind_eq, fun _ => operator_eq, rest_eq⟩
    | test negated _ => cases negated <;> simp [text_reversed, text_test] at h
  | test negated₁ ignoreCase₁ =>
    cases form₂ with
    | plain => cases negated₁ <;> simp [text_plain, text_test] at h
    | reversed => cases negated₁ <;> simp [text_reversed, text_test] at h
    | test negated₂ ignoreCase₂ =>
      have eq : negated₁ = negated₂ := by
        cases negated₁ <;> cases negated₂ <;> simp [text_test] at h ⊢
      subst eq
      simp only [text_test, List.append_assoc, List.append_cancel_left_eq] at h
      obtain ⟨field_eq, h⟩ := field_word₁.append_inj field_word₂ (by simp [Name.isWord])
        (by simp [Name.isWord]) h
      obtain ⟨bind_eq, h⟩ := bind_word₁.append_inj bind_word₂ (by simp [Name.isWord])
        (by simp [Name.isWord]) (List.append_cancel_left h)
      cases ignoreCase₁ <;> cases ignoreCase₂ <;> simp at h
      all_goals exact ⟨rfl, field_eq, bind_eq, False.elim, h⟩

end Filter.Form
end RecordStore
