import RecordStore.Proofs.Query.Recovery

-- What is marked in the text of a query: parameters by an `@` in front of them, and
-- attributes by a dot.

namespace RecordStore

theorem Name.IsWord.notMem {word : List Char} {c : Char} (isWord : Name.IsWord word)
    (not_word : ¬Name.isWord c) : c ∉ word :=
  fun mem => not_word (isWord c mem)

-- A word goes on up to the end of the text, or no further than to where no word goes on.
theorem takeWhile_append_of_stops {rest : List Char} (stops : Stops rest) (cs : List Char) :
    (cs ++ rest).takeWhile Name.isWord = cs.takeWhile Name.isWord := by
  induction cs with
  | nil =>
    cases rest with
    | nil => rfl
    | cons c rest =>
      rw [List.nil_append, List.takeWhile_cons_of_neg (stops_cons.mp stops), List.takeWhile_nil]
  | cons c cs ih =>
    rw [List.cons_append, List.takeWhile_cons, List.takeWhile_cons]
    split
    case isTrue => rw [ih]
    case isFalse => rfl

namespace Query

-- The words that have a mark in front of them. If the mark is doubled, its second half is
-- part of the word.
def marked (mark : Char) : List Char → List (List Char)
  | [] => []
  | [c] => if c = mark then [[]] else []
  | c :: d :: cs =>
    if c = mark then
      if d = mark then (d :: cs.takeWhile Name.isWord) :: marked mark cs
      else (d :: cs).takeWhile Name.isWord :: marked mark (d :: cs)
    else marked mark (d :: cs)

-- A text in which these words are marked, whatever follows it.
structure Marks (mark : Char) (cs : List Char) (words : List (List Char)) : Prop where
  marked_eq : marked mark cs = words
  complete : cs.getLast? ≠ some mark

variable {mark : Char} {cs cs₁ cs₂ word sep : List Char} {words words₁ words₂ : List (List Char)}

theorem marked_cons_of_ne {c : Char} (ne : c ≠ mark) (cs : List Char) :
    marked mark (c :: cs) = marked mark cs := by
  cases cs with
  | nil => simp [marked, ne]
  | cons d cs => simp [marked, ne]

theorem marked_append_of_notMem (absent : mark ∉ cs) (rest : List Char) :
    marked mark (cs ++ rest) = marked mark rest := by
  induction cs with
  | nil => rfl
  | cons c cs ih =>
    rw [List.mem_cons, not_or] at absent
    rw [List.cons_append, marked_cons_of_ne (Ne.symm absent.1), ih absent.2]

theorem complete_of_cons {c : Char} (complete : (c :: cs).getLast? ≠ some mark) :
    cs.getLast? ≠ some mark := by
  cases cs with
  | nil => exact nofun
  | cons d cs => rwa [List.getLast?_cons_cons] at complete

theorem marked_append (complete : cs₁.getLast? ≠ some mark) (stops : Stops cs₂) :
    marked mark (cs₁ ++ cs₂) = marked mark cs₁ ++ marked mark cs₂ := by
  fun_induction marked mark cs₁ with
  | case1 => rfl
  | case2 => exact absurd rfl complete
  | case3 c ne => exact marked_cons_of_ne ne cs₂
  | case4 cs ih =>
    have ih := ih (complete_of_cons (complete_of_cons complete))
    simp [marked, takeWhile_append_of_stops stops, ih]
  | case5 d cs ne ih =>
    have ih := ih (complete_of_cons complete)
    have run := takeWhile_append_of_stops stops (d :: cs)
    rw [List.cons_append] at ih run
    simp [marked, ne, run, ih]
  | case6 c d cs ne ih =>
    rw [List.cons_append, marked_cons_of_ne ne]
    exact ih (complete_of_cons complete)

namespace Marks

theorem of_notMem (absent : mark ∉ cs) : Marks mark cs [] where
  marked_eq := by simpa [marked] using marked_append_of_notMem absent []
  complete last := absent (List.mem_of_getLast? last)

theorem complete_append (complete₁ : cs₁.getLast? ≠ some mark)
    (complete₂ : cs₂.getLast? ≠ some mark) :
    (cs₁ ++ cs₂).getLast? ≠ some mark := by
  rw [List.getLast?_append]
  intro last
  cases Option.or_eq_some_iff.mp last with
  | inl last₂ => exact complete₂ last₂
  | inr last₁ => exact complete₁ last₁.2

theorem append (marks₁ : Marks mark cs₁ words₁) (marks₂ : Marks mark cs₂ words₂)
    (stops : Stops cs₂) :
    Marks mark (cs₁ ++ cs₂) (words₁ ++ words₂) where
  marked_eq := by rw [marked_append marks₁.complete stops, marks₁.marked_eq, marks₂.marked_eq]
  complete := complete_append marks₁.complete marks₂.complete

-- A word may go on after what has no mark in it.
theorem prepend (absent : mark ∉ cs₁) (marks : Marks mark cs₂ words) :
    Marks mark (cs₁ ++ cs₂) words where
  marked_eq := by rw [marked_append_of_notMem absent, marks.marked_eq]
  complete := complete_append (of_notMem absent).complete marks.complete

theorem single (not_word : ¬Name.isWord mark) (isWord : Name.IsWord word) (nonempty : word ≠ []) :
    Marks mark (mark :: word) [word] := by
  have unmarked := of_notMem (isWord.notMem not_word)
  have ⟨c, cs, eq⟩ := List.exists_cons_of_ne_nil nonempty
  have ne : c ≠ mark := fun is_mark => not_word (is_mark ▸ isWord c (by simp [eq]))
  have whole : word.takeWhile Name.isWord = word := List.takeWhile_eq_self_iff.mpr isWord
  rw [eq] at unmarked whole ⊢
  refine ⟨?_, by simpa using unmarked.complete⟩
  simp [marked, ne, whole, unmarked.marked_eq]

variable {α : Type} {item : α → List Char} {shown : α → List (List Char)} {as : List α}

theorem stops_flatMap (stops : ∀ cs, Stops (sep ++ cs)) (item : α → List Char) (as : List α) :
    Stops (as.flatMap fun a => sep ++ item a) := by
  cases as with
  | nil => exact nofun
  | cons a as => rw [List.flatMap_cons, List.append_assoc]; exact stops _

theorem flatMap (absent : mark ∉ sep) (stops : ∀ cs, Stops (sep ++ cs))
    (marks : ∀ a ∈ as, Marks mark (item a) (shown a)) :
    Marks mark (as.flatMap fun a => sep ++ item a) (as.flatMap shown) := by
  induction as with
  | nil => exact of_notMem List.not_mem_nil
  | cons a as ih =>
    have ⟨first, others⟩ := List.forall_mem_cons.mp marks
    exact (prepend absent first).append (ih others) (stops_flatMap stops item as)

-- Where a separator ends words, nothing else is marked than in the items.
theorem intercalate (absent : mark ∉ sep) (stops : ∀ cs, Stops (sep ++ cs))
    (marks : ∀ a ∈ as, Marks mark (item a) (shown a)) :
    Marks mark (sep.intercalate (as.map item)) (as.flatMap shown) := by
  cases as with
  | nil => exact of_notMem List.not_mem_nil
  | cons a as =>
    have ⟨first, others⟩ := List.forall_mem_cons.mp marks
    rw [List.map_cons, intercalate_cons, List.flatMap_map]
    exact first.append (flatMap absent stops others) (stops_flatMap stops item as)

-- A single word is marked.
theorem between {before after : List Char} (not_word : ¬Name.isWord mark)
    (before_absent : mark ∉ before) (after_absent : mark ∉ after) (stops : Stops after)
    (isWord : Name.IsWord word) (nonempty : word ≠ []) :
    Marks mark (before ++ (mark :: word ++ after)) [word] :=
  prepend before_absent ((single not_word isWord nonempty).append (of_notMem after_absent) stops)

end Marks

end Query

-- What filters have in common with each other that name a field, and a parameter made of its name.
theorem Plan.StandsFor.named {plan : Plan} {question : Question}
    (stands : plan.StandsFor question) :
    ∀ f ∈ plan.filters, Name.IsField f.field ∧ ∃ i, f.bind = Filter.bindName f.field i := by
  rw [stands.filters]
  intro f mem
  have ⟨i, lt, eq⟩ := List.mem_mapIdx.mp mem
  exact eq ▸ ⟨stands.isField _ (List.getElem_mem lt), i, rfl⟩

theorem Filter.bindName_ne (field : String) (i : Nat) : (bindName field i).toList ≠ [] := by
  simp [bindName_toList]

theorem Operator.no_dot (operator : Operator) : '.' ∉ operator.text.toList := by
  cases operator <;> decide

namespace Query

variable {plan : Plan} {question : Question} {f : Filter} {key : SortKey}

namespace Marks

variable {field operator bind : List Char}

-- Whichever form a filter has, it marks one parameter and one attribute.
theorem form_parameter (form : Filter.Form) (in_field : '@' ∉ field) (in_operator : '@' ∉ operator)
    (isWord : Name.IsWord bind) (nonempty : bind ≠ []) :
    Marks '@' (form.text field operator bind) [bind] := by
  cases form with
  | plain =>
    have text : Filter.Form.plain.text field operator bind =
        ("doc.".toList ++ field ++ ' ' :: operator ++ [' ']) ++ ('@' :: bind ++ []) := by
      simp [Filter.Form.text_plain]
    rw [text]
    exact between (by decide) (by simp [in_field, in_operator]) (by simp)
      (by simp [Stops]) isWord nonempty
  | reversed =>
    have text : Filter.Form.reversed.text field operator bind =
        [] ++ ('@' :: bind ++ ' ' :: (operator ++ " doc.".toList ++ field)) := by
      simp [Filter.Form.text_reversed]
    rw [text]
    exact between (by decide) (by simp) (by simp [in_field, in_operator])
      (by simp [Name.isWord]) isWord
      nonempty
  | test negated ignoreCase =>
    have text : (Filter.Form.test negated ignoreCase).text field operator bind =
        ((if negated then ['!'] else []) ++ "REGEX_TEST(doc.".toList ++ field ++ ", ".toList) ++
          ('@' :: bind ++ (", ".toList ++ (if ignoreCase then "true" else "false").toList ++
            [')'])) := by
      simp [Filter.Form.text_test]
    rw [text]
    refine between (by decide) ?_ ?_ (by simp [Name.isWord]) isWord nonempty
    · cases negated <;> simp [in_field]
    · cases ignoreCase <;> decide

theorem form_attribute (form : Filter.Form) (in_bind : '.' ∉ bind) (in_operator : '.' ∉ operator)
    (isWord : Name.IsWord field) (nonempty : field ≠ []) :
    Marks '.' (form.text field operator bind) [field] := by
  cases form with
  | plain =>
    have text : Filter.Form.plain.text field operator bind =
        "doc".toList ++ ('.' :: field ++ ' ' :: (operator ++ " @".toList ++ bind)) := by
      simp [Filter.Form.text_plain]
    rw [text]
    exact between (by decide) (by decide) (by simp [in_bind, in_operator])
      (by simp [Name.isWord]) isWord
      nonempty
  | reversed =>
    have text : Filter.Form.reversed.text field operator bind =
        ('@' :: bind ++ ' ' :: operator ++ " doc".toList) ++ ('.' :: field ++ []) := by
      simp [Filter.Form.text_reversed]
    rw [text]
    exact between (by decide) (by simp [in_bind, in_operator]) (by simp)
      (by simp [Stops]) isWord nonempty
  | test negated ignoreCase =>
    have text : (Filter.Form.test negated ignoreCase).text field operator bind =
        ((if negated then ['!'] else []) ++ "REGEX_TEST(doc".toList) ++
          ('.' :: field ++ (", @".toList ++ bind ++ ", ".toList ++
            (if ignoreCase then "true" else "false").toList ++ [')'])) := by
      simp [Filter.Form.text_test]
    rw [text]
    refine between (by decide) ?_ ?_ (by simp [Name.isWord]) isWord nonempty
    · cases negated <;> decide
    · cases ignoreCase <;> simp [in_bind]

end Marks

theorem marks_filterText {i : Nat} (isField : Name.IsField f.field)
    (bound : f.bind = Filter.bindName f.field i) :
    Marks '@' (filterText f).toList [f.bind.toList] ∧
    Marks '.' (filterText f).toList [f.field.toList] := by
  have field_word := isField.2
  have bind_word : Name.IsWord f.bind.toList := bound ▸ Filter.isWord_bindName isField.2 i
  have bind_ne : f.bind.toList ≠ [] := bound ▸ Filter.bindName_ne f.field i
  rw [Filter.filterText_toList]
  exact ⟨.form_parameter f.form
    (field_word.notMem (by decide)) f.operator.isOperatorText.no_at bind_word bind_ne,
    .form_attribute f.form (bind_word.notMem (by decide)) f.operator.no_dot field_word isField.1⟩

theorem marks_sortText (isField : Name.IsField key.field) :
    Marks '@' (sortText key).toList [] ∧ Marks '.' (sortText key).toList [key.field.toList] := by
  have no_at := isField.2.notMem (c := '@') (by decide)
  have text : (sortText key).toList =
      "doc".toList ++ ('.' :: key.field.toList ++ ' ' :: key.direction.keyword.toList) := by
    simp [sortText]
  constructor
  · refine .of_notMem ?_
    rw [text]
    cases key.direction <;> simp [no_at, Direction.keyword]
  · rw [text]
    refine .between (by decide) (by decide) ?_ (by simp [Name.isWord]) isField.2 isField.1
    cases key.direction <;> decide

-- Nothing else than a parameter or an attribute has a mark.
theorem notMem_of_isMark {mark : Char} {cs : List Char} (isMark : mark = '@' ∨ mark = '.')
    (absent : '@' ∉ cs ∧ '.' ∉ cs) : mark ∉ cs := by
  rcases isMark with rfl | rfl
  · exact absent.1
  · exact absent.2

section

variable {mark : Char} {shown : Filter → List (List Char)} {shownKey : SortKey → List (List Char)}
  (isMark : mark = '@' ∨ mark = '.')

include isMark

theorem marks_filtersText
    (filters : ∀ f ∈ plan.filters, Marks mark (filterText f).toList (shown f)) :
    Marks mark (filtersText plan).toList (plan.filters.flatMap shown) := by
  have text : (filtersText plan).toList = (" " ++ plan.connective.keyword ++ " ").toList.intercalate
      (plan.filters.map fun f => (filterText f).toList) := by
    simp [filtersText, Function.comp_def]
  rw [text]
  refine .intercalate (notMem_of_isMark isMark ?_) (fun cs => ?_) filters
  · cases plan.connective <;> decide
  · simp [Name.isWord]

theorem marks_lastLines (window : Option Window) : Marks mark (lastLines window) [] := by
  refine .of_notMem ?_
  cases window with
  | none => exact notMem_of_isMark isMark (by decide)
  | some w =>
    have no_at (n : Nat) := (isWord_toDigits n).notMem (c := '@') (by decide)
    have no_dot (n : Nat) := (isWord_toDigits n).notMem (c := '.') (by decide)
    refine notMem_of_isMark isMark ⟨?_, ?_⟩
    · simp [lastLines_some, limitText, no_at]
    · simp [lastLines_some, limitText, no_dot]

theorem marks_sortLines
    (keys : ∀ key ∈ plan.sorts, Marks mark (sortText key).toList (shownKey key)) :
    Marks mark (sortLines plan.sorts (lastLines plan.window)) (plan.sorts.flatMap shownKey) := by
  have last := marks_lastLines isMark plan.window
  cases sorts : plan.sorts with
  | nil => exact last
  | cons key others =>
    rw [sorts] at keys
    have text : sortLines (key :: others) (lastLines plan.window) = "  SORT ".toList ++
        (", ".toList.intercalate ((key :: others).map fun key => (sortText key).toList) ++
          '\n' :: lastLines plan.window) := by
      simp [sortLines_cons, joined, intercalate_cons, List.flatMap_map]
    have comma : mark ∉ ", ".toList := notMem_of_isMark isMark (by decide)
    have newline : mark ∉ ['\n'] := notMem_of_isMark isMark (by decide)
    have sort : mark ∉ "  SORT ".toList := notMem_of_isMark isMark (by decide)
    have listed := Marks.intercalate comma (fun _ => by simp [Name.isWord]) keys
    have whole := (listed.append (last.prepend newline) (by simp [Name.isWord])).prepend sort
    rw [text]
    rwa [List.append_nil] at whole

-- All that is marked in the text of a query that finds documents.
theorem marks_find {header : List (List Char)} (collection : String)
    (marks_header : Marks mark "FOR doc IN @@collection".toList header)
    (filters : ∀ f ∈ plan.filters, Marks mark (filterText f).toList (shown f))
    (keys : ∀ key ∈ plan.sorts, Marks mark (sortText key).toList (shownKey key)) :
    Marks mark (find collection plan).text.toList
      (header ++ (plan.filters.flatMap shown ++ plan.sorts.flatMap shownKey)) := by
  have text : (find collection plan).text.toList = "FOR doc IN @@collection".toList ++
      ("\n  FILTER ".toList ++
        ((filtersText plan).toList ++ '\n' :: sortLines plan.sorts (lastLines plan.window))) := by
    simp [find_text_toList]
  rw [text]
  have newline : mark ∉ ['\n'] := notMem_of_isMark isMark (by decide)
  have lines := (marks_sortLines isMark keys).prepend newline
  have body := (marks_filtersText isMark filters).append lines (by simp [Name.isWord])
  exact marks_header.append (body.prepend (notMem_of_isMark isMark (by decide)))
    (by simp [Name.isWord])

end

end Query
end RecordStore
