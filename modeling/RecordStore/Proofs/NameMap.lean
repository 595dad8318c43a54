import RecordStore.NameMap

namespace RecordStore.NameMap

variable {α : Type u} {β : Type v} {name : String} {value : α} {es : List (String × α)}

theorem lookup_cons (e : String × α) (es : List (String × α)) (name : String) :
    (e :: es).lookup name = if name = e.1 then some e.2 else es.lookup name := by
  obtain ⟨key, held⟩ := e
  by_cases eq : name = key
  case pos => simp [eq]
  case neg => simp [List.lookup_cons, beq_false_of_ne eq, eq]

theorem lookup_eq_none_of_lt (lt : ∀ e ∈ es, name < e.1) : es.lookup name = none := by
  refine List.lookup_eq_none_iff.mpr fun e mem => bne_iff_ne.mpr fun eq => ?_
  exact String.lt_irrefl e.1 (eq ▸ lt e mem)

theorem lookup_of_mem (distinct : (es.map (·.1)).Nodup) (mem : (name, value) ∈ es) :
    es.lookup name = some value := by
  induction es with
  | nil => simp at mem
  | cons hd tl ih =>
    have ⟨absent, tl_distinct⟩ := List.nodup_cons.mp distinct
    rw [lookup_cons]
    rcases List.mem_cons.mp mem with eq | mem
    case inl => simp [← eq]
    case inr =>
      have ne : name ≠ hd.1 := fun eq => absent <| List.mem_map.mpr ⟨_, mem, eq⟩
      rw [if_neg ne, ih tl_distinct mem]

theorem lookup_eq_some_iff (sorted : es.Pairwise (·.1 < ·.1)) :
    es.lookup name = some value ↔ (name, value) ∈ es := by
  constructor
  · intro found
    obtain ⟨before, after, eq, _⟩ := List.lookup_eq_some_iff.mp found
    simp [eq]
  · have distinct : (es.map (·.1)).Nodup :=
      List.pairwise_map.mpr <| sorted.imp fun lt => String.ne_of_lt lt
    exact lookup_of_mem distinct

-- The entries of a map are what it holds.
theorem get?_eq_some_iff {m : NameMap α} : m.get? name = some value ↔ (name, value) ∈ m.entries :=
  lookup_eq_some_iff m.sorted_entries

-- Both lists begin with their least name, which has to be the same one.
theorem eq_of_lookup_eq {es₁ es₂ : List (String × α)}
    (sorted₁ : es₁.Pairwise (·.1 < ·.1)) (sorted₂ : es₂.Pairwise (·.1 < ·.1))
    (h : ∀ name, es₁.lookup name = es₂.lookup name) : es₁ = es₂ := by
  induction es₁ generalizing es₂ with
  | nil =>
    cases es₂ with
    | nil => rfl
    | cons hd tl => simpa [lookup_cons] using h hd.1
  | cons hd₁ tl₁ ih =>
    cases es₂ with
    | nil => simpa [lookup_cons] using h hd₁.1
    | cons hd₂ tl₂ =>
      have ⟨hd₁_lt, tl₁_sorted⟩ := List.pairwise_cons.mp sorted₁
      have ⟨hd₂_lt, tl₂_sorted⟩ := List.pairwise_cons.mp sorted₂
      have mem₁ : hd₁ ∈ hd₂ :: tl₂ := by
        rw [← lookup_eq_some_iff sorted₂, ← h, lookup_cons, if_pos rfl]
      have mem₂ : hd₂ ∈ hd₁ :: tl₁ := by
        rw [← lookup_eq_some_iff sorted₁, h, lookup_cons, if_pos rfl]
      have eq : hd₁ = hd₂ := by
        rcases List.mem_cons.mp mem₁ with eq | mem₁
        · exact eq
        rcases List.mem_cons.mp mem₂ with eq | mem₂
        · exact eq.symm
        · exact absurd (hd₁_lt _ mem₂) (String.lt_asymm (hd₂_lt _ mem₁))
      subst eq
      congr 1
      refine ih tl₁_sorted tl₂_sorted fun name => ?_
      by_cases eq : name = hd₁.1
      case pos => rw [eq, lookup_eq_none_of_lt hd₁_lt, lookup_eq_none_of_lt hd₂_lt]
      case neg => simpa [lookup_cons, eq] using h name

theorem ext_get? {m₁ m₂ : NameMap α} (h : ∀ name, m₁.get? name = m₂.get? name) : m₁ = m₂ :=
  NameMap.ext <| eq_of_lookup_eq m₁.sorted_entries m₂.sorted_entries h

theorem get?_insert (m : NameMap α) (name : String) (value : α) (other : String) :
    (m.insert name value).get? other = if other = name then some value else m.get? other := by
  split
  case isTrue eq => rw [eq, get?_insert_self]
  case isFalse ne => exact get?_insert_of_ne ne m value

theorem get?_filter (m : NameMap α) (keep : String → α → Bool) (name : String) :
    (m.filter keep).get? name = (m.get? name).filter (keep name) := by
  ext value
  simp [get?_eq_some_iff, filter, Option.filter_eq_some_iff]

theorem get?_filter_names (m : NameMap α) (keep : String → Bool) (name : String) :
    (m.filter fun name _ => keep name).get? name = if keep name then m.get? name else none := by
  rw [get?_filter]
  cases m.get? name <;> simp [Option.filter]

theorem get?_erase (m : NameMap α) (name other : String) :
    (m.erase name).get? other = if other = name then none else m.get? other := by
  rw [erase, get?_filter]
  cases m.get? other <;> by_cases eq : other = name <;> simp [eq]

theorem insertAll_cons (m : NameMap α) (e : String × α) (es : List (String × α)) :
    m.insertAll (e :: es) = (m.insert e.1 e.2).insertAll es :=
  rfl

theorem get?_insertAll (m : NameMap α) (es : List (String × α)) (name : String) :
    (m.insertAll es).get? name = (es.reverse.lookup name).or (m.get? name) := by
  induction es generalizing m with
  | nil => simp [insertAll]
  | cons hd tl ih =>
    rw [insertAll_cons, ih, get?_insert, List.reverse_cons, List.lookup_append, Option.or_assoc]
    by_cases eq : name = hd.1 <;> simp [lookup_cons, eq]

-- Where a map has changed by insertions, it holds something that has been inserted.
theorem mem_of_get?_insertAll_ne {m : NameMap α}
    (changed : (m.insertAll es).get? name ≠ m.get? name) :
    ∃ value, (name, value) ∈ es ∧ (m.insertAll es).get? name = some value := by
  rw [get?_insertAll] at changed ⊢
  cases found : es.reverse.lookup name with
  | none => simp [found] at changed
  | some value =>
    have ⟨front, back, eq, _⟩ := List.lookup_eq_some_iff.mp found
    have mem : (name, value) ∈ es.reverse := by simp [eq]
    exact ⟨value, List.mem_reverse.mp mem, rfl⟩

theorem lookup_reverse (sorted : es.Pairwise (·.1 < ·.1)) (name : String) :
    es.reverse.lookup name = es.lookup name := by
  induction es with
  | nil => rfl
  | cons hd tl ih =>
    have ⟨hd_lt, tl_sorted⟩ := List.pairwise_cons.mp sorted
    rw [List.reverse_cons, List.lookup_append, ih tl_sorted, lookup_cons, lookup_cons]
    by_cases eq : name = hd.1
    case pos => simp [eq, lookup_eq_none_of_lt hd_lt]
    case neg => simp [eq]

-- Where both maps hold something, the patch decides.
theorem get?_override (m patch : NameMap α) (name : String) :
    (m.override patch).get? name = (patch.get? name).or (m.get? name) := by
  rw [override, get?_insertAll, lookup_reverse patch.sorted_entries]
  rfl

theorem get?_mapValues (m : NameMap α) (f : String → α → β) (name : String) :
    (m.mapValues f).get? name = (m.get? name).map (f name) := by
  ext value
  rw [Option.map_eq_some_iff, get?_eq_some_iff, entries_mapValues, List.mem_map]
  constructor
  · rintro ⟨e, mem, eq⟩
    cases eq
    exact ⟨e.2, get?_eq_some_iff.mpr mem, rfl⟩
  · rintro ⟨held, found, rfl⟩
    exact ⟨(name, held), get?_eq_some_iff.mp found, rfl⟩

theorem contains_of_get? {m : NameMap α} (held : m.get? name = some value) : m.contains name := by
  simp [contains, held]

theorem contains_insert (m : NameMap α) (name : String) (value : α) (other : String) :
    (m.insert name value).contains other ↔ other = name ∨ m.contains other := by
  rw [contains, get?_insert]
  split
  case isTrue eq => simp [eq]
  case isFalse ne => simp [ne, contains]

theorem contains_filter (m : NameMap α) (keep : String → Bool) (name : String) :
    (m.filter fun name _ => keep name).contains name ↔ m.contains name ∧ keep name := by
  rw [contains, contains, get?_filter]
  cases m.get? name <;> cases keep name <;> simp [Option.filter]

theorem contains_override (m patch : NameMap α) (name : String) :
    (m.override patch).contains name ↔ patch.contains name ∨ m.contains name := by
  simp [contains, get?_override]

theorem names_mapValues (m : NameMap α) (f : String → α → β) : (m.mapValues f).names = m.names := by
  rw [← entries_map_fst, entries_mapValues, List.map_map]
  exact m.entries_map_fst

-- The names of a map are determined by what it contains.
theorem names_eq_of_contains {m₁ : NameMap α} {m₂ : NameMap β}
    (h : ∀ name, m₁.contains name ↔ m₂.contains name) : m₁.names = m₂.names := by
  have same : m₁.mapValues (fun _ _ => ()) = m₂.mapValues (fun _ _ => ()) := by
    refine ext_get? fun name => ?_
    have := Bool.eq_iff_iff.mpr (h name)
    simp only [contains] at this
    rw [get?_mapValues, get?_mapValues]
    cases held₁ : m₁.get? name <;> cases held₂ : m₂.get? name <;> simp_all
  simpa only [names_mapValues] using congrArg names same

theorem isEmpty_iff_names {m : NameMap α} : m.isEmpty ↔ m.names = [] := by
  simp [isEmpty]

theorem insert_insert (m : NameMap α) (name : String) (value value' : α) :
    (m.insert name value).insert name value' = m.insert name value' := by
  refine ext_get? fun other => ?_
  simp only [get?_insert]
  split <;> rfl

theorem insert_of_get? {m : NameMap α} (held : m.get? name = some value) :
    m.insert name value = m := by
  refine ext_get? fun other => ?_
  rw [get?_insert]
  split
  case isTrue eq => rw [eq, held]
  case isFalse => rfl

theorem erase_of_not_contains {m : NameMap α} (absent : ¬m.contains name) : m.erase name = m := by
  refine ext_get? fun other => ?_
  rw [get?_erase]
  split
  case isTrue eq => rw [eq, Option.not_isSome_iff_eq_none.mp absent]
  case isFalse => rfl

theorem entries_eq_nil_of_isEmpty {m : NameMap α} (h : m.isEmpty) : m.entries = [] :=
  List.map_eq_nil_iff.mp (m.entries_map_fst.trans (isEmpty_iff_names.mp h))

theorem override_empty (m : NameMap α) {patch : NameMap α} (h : patch.isEmpty) :
    m.override patch = m := by
  rw [override, entries_eq_nil_of_isEmpty h]
  rfl

-- Patches that have no name in common can be applied in any order.
theorem override_comm {a b : NameMap α} (m : NameMap α)
    (disjoint : ∀ name, a.get? name = none ∨ b.get? name = none) :
    (m.override a).override b = (m.override b).override a := by
  refine ext_get? fun name => ?_
  simp only [get?_override]
  rcases disjoint name with absent | absent <;> simp [absent]

-- Of several patches that are applied one after the other, the last to have a
-- name decides about it.
theorem get?_foldl_override (m : NameMap α) (patches : List (NameMap α)) (name : String) :
    (patches.foldl override m).get? name =
      (patches.reverse.findSome? (·.get? name)).or (m.get? name) := by
  induction patches generalizing m with
  | nil => rfl
  | cons patch patches ih =>
    rw [List.foldl_cons, ih, get?_override, List.reverse_cons, List.findSome?_append,
      Option.or_assoc]
    cases held : patch.get? name <;> simp [held]

@[simp]
theorem ofList_entries (m : NameMap α) : ofList m.entries = m := by
  refine ext_get? fun name => ?_
  rw [ofList, get?_insertAll, lookup_reverse m.sorted_entries, get?_empty, Option.or_none]
  rfl

theorem mem_names_iff {m : NameMap α} : name ∈ m.names ↔ m.contains name := by
  rw [contains, Option.isSome_iff_exists, ← entries_map_fst, List.mem_map]
  constructor
  · rintro ⟨e, mem, rfl⟩
    exact ⟨e.2, get?_eq_some_iff.mpr mem⟩
  · rintro ⟨value, held⟩
    exact ⟨(name, value), get?_eq_some_iff.mp held, rfl⟩

theorem nodup_names (m : NameMap α) : m.names.Nodup :=
  m.sorted.imp fun lt => String.ne_of_lt lt

-- A map has as many entries as it has names.
theorem size_eq_length {m : NameMap α} {names : List String} (distinct : names.Nodup)
    (h : ∀ name, name ∈ names ↔ name ∈ m.names) : m.size = names.length := by
  have perm := (List.perm_ext_iff_of_nodup distinct m.nodup_names).mpr h
  rw [perm.length_eq, size]

theorem contains_insertAll (m : NameMap α) (es : List (String × α)) (name : String) :
    (m.insertAll es).contains name ↔ name ∈ es.map (·.1) ∨ m.contains name := by
  induction es generalizing m with
  | nil => simp [insertAll]
  | cons e es ih =>
    rw [insertAll_cons, ih, contains_insert, List.map_cons, List.mem_cons, or_left_comm, or_assoc]

theorem mem_names_ofList : name ∈ (ofList es).names ↔ name ∈ es.map (·.1) := by
  rw [mem_names_iff, ofList, contains_insertAll, or_iff_left]
  exact Bool.false_ne_true

-- A map of pairwise different names holds all that it is listed with.
theorem get?_ofList_of_mem (distinct : (es.map (·.1)).Nodup) (mem : (name, value) ∈ es) :
    (ofList es).get? name = some value := by
  have distinct_reverse : (es.reverse.map (·.1)).Nodup := by
    rw [List.map_reverse]
    exact (List.reverse_perm _).nodup_iff.mpr distinct
  rw [ofList, get?_insertAll, get?_empty, Option.or_none]
  exact lookup_of_mem distinct_reverse (List.mem_reverse.mpr mem)

end RecordStore.NameMap
