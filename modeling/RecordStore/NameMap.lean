-- Finite maps from names to values, listed in ascending order of their names.
--
-- Names are ordered by their code points, which is also the order of their UTF-8 bytes.

namespace RecordStore

-- One value for each of the names, in the same order.
inductive Values (α : Type u) : List String → Type u where
  | nil : Values α []
  | cons {name : String} {names : List String} (value : α) (rest : Values α names) :
    Values α (name :: names)

namespace Values

variable {α : Type u} {names : List String}

def entries : {names : List String} → Values α names → List (String × α)
  | _, .nil => []
  | name :: _, .cons value rest => (name, value) :: rest.entries

def ofEntries : (es : List (String × α)) → Values α (es.map (·.1))
  | [] => .nil
  | e :: es => .cons e.2 (ofEntries es)

@[simp]
theorem entries_ofEntries (es : List (String × α)) : (ofEntries es).entries = es := by
  induction es with
  | nil => rfl
  | cons e es ih => exact congrArg (e :: ·) ih

@[simp]
theorem map_fst_entries (vs : Values α names) : vs.entries.map (·.1) = names := by
  induction vs with
  | nil => rfl
  | cons value rest ih => rw [entries, List.map_cons, ih]

theorem ext_entries {vs ws : Values α names} (h : vs.entries = ws.entries) : vs = ws := by
  induction vs with
  | nil => cases ws; rfl
  | cons value rest ih =>
    cases ws with
    | cons value' rest' =>
      obtain ⟨eq, rest_eq⟩ := List.cons.inj h
      rw [(Prod.mk.inj eq).2, ih rest_eq]

end Values

-- What is said of the names does not mention the values, so that a value may itself be
-- a map of values.
structure NameMap (α : Type u) where
  names : List String
  sorted : names.Pairwise (· < ·)
  values : Values α names

namespace NameMap

variable {α : Type u} {β : Type v}

def entries (m : NameMap α) : List (String × α) := m.values.entries

theorem entries_map_fst (m : NameMap α) : m.entries.map (·.1) = m.names := m.values.map_fst_entries

theorem sorted_entries (m : NameMap α) : m.entries.Pairwise (·.1 < ·.1) :=
  List.pairwise_map.mp (m.entries_map_fst ▸ m.sorted)

def ofEntries (es : List (String × α)) (sorted : es.Pairwise (·.1 < ·.1)) : NameMap α where
  names := es.map (·.1)
  sorted := List.pairwise_map.mpr sorted
  values := .ofEntries es

@[simp]
theorem entries_ofEntries (es : List (String × α)) (sorted : es.Pairwise (·.1 < ·.1)) :
    (ofEntries es sorted).entries = es :=
  Values.entries_ofEntries es

@[ext]
theorem ext {m₁ m₂ : NameMap α} (h : m₁.entries = m₂.entries) : m₁ = m₂ := by
  have names_eq : m₁.names = m₂.names := by rw [← entries_map_fst, h, entries_map_fst]
  obtain ⟨names, _, values⟩ := m₁
  obtain ⟨names', _, values'⟩ := m₂
  cases names_eq
  cases Values.ext_entries h
  rfl

instance [DecidableEq α] : DecidableEq (NameMap α) := fun m₁ m₂ =>
  decidable_of_iff (m₁.entries = m₂.entries) ⟨ext, congrArg entries⟩

def empty : NameMap α := .ofEntries [] .nil

instance : EmptyCollection (NameMap α) := ⟨empty⟩

instance : Inhabited (NameMap α) := ⟨empty⟩

def size (m : NameMap α) : Nat := m.names.length

def isEmpty (m : NameMap α) : Bool := m.names.isEmpty

def get? (m : NameMap α) (name : String) : Option α := m.entries.lookup name

def contains (m : NameMap α) (name : String) : Bool := (m.get? name).isSome

-- Places an entry into a list of entries that is sorted by name. An entry of the
-- same name gives way.
def place (name : String) (value : α) : List (String × α) → List (String × α)
  | [] => [(name, value)]
  | e :: es =>
    if name < e.1 then (name, value) :: e :: es
    else if e.1 < name then e :: place name value es
    else (name, value) :: es

theorem mem_place {name : String} {value : α} {e : String × α} {es : List (String × α)}
    (h : e ∈ place name value es) : e = (name, value) ∨ e ∈ es := by
  induction es with
  | nil => simp_all [place]
  | cons hd tl ih =>
    simp only [place] at h
    split at h
    · simpa using h
    · split at h <;> simp only [List.mem_cons] at h ⊢ <;> grind

theorem place_preserves_sorted {name : String} {value : α} {es : List (String × α)}
    (h : es.Pairwise (·.1 < ·.1)) : (place name value es).Pairwise (·.1 < ·.1) := by
  induction es with
  | nil => simp [place]
  | cons hd tl ih =>
    have ⟨hd_lt, tl_sorted⟩ := List.pairwise_cons.mp h
    simp only [place]
    split
    case isTrue lt =>
      refine List.pairwise_cons.mpr ⟨fun e mem => ?_, h⟩
      rcases List.mem_cons.mp mem with rfl | mem
      · exact lt
      · exact String.lt_trans lt (hd_lt e mem)
    case isFalse not_lt =>
      split
      case isTrue lt =>
        refine List.pairwise_cons.mpr ⟨fun e mem => ?_, ih tl_sorted⟩
        rcases mem_place mem with rfl | mem
        · exact lt
        · exact hd_lt e mem
      case isFalse not_gt =>
        have eq : name = hd.1 :=
          String.le_antisymm (String.not_lt.mp not_gt) (String.not_lt.mp not_lt)
        exact List.pairwise_cons.mpr ⟨fun e mem => eq ▸ hd_lt e mem, tl_sorted⟩

def insert (m : NameMap α) (name : String) (value : α) : NameMap α :=
  .ofEntries (place name value m.entries) (place_preserves_sorted m.sorted_entries)

@[simp]
theorem entries_insert (m : NameMap α) (name : String) (value : α) :
    (m.insert name value).entries = place name value m.entries :=
  entries_ofEntries ..

def filter (m : NameMap α) (keep : String → α → Bool) : NameMap α :=
  .ofEntries (m.entries.filter fun e => keep e.1 e.2) (m.sorted_entries.filter _)

@[simp]
theorem entries_filter (m : NameMap α) (keep : String → α → Bool) :
    (m.filter keep).entries = m.entries.filter fun e => keep e.1 e.2 :=
  entries_ofEntries ..

def erase (m : NameMap α) (name : String) : NameMap α :=
  m.filter fun n _ => n != name

def mapValues (m : NameMap α) (f : String → α → β) : NameMap β :=
  .ofEntries (m.entries.map fun e => (e.1, f e.1 e.2)) (List.pairwise_map.mpr m.sorted_entries)

@[simp]
theorem entries_mapValues (m : NameMap α) (f : String → α → β) :
    (m.mapValues f).entries = m.entries.map fun e => (e.1, f e.1 e.2) :=
  entries_ofEntries ..

-- The last entry of a name wins.
def insertAll (m : NameMap α) (es : List (String × α)) : NameMap α :=
  es.foldl (fun m e => m.insert e.1 e.2) m

def ofList (es : List (String × α)) : NameMap α :=
  empty.insertAll es

-- The entries of both maps. Where both have a name, the entry of `patch` wins.
def override (m patch : NameMap α) : NameMap α :=
  m.insertAll patch.entries

theorem lookup_place_self (name : String) (value : α) (es : List (String × α)) :
    (place name value es).lookup name = some value := by
  induction es with
  | nil => simp [place]
  | cons hd tl ih =>
    obtain ⟨key, held⟩ := hd
    simp only [place]
    split
    · simp
    · split
      case isTrue lt =>
        have ne : (name == key) = false := beq_false_of_ne fun h => String.lt_irrefl _ (h ▸ lt)
        simp only [List.lookup_cons, ne, ih]
      · simp

theorem lookup_place_of_ne {name other : String} (ne : other ≠ name) (value : α)
    (es : List (String × α)) : (place name value es).lookup other = es.lookup other := by
  have ne' : (other == name) = false := beq_false_of_ne ne
  induction es with
  | nil => simp only [place, List.lookup_cons, List.lookup_nil, ne']
  | cons hd tl ih =>
    obtain ⟨key, held⟩ := hd
    simp only [place]
    split
    · simp only [List.lookup_cons, ne']
    next not_lt =>
      split
      · simp only [List.lookup_cons, ih]
      next not_gt =>
        have eq : name = key :=
          String.le_antisymm (String.not_lt.mp not_gt) (String.not_lt.mp not_lt)
        simp only [List.lookup_cons, ← eq, ne']

@[simp]
theorem get?_insert_self (m : NameMap α) (name : String) (value : α) :
    (m.insert name value).get? name = some value := by
  rw [get?, entries_insert, lookup_place_self]

theorem get?_insert_of_ne {name other : String} (ne : other ≠ name) (m : NameMap α) (value : α) :
    (m.insert name value).get? other = m.get? other := by
  rw [get?, get?, entries_insert, lookup_place_of_ne ne]

@[simp]
theorem get?_empty (name : String) : (empty : NameMap α).get? name = none :=
  rfl

end NameMap

-- A finite set of names, listed in ascending order.
abbrev NameSet := NameMap Unit

end RecordStore
