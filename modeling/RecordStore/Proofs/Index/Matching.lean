import Mathlib.Data.List.Perm.Subperm
import RecordStore.Proofs.Store.Collection

-- Which indexes match each other.
--
-- They should be those with the same type and the same set of fields. An index that repeats a field
-- can also match one that has further fields instead, which in turn does not match it.

namespace RecordStore

namespace Index

-- The same type and the same set of fields, in any order and repeated or not.
def Same (index other : Index) : Prop :=
  index.type = other.type ∧ ∀ f, f ∈ index.fields ↔ f ∈ other.fields

-- The same type and as many fields, but some fields of the other index are missing among them.
structure Narrower (index other : Index) : Prop where
  type : index.type = other.type
  length : index.fields.length = other.fields.length
  included : index.fields ⊆ other.fields
  lacking : ¬other.fields ⊆ index.fields

-- The same fields in another order, with any options.
def Rearranges (index other : Index) : Prop :=
  index.type = other.type ∧ index.fields.Perm other.fields

variable {index other third index' other' : Index} {existing : List Index}

theorem Matches.refl (index : Index) : index.Matches index :=
  ⟨rfl, rfl, fun _ mem => mem⟩

theorem Matches.trans (h : index.Matches other) (h' : other.Matches third) : index.Matches third :=
  have ⟨type, length, included⟩ := h
  have ⟨type', length', included'⟩ := h'
  ⟨type.trans type', length.trans length', fun f mem => included' f (included f mem)⟩

theorem Rearranges.symm (h : index.Rearranges other) : other.Rearranges index :=
  ⟨h.1.symm, h.2.symm⟩

theorem Rearranges.matches (h : index.Rearranges other) : index.Matches other :=
  ⟨h.1, h.2.length_eq, fun _ mem => h.2.subset mem⟩

theorem Rearranges.matches_iff (h : index.Rearranges index') (h' : other.Rearranges other') :
    index.Matches other ↔ index'.Matches other' := by
  constructor
  · intro matched
    exact h.symm.matches.trans (matched.trans h'.matches)
  · intro matched
    exact h.matches.trans (matched.trans h'.symm.matches)

theorem Narrower.matches (narrower : index.Narrower other) : index.Matches other :=
  ⟨narrower.type, narrower.length, narrower.included⟩

theorem Narrower.not_same (narrower : index.Narrower other) : ¬index.Same other :=
  fun same => narrower.lacking fun f mem => (same.2 f).mpr mem

theorem Narrower.not_matches (narrower : index.Narrower other) : ¬other.Matches index :=
  fun ⟨_, _, included⟩ => narrower.lacking included

-- As many fields without repetition leave out none.
theorem Narrower.not_nodup (narrower : index.Narrower other) : ¬index.fields.Nodup := by
  intro nodup
  have subperm := List.Nodup.subperm nodup narrower.included
  have perm := subperm.perm_of_length_le (Nat.le_of_eq narrower.length.symm)
  exact narrower.lacking perm.symm.subset

theorem Same.matches (same : index.Same other)
    (length : index.fields.length = other.fields.length) :
    index.Matches other :=
  ⟨same.1, length, fun f => (same.2 f).mp⟩

theorem Same.symm (same : index.Same other) : other.Same index :=
  ⟨same.1.symm, fun f => (same.2 f).symm⟩

theorem Matches.same_or_narrower (h : index.Matches other) :
    index.Same other ∨ index.Narrower other := by
  have ⟨type, length, included⟩ := h
  by_cases included' : other.fields ⊆ index.fields
  case pos => exact .inl ⟨type, fun f => ⟨included f, fun mem => included' mem⟩⟩
  case neg => exact .inr ⟨type, length, included, included'⟩

theorem Matches.symm (h : index.Matches other) (wide : ¬index.Narrower other) :
    other.Matches index :=
  have ⟨_, length, _⟩ := h
  (h.same_or_narrower.resolve_right wide).symm.matches length.symm

theorem mem_missing_iff {declared : List Index} :
    index ∈ missing declared existing ↔
    index ∈ declared ∧ ∀ listed ∈ existing, ¬index.Matches listed := by
  simp [missing]

theorem missing_eq_nil_iff {declared : List Index} :
    missing declared existing = [] ↔
    ∀ index ∈ declared, ∃ listed ∈ existing, index.Matches listed := by
  simp [missing]

end Index

namespace Collection

variable {c : Collection} {index : Index}

theorem createIndex_eq_iff : (c.createIndex index).indexes = c.indexes ++ [index] ↔
    ∀ listed ∈ c.indexes, ¬listed.Matches index := by
  constructor
  · intro created listed mem matched
    simp [createIndex_of_matches ⟨listed, mem, matched⟩] at created
  · intro new
    rw [createIndex_of_new new]

end Collection

namespace Index

-- Matching is as it should be where the index is not narrower than the other, which it can be only
-- if it repeats a field. Where neither is narrower, it does not matter which of them is asked, so
-- that an index is missing among others if and only if its creation would add it to them.
theorem matches_iff_same_unless_narrower (index other : Index)
    (length : index.fields.length = other.fields.length) :
    ((index.Matches other ↔ index.Same other) ↔ ¬index.Narrower other) ∧
    ((index.Matches other ↔ other.Matches index) ↔ ¬index.Narrower other ∧ ¬other.Narrower index) ∧
    (index.Narrower other → ¬index.fields.Nodup) ∧
    index.Matches index ∧
    (∀ third, index.Matches other → other.Matches third → index.Matches third) ∧
    (∀ index' other', index.Rearranges index' → other.Rearranges other' →
      (index.Matches other ↔ index'.Matches other')) ∧
    ∀ (declared : List Index) (c : Collection), index ∈ declared →
      (∀ listed ∈ c.indexes, ¬index.Narrower listed ∧ ¬listed.Narrower index) →
      (index ∈ missing declared c.indexes ↔
        (c.createIndex index).indexes = c.indexes ++ [index]) := by
  refine ⟨⟨?_, ?_⟩, ⟨?_, ?_⟩, Narrower.not_nodup, .refl index, fun _ => .trans,
    fun _ _ => Rearranges.matches_iff, ?_⟩
  · intro alike narrower
    exact narrower.not_same (alike.mp narrower.matches)
  · intro wide
    exact ⟨fun matched => matched.same_or_narrower.resolve_right wide,
      fun same => same.matches length⟩
  · intro alike
    exact ⟨fun narrower => narrower.not_matches (alike.mp narrower.matches),
      fun narrower => narrower.not_matches (alike.mpr narrower.matches)⟩
  · intro ⟨wide, wide'⟩
    exact ⟨fun matched => matched.symm wide, fun matched => matched.symm wide'⟩
  · intro declared c mem wide
    rw [mem_missing_iff, Collection.createIndex_eq_iff]
    constructor
    · intro ⟨_, unmatched⟩ listed mem matched
      exact unmatched listed mem (matched.symm (wide listed mem).2)
    · intro unmatched
      exact ⟨mem, fun listed mem matched => unmatched listed mem (matched.symm (wide listed mem).1)⟩

-- Neither the order of the fields nor an option keeps these from matching.
theorem matches_iff_same_unless_narrower_of_two :
    let index := (Index.new "persistent" ["x", "y"]).setOption "unique" (.bool true)
    let other := Index.new "persistent" ["y", "x"]
    index.fields.length = other.fields.length ∧ index.Matches other ∧ other.Matches index := by
  intro index other
  have length : index.fields.length = other.fields.length := rfl
  obtain ⟨matches_iff, alike_iff, nodup, _⟩ := matches_iff_same_unless_narrower index other length
  have wide : ¬index.Narrower other := fun narrower => nodup narrower (by decide)
  have wide' : ¬other.Narrower index := fun narrower => narrower.not_nodup (by decide)
  have same : index.Same other :=
    ⟨rfl, fun f => by simp [index, other, Index.new, setOption, or_comm]⟩
  have matched : index.Matches other := (matches_iff.mpr wide).mpr same
  exact ⟨length, matched, (alike_iff.mpr ⟨wide, wide'⟩).mp matched⟩

-- A valid index with a repeated field matches one that covers a further field, but not the other
-- way round. So it is not missing beside it, although its creation would add it.
theorem matches_of_repeated :
    let narrow := Index.new "persistent" ["a", "a"]
    let wide := Index.new "persistent" ["a", "b"]
    let c := { Collection.new .document with indexes := [wide] }
    narrow.validate = .ok () ∧ wide.validate = .ok () ∧ narrow.fields.length = wide.fields.length ∧
      narrow.Matches wide ∧ ¬narrow.Same wide ∧ ¬wide.Matches narrow ∧
      missing [narrow] c.indexes = [] ∧ (c.createIndex narrow).indexes = [wide, narrow] := by
  intro narrow wide c
  have narrower : narrow.Narrower wide := ⟨rfl, rfl, by decide, by decide⟩
  exact ⟨rfl, rfl, rfl, narrower.matches, narrower.not_same, narrower.not_matches, by rfl, by rfl⟩

end Index

end RecordStore
