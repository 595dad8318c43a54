import RecordStore.Proofs.Declaration.Reading
import RecordStore.Proofs.Schema.IndexRefusal

-- Which declarations pass the checks that are made when their collections are created.
--
-- All of them should, since they are checked while they are read. But an empty type of an index is
-- only found later.

namespace RecordStore

theorem exists_left_of_forall₂ {R : α → β → Prop} (h : List.Forall₂ R as bs) (mem : b ∈ bs) :
    ∃ a ∈ as, R a b := by
  induction h with
  | nil => cases mem
  | @cons a b' as bs related _ ih =>
    obtain rfl | mem := List.mem_cons.mp mem
    · exact ⟨a, List.mem_cons_self, related⟩
    · obtain ⟨a', mem, related⟩ := ih mem
      exact ⟨a', List.mem_cons_of_mem a mem, related⟩

theorem Unicode.lowercase_ne_nil (c : Char) : lowercase c ≠ [] := by
  unfold lowercase
  split
  case isTrue => simp
  case isFalse => split <;> simp

namespace Declaration

open Meta

variable {ident : String} {attributes : List Attribute} {d : Declaration} {items : List Meta}
  {index : Index}

theorem snakeCase_ne_empty (named : ident ≠ "") : snakeCase ident ≠ "" := by
  unfold snakeCase
  split
  case h_1 empty => exact absurd (String.toList_eq_nil_iff.mp empty) named
  case h_2 c cs _ =>
    rw [Ne, String.ofList_eq_empty_iff, List.append_eq_nil_iff, not_and_or]
    left
    split
    case isTrue => exact Unicode.lowercase_ne_nil c
    case isFalse => simp

theorem not_bare_of_ofAttributes (h : ofAttributes ident attributes = .ok d) :
    .bare ∉ attributes := by
  intro bare
  obtain ⟨before, after, rfl⟩ := List.append_of_mem bare
  obtain ⟨_, folded, _⟩ := bind_eq_ok_iff.mp h
  rw [List.foldlM_append] at folded
  obtain ⟨draft, _, folded⟩ := bind_eq_ok_iff.mp folded
  cases folded

-- What is declared has been read from well-formed items.
theorem formed_of_ofAttributes (h : ofAttributes ident attributes = .ok d) :
    ∀ item ∈ attributes.flatMap Attribute.items, item.IsItem := by
  by_contra malformed
  obtain ⟨before, bad, after, e, split, formed, fault⟩ := exists_first_fault malformed
  rw [ofAttributes_eq_error (not_bare_of_ofAttributes h) split formed fault] at h
  cases h

theorem declares_of_ofAttributes (h : ofAttributes ident attributes = .ok d) :
    Declares ident (attributes.flatMap Attribute.items) d := by
  obtain ⟨d', read, declares⟩ :=
    exists_ofAttributes ident (not_bare_of_ofAttributes h) (formed_of_ofAttributes h)
  rw [h] at read
  cases read
  exact declares

theorem Declares.name_ne_empty (declares : Declares ident items d) (named : ident ≠ "")
    (formed : ∀ item ∈ items, item.IsItem) : d.name ≠ "" := by
  rw [declares.name]
  cases given : (given string? "name" items).getLast? with
  | none => exact snakeCase_ne_empty named
  | some name =>
    obtain ⟨item, mem, path, string⟩ := mem_given_iff.mp (List.mem_of_getLast? given)
    cases formed item mem with
    | name named => cases string; exact named
    | edge => cases string
    | index => cases string

theorem Describes.validate_eq_ok_iff (describes : Describes items index) :
    index.validate = .ok () ↔ index.type ≠ "" := by
  rw [Index.validate_eq_ok_iff]
  exact and_iff_left ⟨describes.fields_ne, describes.named⟩

theorem Describes.type_eq_empty_iff (describes : Describes items index) :
    index.type = "" ↔ (given string? "kind" items).getLast? = some "" := by
  rw [describes.type]
  cases (given string? "kind" items).getLast? <;> simp

-- The empty types are those that are given.
theorem Declares.exists_type_eq_empty_iff (declares : Declares ident items d) :
    (∃ index ∈ d.indexes, index.type = "") ↔
      ∃ inner ∈ given nested "index" items, (given string? "kind" inner).getLast? = some "" := by
  constructor
  · rintro ⟨index, mem, empty⟩
    obtain ⟨inner, mem, describes⟩ := exists_left_of_forall₂ declares.indexes mem
    exact ⟨inner, mem, describes.type_eq_empty_iff.mp empty⟩
  · rintro ⟨inner, mem, empty⟩
    obtain ⟨index, mem, describes⟩ :=
      exists_left_of_forall₂ (List.Forall₂.flip declares.indexes) mem
    exact ⟨index, mem, describes.type_eq_empty_iff.mpr empty⟩

-- The name of a declared collection is not empty, and its indexes are valid except for those that
-- have been given an empty type. Without such an index, its creation and the application of its
-- indexes are never refused because of an invalid index. With one, they always are, the former
-- after the collection has been created.
theorem valid_unless_type_empty (ident : String) (attributes : List Attribute) (d : Declaration)
    (named : ident ≠ "")
    (declared : ofAttributes ident attributes = .ok d) :
    let schema := Schema.ofDeclaration d
    d.name ≠ "" ∧
    (∀ index ∈ d.indexes, index.validate = .ok () ↔ index.type ≠ "") ∧
    ((∃ index ∈ d.indexes, index.type = "") ↔
      ∃ inner ∈ given nested "index" (attributes.flatMap Attribute.items),
        (given string? "kind" inner).getLast? = some "") ∧
    (∀ env, (Store.connector env).Discerning) ∧
    ∀ {σ : Type} (conn : Connector σ) (s : σ),
      (conn.Discerning → (∀ index ∈ d.indexes, index.type ≠ "") → ∀ e,
        ((schema.create conn s).1 = .error e → e.kind ≠ .invalidIndex) ∧
        ((schema.applyIndexes conn s).1 = .error e → e.kind ≠ .invalidIndex)) ∧
      ((∃ index ∈ d.indexes, index.type = "") →
        (∀ s', conn.createCollection d.name d.kind s = (.ok (), s') →
          ∃ e, schema.create conn s = (.error e, s') ∧ e.kind = .invalidIndex) ∧
        ∃ e, schema.applyIndexes conn s = (.error e, s) ∧ e.kind = .invalidIndex) := by
  intro schema
  have declares := declares_of_ofAttributes declared
  have validate_iff : ∀ index ∈ d.indexes, index.validate = .ok () ↔ index.type ≠ "" := by
    intro index mem
    obtain ⟨_, _, describes⟩ := exists_left_of_forall₂ declares.indexes mem
    exact describes.validate_eq_ok_iff
  refine ⟨declares.name_ne_empty named (formed_of_ofAttributes declared), validate_iff,
    declares.exists_type_eq_empty_iff, Store.connector_discerning, fun conn s => ⟨?_, ?_⟩⟩
  · intro discerning typed e
    have valid : ∀ index ∈ schema.indexes, index.validate = .ok () :=
      fun index mem => (validate_iff index mem).mpr (typed index mem)
    exact ⟨Schema.create_of_discerning discerning valid,
      Schema.applyIndexes_of_discerning discerning valid⟩
  · intro ⟨index, mem, empty⟩
    have invalid : ∃ index ∈ schema.indexes, index.validate ≠ .ok () :=
      ⟨index, mem, fun valid => (validate_iff index mem).mp valid empty⟩
    exact ⟨fun _ created => Schema.create_of_invalid created invalid,
      Schema.applyIndexes_of_invalid conn s invalid⟩

theorem valid_unless_type_empty_of_hash :
    let items := [
      Meta.mk "kind" none (some (.string "hash")),
      .mk "fields" none (some (.string "sku, brand"))]
    let attributes : List Attribute := [.collection [.mk "index" (some items) none], .other]
    ∃ d, ofAttributes "Items" attributes = .ok d ∧ d.name ≠ "" ∧
      (∀ index ∈ d.indexes, index.validate = .ok ()) ∧
      ∀ env store e, ((Schema.ofDeclaration d).create (Store.connector env) store).1 = .error e →
        e.kind ≠ .invalidIndex := by
  intro items attributes
  obtain ⟨d, declared⟩ : ∃ d, ofAttributes "Items" attributes = .ok d := ⟨_, rfl⟩
  obtain ⟨name, validate_iff, empty_iff, discerning, checked⟩ :=
    valid_unless_type_empty "Items" attributes d (by decide) declared
  have typed : ∀ index ∈ d.indexes, index.type ≠ "" := by
    intro index mem empty
    obtain ⟨inner, mem, last⟩ := empty_iff.mp ⟨index, mem, empty⟩
    have only : inner = items := List.mem_singleton.mp mem
    rw [only] at last
    exact absurd last (by decide)
  refine ⟨d, declared, name, fun index mem => (validate_iff index mem).mpr (typed index mem), ?_⟩
  intro env store e
  exact ((checked (Store.connector env) store).1 (discerning env) typed e).1

-- An index without a type is declared, but then its collection is left behind without any of its
-- indexes.
theorem invalid_of_type_empty :
    let attributes : List Attribute := [
      .collection [.mk "index" (some [
        .mk "kind" none (some (.string "")),
        .mk "fields" none (some (.string "a"))]) none]]
    let env : Environment := ⟨fun _ => "k", fun _ => none⟩
    ∃ d, ofAttributes "Items" attributes = .ok d ∧ (∃ index ∈ d.indexes, index.validate ≠ .ok ()) ∧
      let created := (Schema.ofDeclaration d).create (Store.connector env) .empty
      (∃ e, created.1 = .error e ∧ e.kind = .invalidIndex) ∧
        (created.2.collections.get? "items").map (·.indexes.map (·.type)) = some ["primary"] := by
  intro attributes env
  refine ⟨_, rfl, ⟨_, List.mem_cons_self, nofun⟩, ⟨_, rfl, rfl⟩, ?_⟩
  decide +kernel

end Declaration

end RecordStore
