import RecordStore.Proofs.Store.Writing
import RecordStore.Proofs.Value.Order

namespace RecordStore

namespace Index

-- Two documents that an index must not cover at the same time: they agree on all its fields. A
-- sparse index does not mind documents that lack one of them.
def Collide (index : Index) (a b : Fields) : Prop :=
  (∀ f ∈ index.fields, (a.value f).equals (b.value f)) ∧
    ¬(index.options.get? "sparse" = some (.bool true) ∧
      ∃ f ∈ index.fields, a.value f = .null ∨ b.value f = .null)

variable {index : Index} {a b document : Fields} {others : List Fields}

theorem hasOption_iff {option : String} :
    index.hasOption option ↔ index.options.get? option = some (.bool true) := by
  unfold hasOption
  cases index.options.get? option with
  | none => simp
  | some v => cases v <;> simp [Value.isTrue]

theorem Collide.symm (h : index.Collide a b) : index.Collide b a := by
  refine ⟨fun f mem => ?_, fun ⟨sparse, f, mem, missing⟩ => h.2 ⟨sparse, f, mem, missing.symm⟩⟩
  rw [Value.equals_comm]
  exact h.1 f mem

-- Documents that agree lack the same fields, so that it is enough to look at one of them.
theorem collide_iff : index.Collide a b ↔ index.agreesOn a b ∧ index.covers a := by
  have agree : index.agreesOn a b ↔ ∀ f ∈ index.fields, (a.value f).equals (b.value f) := by
    simp [agreesOn, Value.equals_comm (b.value _)]
  have lacks : index.covers a ↔ ¬(index.options.get? "sparse" = some (.bool true) ∧
      ∃ f ∈ index.fields, a.value f = .null) := by
    rw [← hasOption_iff, covers, isSparse]
    cases index.hasOption "sparse" <;> simp [Value.equals_null_iff]
  rw [Collide, agree, lacks]
  refine and_congr_right fun same => not_congr <| and_congr_right fun _ => ?_
  refine exists_congr fun f => and_congr_right fun mem => or_iff_left_of_imp fun missing => ?_
  exact Value.equals_null_iff.mp (missing ▸ same f mem)

instance : Decidable (index.Collide a b) :=
  decidable_of_iff (index.agreesOn a b ∧ index.covers a) collide_iff.symm

theorem admits_iff :
    index.admits document others ↔ ∀ other ∈ others, ¬index.Collide document other := by
  simp only [collide_iff, admits]
  cases index.covers document <;> simp

end Index

namespace Collection

-- No two documents collide on a unique index. Primary indexes are a matter of the keys.
def UpholdsUnique (c : Collection) : Prop :=
  ∀ index ∈ c.indexes, index.type ≠ "primary" → index.options.get? "unique" = some (.bool true) →
    c.documents.Pairwise fun a b => ¬index.Collide a b

variable {c c' : Collection} {name : String} {document : Fields} {others : List Fields}

theorem checkUnique_eq_ok (h : c.checkUnique name document others = .ok ()) :
    ∀ index ∈ c.indexes, index.type ≠ "primary" → index.options.get? "unique" = some (.bool true) →
      ∀ other ∈ others, ¬index.Collide document other := by
  intro index mem secondary unique
  unfold checkUnique at h
  split at h
  case h_1 => cases h
  case h_2 upheld =>
    have admitted := List.find?_eq_none.mp upheld index mem
    have isUnique : index.isUnique := by
      simpa [Index.isUnique, secondary] using Index.hasOption_iff.mpr unique
    exact Index.admits_iff.mp (by simpa [isUnique] using admitted)

-- An element may be replaced by one that is related to all others.
theorem pairwise_set {R : α → α → Prop} (symm : ∀ {a b}, R a b → R b a) {l : List α}
    (pairwise : l.Pairwise R) (related : ∀ b ∈ l.eraseIdx i, R a b) : (l.set i a).Pairwise R := by
  by_cases lt : i < l.length
  case neg => rwa [List.set_eq_of_length_le (Nat.le_of_not_lt lt)]
  case pos =>
    have rest := pairwise.sublist (List.eraseIdx_sublist l i)
    rw [List.eraseIdx_eq_take_drop_succ] at rest related
    have ⟨before, after, across⟩ := List.pairwise_append.mp rest
    rw [List.set_eq_take_append_cons_drop, if_pos lt]
    refine List.pairwise_append.mpr ⟨before, List.pairwise_cons.mpr ⟨?_, after⟩, ?_⟩
    · exact fun b mem => related b (List.mem_append_right _ mem)
    · intro b mem b' mem'
      rcases List.mem_cons.mp mem' with rfl | mem'
      · exact symm (related b (List.mem_append_left _ mem))
      · exact across b mem b' mem'

-- What is written collides with nothing on a unique index, so that a relation between any two
-- documents is kept if it leaves out none but those that collide.
theorem Write.pairwise {index : Index} {R : Fields → Fields → Prop} (symm : ∀ {a b}, R a b → R b a)
    (free : ∀ {a b}, ¬index.Collide a b → R a b) (mem : index ∈ c.indexes)
    (secondary : index.type ≠ "primary")
    (unique : index.options.get? "unique" = some (.bool true)) (w : c.Write name c')
    (pairwise : c.documents.Pairwise R) : c'.documents.Pairwise R := by
  cases w with
  | insert h =>
    have ⟨_, _, _, _, _, checked, eq⟩ := insert_eq_ok h
    rw [eq, List.pairwise_append]
    refine ⟨pairwise, List.pairwise_singleton _ _, fun other mem' _ eq' => ?_⟩
    rw [List.mem_singleton.mp eq']
    exact symm (free (checkUnique_eq_ok checked index mem secondary unique other mem'))
  | update h =>
    have ⟨_, _, _, _, checked, eq⟩ := update_eq_ok h
    rw [eq]
    exact pairwise_set symm pairwise fun other mem' =>
      free (checkUnique_eq_ok checked index mem secondary unique other mem')
  | remove h =>
    have ⟨i, _, eq⟩ := remove_eq_ok h
    rw [eq]
    exact pairwise.sublist (List.eraseIdx_sublist _ i)

theorem UpholdsUnique.write (upheld : c.UpholdsUnique) (w : c.Write name c') :
    c'.UpholdsUnique := by
  intro index mem secondary unique
  rw [w.indexes_eq] at mem
  exact w.pairwise (fun free collide => free collide.symm) id mem secondary unique
    (upheld index mem secondary unique)

-- What holds of a collection after single writes holds after any number of them.
theorem UpholdsUnique.writes (upheld : c.UpholdsUnique)
    (writes : Relation.ReflTransGen (Write name) c c') :
    c'.UpholdsUnique ∧ c'.indexes = c.indexes := by
  induction writes with
  | refl => exact ⟨upheld, rfl⟩
  | tail _ w ih => exact ⟨ih.1.write w, w.indexes_eq.trans ih.2⟩

end Collection

namespace Store

variable {store : Store} {name : String} {c : Collection}

-- Neither a query nor an import makes documents collide, whether it succeeds or fails. The indexes
-- remain what they are, too.
theorem unique_upheld_by_writes (held : store.collections.get? name = some c)
    (upheld : c.UpholdsUnique) (env : Environment) :
    (∀ q, ∃ c', ((connector env).query q store).2.collections.get? name = some c' ∧
      c'.UpholdsUnique ∧ c'.indexes = c.indexes) ∧
    ∀ target documents, ∃ c',
      ((connector env).importDocuments target documents store).2.collections.get? name = some c' ∧
        c'.UpholdsUnique ∧ c'.indexes = c.indexes := by
  constructor
  · intro q
    have ⟨c', held', writes⟩ := Written.connector_query store env q name c held
    exact ⟨c', held', upheld.writes writes⟩
  · intro target documents
    have ⟨c', held', writes⟩ := Written.connector_import store env target documents name c held
    exact ⟨c', held', upheld.writes writes⟩

-- Two documents that lack the field are stored and a third one that has it, but neither a fourth
-- one that has the same value nor a change that brings this value about.
theorem unique_upheld_by_writes_of_sparse :
    let env : Environment := ⟨fun _ => "k", fun _ => none⟩
    let index := ((Index.new "persistent" ["x"]).setOption "unique" (.bool true)).setOption
      "sparse" (.bool true)
    let store := [Operation.createCollection "a" .document, .createIndex "a" index].foldl
      (Store.after env) .empty
    let documents : List Fields := [
      .ofList [("_key", .string "l")], .ofList [("_key", .string "m"), ("x", .null)],
      .ofList [("_key", .string "n"), ("x", .string "1")], .ofList [("x", .string "1")]]
    let q := Query.update "a" "l" (.ofList [("x", .string "1")])
    let imported := ((connector env).importDocuments "a" documents store).2
    let updated := ((connector env).query q imported).2
    ∃ c, updated.collections.get? "a" = some c ∧ c.documents.length = 3 ∧ c.indexes.length = 2 ∧
      c.UpholdsUnique := by
  intro env index store documents q imported updated
  have empty : (store.collections.get? "a").map (·.documents.length) = some 0 := by decide +kernel
  have sizes : (updated.collections.get? "a").map
    (fun c => (c.documents.length, c.indexes.length)) =
      some (3, 2) := by decide +kernel
  obtain ⟨c, held, none⟩ := Option.map_eq_some_iff.mp empty
  have upheld : c.UpholdsUnique := by
    intro _ _ _ _
    rw [List.eq_nil_of_length_eq_zero none]
    exact .nil
  obtain ⟨c', held', upheld', _⟩ : ∃ c', imported.collections.get? "a" = some c' ∧
    c'.UpholdsUnique ∧
    c'.indexes = c.indexes := (unique_upheld_by_writes held upheld env).2 "a" documents
  obtain ⟨c'', held'', upheld'', _⟩ := (unique_upheld_by_writes held' upheld' env).1 q
  obtain ⟨d, held_d, sizes⟩ := Option.map_eq_some_iff.mp sizes
  cases held_d.symm.trans held''
  have ⟨documents, indexes⟩ := Prod.mk.inj sizes
  exact ⟨_, held'', documents, indexes, upheld''⟩

end Store
end RecordStore
