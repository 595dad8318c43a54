import RecordStore.Proofs.Record.Saving
import RecordStore.Proofs.Value.Denotation

-- What is read from a field after an assignment to it.
--
-- An assignment is dropped if the field holds the same value already. Numbers are rounded to find
-- out, so that the field can hold another integer than the one that is assigned.

namespace RecordStore.Record

variable {r : Record} {name : String} {v : Value}

-- Whether the value is read from the field, up to how its numbers are written.
def Reads (r : Record) (name : String) (v : Value) : Prop :=
  ∃ read, r.fields.get? name = some read ∧ read.Agree Number.value v

-- The value is read afterwards unless the field holds one that is different, but is not after
-- rounding. That takes an integer of a magnitude above `2 ^ 53`.
theorem read_back_unless_rounded (r : Record) (free : ¬isReserved name) :
    ∃ changed r', r.set name v = .ok (changed, r') ∧
      (∀ other, other ≠ name → r'.fields.get? other = r.fields.get? other) ∧
      (r'.Reads name v ↔ ∀ held, r.fields.get? name = some held →
        held.Agree Number.rounded v → held.Agree Number.value v) ∧
      ((∀ held, r.fields.get? name = some held → ∀ i range,
          .int i range ∈ held.numbers ++ v.numbers → i.natAbs ≤ 2 ^ 53) → r'.Reads name v) := by
  rcases r.set_of_free free v with ⟨⟨held, found, same⟩, eq⟩ | ⟨differ, eq⟩
  · have rounded := Value.same_iff_agree.mp same
    have reads_iff : r.Reads name v ↔ held.Agree Number.value v := by simp [Reads, found]
    refine ⟨false, r, eq, fun _ _ => rfl, ?_, fun small => reads_iff.mpr ?_⟩
    · simp [reads_iff, found, rounded]
    · refine rounded.replace fun m m_mem n n_mem agree => ?_
      have fits {k} (mem : k ∈ held.numbers ++ v.numbers) : k.rounded = k.value :=
        Number.rounded_eq_value fun i range eq => small held found i range (eq ▸ mem)
      rwa [fits (List.mem_append_left _ m_mem), fits (List.mem_append_right _ n_mem)] at agree
  · have reads : ((r.setField name v).markDirty name).Reads name v :=
      ⟨v, NameMap.get?_insert_self .., .refl v⟩
    refine ⟨true, _, eq, fun other ne => NameMap.get?_insert_of_ne ne .., ?_, fun _ => reads⟩
    exact iff_of_true reads fun held found rounded =>
      absurd (Value.same_iff_agree.mpr rounded) (differ held found)

-- The assignment of the same number in another spelling is dropped.
theorem read_back_unless_rounded_of_one :
    let held : Value := .array [.ofList [("a", .number (.int 1 (by decide)))]]
    let v : Value := .array [.ofList [("a", .number (.double (.ofInt 1)))]]
    let r : Record := { Record.empty with fields := .ofList [("x", held)] }
    v ≠ held ∧ r.set "x" v = .ok (false, r) ∧ r.Reads "x" v := by
  intro held v r
  have dropped : r.set "x" v = .ok (false, r) := by
    rw [set, if_neg (by decide), if_pos]
    exact (Option.any_eq_true _ _).mpr ⟨held, rfl, by decide +kernel⟩
  have is_held {other} (found : r.fields.get? "x" = some other) : other = held :=
    (Option.some.inj found).symm
  have free : ¬isReserved "x" := by decide
  obtain ⟨changed, r', eq, _, _, reads⟩ := r.read_back_unless_rounded free (v := v)
  cases dropped.symm.trans eq
  have held_numbers : held.numbers = [.int 1 (by decide)] := by rfl
  have numbers : v.numbers = [.double (.ofInt 1)] := by rfl
  refine ⟨fun same => ?_, dropped, reads fun other found i range mem => ?_⟩
  · rw [same, held_numbers] at numbers
    cases numbers
  · rw [is_held found, held_numbers, numbers] at mem
    simp only [List.cons_append, List.nil_append, List.mem_cons, List.not_mem_nil, or_false,
      reduceCtorEq, Number.int.injEq] at mem
    subst mem
    decide

-- Of two integers that are next to each other, the second one is not assigned.
theorem not_reads_of_next_integer :
    let first : Value := .number (.int 9007199254740993 (by decide))
    let second : Value := .number (.int 9007199254740992 (by decide))
    ∃ r, empty.set "x" first = .ok (true, r) ∧ r.set "x" second = .ok (false, r) ∧
      ¬r.Reads "x" second := by
  intro first second
  refine ⟨_, rfl, ?_, ?_⟩
  · rw [set, if_neg (by decide), if_pos]
    exact (Option.any_eq_true _ _).mpr ⟨first, rfl, by decide +kernel⟩
  · rintro ⟨read, found, agree⟩
    cases found
    exact absurd (Int.cast_inj.mp agree) (by decide)

end RecordStore.Record
