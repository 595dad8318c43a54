import RecordStore.Proofs.Record.Saving
import RecordStore.Proofs.Value.Sameness

namespace RecordStore

-- The same error, or else results that are related.
inductive SameResult (R : α → β → Prop) : Except Error α → Except Error β → Prop where
  | error (e : Error) : SameResult R (.error e) (.error e)
  | ok (related : R a b) : SameResult R (.ok a) (.ok b)

namespace SameResult

theorem imp {R S : α → β → Prop} {x : Except Error α} {y : Except Error β} (same : SameResult R x y)
    (weaker : ∀ a b, R a b → S a b) : SameResult S x y := by
  cases same with
  | error e => exact .error e
  | ok related => exact .ok (weaker _ _ related)

-- Both go on from what is the same for both.
theorem bind_same {S : γ → δ → Prop} {f : α → Except Error γ} {g : α → Except Error δ}
    (x : Except Error α)
    (next : ∀ a, SameResult S (f a) (g a)) : SameResult S (x >>= f) (x >>= g) := by
  cases x with
  | error e => exact .error e
  | ok a => exact next a

end SameResult

namespace Value

variable {a a' : Value}

theorem compare_congr (tie : a.equals a') (b : Value) :
    a.compare b = a'.compare b ∧ b.compare a = b.compare a' :=
  have eq := equals_iff.mp tie
  ⟨Std.TransCmp.congr_left eq, Std.TransCmp.congr_right eq⟩

theorem equals_congr (tie : a.equals a') (b : Value) :
    a.equals b = a'.equals b ∧ b.equals a = b.equals a' := by
  simp only [equals, compare_congr tie b, and_self]

theorem any_equals_congr {items items' : List Value} (tie : compareItems items items' = .eq)
    (v : Value) :
    items.any (·.equals v) = items'.any (·.equals v) := by
  induction items generalizing items' with
  | nil =>
    cases items' with
    | nil => rfl
    | cons => cases tie
  | cons item items ih =>
    cases items' with
    | nil => cases tie
    | cons item' items' =>
      have ⟨first, rest⟩ := Ordering.then_eq_eq.mp tie
      rw [List.any_cons, List.any_cons, ih rest, (equals_congr (equals_iff.mpr first) v).1]

theorem isIn_congr (tie : a.equals a') (b : Value) :
    a.isIn b = a'.isIn b ∧ b.isIn a = b.isIn a' := by
  constructor
  · simp only [isIn, equals_congr tie]
  -- Only arrays have elements, and an array ties with nothing but arrays.
  · have tie := equals_iff.mp tie
    cases a <;> cases a'
    case array.array items items' => exact any_equals_congr tie b
    all_goals first | rfl | cases tie

end Value

-- Patterns occur in strings, and a string ties with no other value.
theorem Filter.patternOccurs_congr {v v' : Value} (tie : v.equals v') (f : Filter)
    (patterns : Patterns) :
    f.patternOccurs patterns v = f.patternOccurs patterns v' := by
  unfold patternOccurs
  cases patterns.get? f.bind with
  | none => rfl
  | some pattern =>
    have tie := Value.equals_iff.mp tie
    cases v <;> cases v'
    case string.string s s' => rw [(Std.LawfulEqOrd.compare_eq_iff_eq (α := String)).mp tie]
    all_goals first | rfl | cases tie

-- Documents with values under each name that are equal for all comparisons.
def NameMap.Alike (document document' : Fields) : Prop :=
  ∀ name, (document.value name).equals (document'.value name)

section

variable {document document' : Fields} (alike : document.Alike document')

include alike

theorem Filter.holds_congr (patterns : Patterns) (f : Filter) :
    f.holds patterns document = f.holds patterns document' := by
  have tie := alike f.field
  unfold holds
  simp only [patternOccurs_congr tie, Value.equals_congr tie, Value.compare_congr tie,
    Value.isIn_congr tie]

theorem Plan.holds_congr (plan : Plan) (patterns : Patterns) :
    plan.holds patterns document = plan.holds patterns document' := by
  unfold holds
  simp only [Filter.holds_congr alike patterns]

theorem SortKey.compare_congr (key : SortKey) (other : Fields) :
    key.compare document other = key.compare document' other ∧
      key.compare other document = key.compare other document' := by
  have ties := Value.compare_congr (alike key.field) (other.value key.field)
  unfold compare
  cases key.direction <;> simp only [ties, and_self]

theorem compareBy_congr (keys : List SortKey) (other : Fields) :
    compareBy keys document other = compareBy keys document' other ∧
      compareBy keys other document = compareBy keys other document' := by
  induction keys with
  | nil => exact ⟨rfl, rfl⟩
  | cons key keys ih => simp only [compareBy, key.compare_congr alike, ih, and_self]

namespace Index

theorem agreesOn_congr (index : Index) :
    index.agreesOn document = index.agreesOn document' ∧
      ∀ other, index.agreesOn other document = index.agreesOn other document' := by
  have ties (name : String) := Value.equals_congr (alike name)
  constructor
  · funext other
    simp only [agreesOn, ties]
  · intro other
    simp only [agreesOn, ties]

theorem covers_congr (index : Index) : index.covers document = index.covers document' := by
  have ties (name : String) := Value.equals_congr (alike name) .null
  simp only [covers, ties]

end Index

namespace Collection

-- The one document is let in just as the other, and keeps the same documents out.
theorem checkUnique_congr (c : Collection) (name : String) :
    (∀ others, c.checkUnique name document others = c.checkUnique name document' others) ∧
      ∀ other before after, c.checkUnique name other (before ++ document :: after) =
        c.checkUnique name other (before ++ document' :: after) := by
  have agreements (index : Index) := index.agreesOn_congr alike
  have covers (index : Index) := index.covers_congr alike
  constructor
  · intro others
    simp only [checkUnique, violated?, Index.admits, agreements, covers]
  · intro other before after
    simp only [checkUnique, violated?, Index.admits, List.any_append, List.any_cons, agreements]

end Collection

end

section

variable {pairs : List (Fields × Fields)} (alike : ∀ p ∈ pairs, p.1.Alike p.2)

include alike

-- Documents that are sorted side by side stay side by side.
theorem sortDocuments_pairs (keys : List SortKey) : ∃ sorted ⊆ pairs,
    sortDocuments keys (pairs.map (·.1)) = sorted.map (·.1) ∧
      sortDocuments keys (pairs.map (·.2)) = sorted.map (·.2) := by
  have aligned : ∀ p ∈ pairs, ∀ q ∈ pairs, compareBy keys p.1 q.1 = compareBy keys p.2 q.2 :=
    fun p p_mem q q_mem =>
      ((compareBy_congr (alike p p_mem) keys q.1).1).trans
        ((compareBy_congr (alike q q_mem) keys p.2).2)
  let sorted := pairs.mergeSort fun p q => compareBy keys p.1 q.1 != .gt
  refine ⟨sorted, (List.mergeSort_perm ..).subset, ?_, ?_⟩
  · rw [sortDocuments, List.map_mergeSort]
    exact fun _ _ _ _ => rfl
  · rw [sortDocuments, List.map_mergeSort]
    exact fun p p_mem q q_mem => by rw [aligned p p_mem q q_mem]

theorem Plan.filter_pairs (plan : Plan) (patterns : Patterns) : ∃ found ⊆ pairs,
    (pairs.map (·.1)).filter (plan.holds patterns) = found.map (·.1) ∧
      (pairs.map (·.2)).filter (plan.holds patterns) = found.map (·.2) := by
  refine ⟨pairs.filter fun p => plan.holds patterns p.1, List.filter_sublist.subset,
    List.filter_map, ?_⟩
  rw [List.filter_map]
  refine congrArg _ (List.filter_congr fun p mem => ?_)
  exact (plan.holds_congr (alike p mem) patterns).symm

theorem Plan.select_pairs (env : Environment) (plan : Plan) :
    SameResult (fun results results' => ∃ selected ⊆ pairs,
        results = selected.map (·.1) ∧ results' = selected.map (·.2))
      (plan.select env (pairs.map (·.1))) (plan.select env (pairs.map (·.2))) := by
  refine .bind_same (plan.patterns env) fun patterns => .ok ?_
  have ⟨found, found_sub, chosen, chosen'⟩ := plan.filter_pairs alike patterns
  have ⟨sorted, sorted_sub, eq, eq'⟩ :=
    sortDocuments_pairs (fun p mem => alike p (found_sub mem)) plan.sorts
  have sub : sorted ⊆ pairs := List.Subset.trans sorted_sub found_sub
  rw [chosen, chosen', eq, eq']
  cases plan.window with
  | none => exact ⟨sorted, sub, rfl, rfl⟩
  | some w =>
    refine ⟨(sorted.drop w.offset).take w.count, fun p mem => ?_, ?_, ?_⟩
    · exact sub (List.mem_of_mem_drop (List.mem_of_mem_take mem))
    all_goals rw [Window.apply, List.map_take, List.map_drop]

end

namespace NameMap

variable {document document' : Fields} {name : String} {v w : Value}

-- Of two documents, one stands for the other. All else stands for itself.
def Replaced (document document' d d' : Fields) : Prop := d = d' ∨ d = document ∧ d' = document'

def sideBySide (document document' : Fields) (before after : List Fields) :
    List (Fields × Fields) :=
  before.map (fun d => (d, d)) ++ (document, document') :: after.map (fun d => (d, d))

theorem sideBySide_map_fst (document document' : Fields) (before after : List Fields) :
    (sideBySide document document' before after).map (·.1) = before ++ document :: after := by
  simp [sideBySide, Function.comp_def]

theorem sideBySide_map_snd (document document' : Fields) (before after : List Fields) :
    (sideBySide document document' before after).map (·.2) = before ++ document' :: after := by
  simp [sideBySide, Function.comp_def]

theorem replaced_of_mem {before after : List Fields} {p : Fields × Fields}
    (mem : p ∈ sideBySide document document' before after) :
    Replaced document document' p.1 p.2 := by
  simp only [sideBySide, List.mem_append, List.mem_cons, List.mem_map] at mem
  rcases mem with ⟨d, _, rfl⟩ | rfl | ⟨d, _, rfl⟩
  exacts [.inl rfl, .inr ⟨rfl, rfl⟩, .inl rfl]

theorem forall₂_replaced {selected : List (Fields × Fields)} {before after : List Fields}
    (sub : selected ⊆ sideBySide document document' before after) :
    List.Forall₂ (Replaced document document') (selected.map (·.1)) (selected.map (·.2)) := by
  rw [List.forall₂_map_left_iff, List.forall₂_map_right_iff, List.forall₂_same]
  exact fun p mem => replaced_of_mem (sub mem)

-- Neither plans nor sort keys nor unique indexes tell the documents apart, and it makes no
-- difference to what is selected, and in which order, which of them is stored.
structure Indiscernible (document document' : Fields) : Prop where
  holds (plan : Plan) (patterns : Patterns) :
    plan.holds patterns document = plan.holds patterns document'
  compareBy (keys : List SortKey) (other : Fields) :
    compareBy keys document other = compareBy keys document' other ∧
      compareBy keys other document = compareBy keys other document'
  checkUnique (c : Collection) (name : String) :
    (∀ others, c.checkUnique name document others = c.checkUnique name document' others) ∧
      ∀ other before after, c.checkUnique name other (before ++ document :: after) =
        c.checkUnique name other (before ++ document' :: after)
  select (env : Environment) (plan : Plan) (before after : List Fields) :
    SameResult (List.Forall₂ (Replaced document document'))
      (plan.select env (before ++ document :: after))
        (plan.select env (before ++ document' :: after))
  sort (keys : List SortKey) (before after : List Fields) :
    List.Forall₂ (Replaced document document')
      (sortDocuments keys (before ++ document :: after))
        (sortDocuments keys (before ++ document' :: after))

theorem Alike.refl (document : Fields) : document.Alike document :=
  fun _ => Value.equals_iff.mpr Std.ReflCmp.compare_self

theorem Alike.of_replaced (alike : document.Alike document') {d d' : Fields}
    (replaced : Replaced document document' d d') : d.Alike d' := by
  rcases replaced with rfl | ⟨rfl, rfl⟩
  exacts [.refl d, alike]

theorem Alike.indiscernible (alike : document.Alike document') :
    document.Indiscernible document' := by
  have all_alike (before after : List Fields) :
      ∀ p ∈ sideBySide document document' before after, p.1.Alike p.2 :=
    fun _ mem => alike.of_replaced (replaced_of_mem mem)
  constructor
  case holds => exact fun plan patterns => plan.holds_congr alike patterns
  case compareBy => exact compareBy_congr alike
  case checkUnique => exact fun c => c.checkUnique_congr alike
  case select =>
    intro env plan before after
    rw [← sideBySide_map_fst, ← sideBySide_map_snd]
    refine (plan.select_pairs (all_alike before after) env).imp fun results results' selected => ?_
    obtain ⟨selected, sub, rfl, rfl⟩ := selected
    exact forall₂_replaced sub
  case sort =>
    intro keys before after
    have ⟨sorted, sub, eq, eq'⟩ := sortDocuments_pairs (all_alike before after) keys
    rw [← sideBySide_map_fst, ← sideBySide_map_snd, eq, eq']
    exact forall₂_replaced sub

theorem alike_insert (held : document.get? name = some v) (tie : v.equals w) :
    document.Alike (document.insert name w) := by
  intro other
  rw [value, value, get?_insert]
  split
  case isTrue eq => rw [eq, held]; exact tie
  case isFalse => exact Alike.refl document other

end NameMap

theorem Record.same_of_set {r r' : Record} (h : r.set name w = .ok (false, r')) :
    ∃ v, r.fields.get? name = some v ∧ v.same w := by
  rcases r.set_of_free (free_of_set h) w with ⟨same, _⟩ | ⟨_, eq⟩
  · exact same
  · cases eq.symm.trans h

-- To assign what counts as the same value would have changed nothing that can be asked for.
theorem assigning_the_same_is_unobservable :
    (∀ a b : Value, a.same b ↔ a.equals b) ∧
    (∀ (document : Fields) name v w, document.get? name = some v → v.same w →
      document.Indiscernible (document.insert name w)) ∧
    ∀ (r r' : Record) name v w, r.fields.get? name = some v → r.set name w = .ok (false, r') →
      ∀ document : Fields, document.get? name = some v →
        document.Indiscernible (document.insert name w) := by
  have agree (a b : Value) : a.same b ↔ a.equals b :=
    (Value.same_iff a b).trans Value.equals_iff.symm
  refine ⟨agree, ?_, ?_⟩
  · intro document name v w held same
    exact (NameMap.alike_insert held ((agree v w).mp same)).indiscernible
  · intro r r' name v w known suppressed document held
    have ⟨v', known', same⟩ := Record.same_of_set suppressed
    cases known.symm.trans known'
    exact (NameMap.alike_insert held ((agree v w).mp same)).indiscernible

-- Integers and other numbers in an object in an array.
theorem assigning_the_same_is_unobservable_of_nested :
    let one : Value := .number (.double (.ofInt 1))
    let v : Value := .array [.ofList [("a", .ofInt 1), ("b", one)]]
    let w : Value := .array [.ofList [("a", one), ("b", .ofInt 1)]]
    let document : Fields := .ofList [("x", v)]
    let r : Record := { Record.empty with fields := document }
    v ≠ w ∧ v.equals w ∧ r.set "x" w = .ok (false, r) ∧
    document.Indiscernible (document.insert "x" w) := by
  intro one v w document r
  have held : document.get? "x" = some v := NameMap.get?_insert_self ..
  have same : v.same w := by decide +kernel
  have suppressed : r.set "x" w = .ok (false, r) := by
    rw [Record.set, if_neg (by decide), if_pos]
    exact (Option.any_eq_true _ _).mpr ⟨v, held, same⟩
  obtain ⟨agree, _, assigned⟩ := assigning_the_same_is_unobservable
  refine ⟨fun eq => ?_, (agree v w).mp same, suppressed, ?_⟩
  · have members :
        NameMap.ofList [("a", .ofInt 1), ("b", one)] = .ofList [("a", one), ("b", .ofInt 1)] := by
      injection eq with eq
      injection eq with eq
      injection eq
    have held := congrArg (·.get? "a") members
    simp [NameMap.ofList, NameMap.insertAll, NameMap.get?_insert, one, Value.ofInt, Number.ofInt,
      Number.ofInt?] at held
  · exact assigned r r "x" v w held suppressed document held

end RecordStore
