import RecordStore.Proofs.Id
import RecordStore.Proofs.Store.Reachable

-- The ends of edges: what is inserted into a collection of edges has both of them, but an update
-- may take them away.

namespace RecordStore

-- A word and a key that is not empty, with a slash between them.
def Value.IsId (v : Value) : Prop :=
  ∃ name key, v = .string (name ++ "/" ++ key) ∧ Id.isWord name.toList ∧ key ≠ ""

namespace Collection

-- The attributes that hold the ends of an edge.
def endpointAttributes : List String := [fromAttribute, toAttribute]

def HasEndpoints (document : Fields) : Prop :=
  ∀ attr ∈ endpointAttributes, ∃ v, document.get? attr = some v ∧ v.IsId

-- The ends of a collection's edges are ids, apart from those that have been given to them besides.
def EndsFrom (given : String → Value → Prop) (c : Collection) : Prop :=
  c.kind = .edge → ∀ document ∈ c.documents, ∀ attr ∈ endpointAttributes,
    ∃ v, document.get? attr = some v ∧ (v.IsId ∨ given attr v)

variable {c c' : Collection} {name key generated attr : String} {document stored patch : Fields}
  {given : String → Value → Prop}

theorem isEndpoint_iff :
    isEndpoint document attr ↔ ∃ v, document.get? attr = some v ∧ v.IsId := by
  rw [isEndpoint, Option.any_eq_true]
  constructor
  · rintro ⟨id, found, split⟩
    obtain ⟨v, held, eq⟩ := Option.bind_eq_some_iff.mp found
    obtain ⟨⟨name, key⟩, split⟩ := Option.isSome_iff_exists.mp split
    obtain ⟨rfl, legal⟩ := Id.split?_eq_some_iff.mp split
    cases v <;> cases eq
    exact ⟨_, held, name, key, rfl, legal⟩
  · rintro ⟨_, held, name, key, rfl, word, key_ne⟩
    refine ⟨name ++ "/" ++ key, by simp [held, Value.string?], ?_⟩
    have split : Id.split? (Id.of name key) = some (name, key) := Id.split?_of word key_ne
    exact Option.isSome_iff_exists.mpr ⟨_, split⟩

theorem hasEndpoints_of_checkEndpoints (edge : c.kind = .edge)
    (h : c.checkEndpoints name document = .ok ()) : HasEndpoints document := by
  unfold checkEndpoints at h
  simp only [edge, reduceCtorEq, if_false] at h
  split at h
  case isTrue => cases h
  case isFalse has_from =>
    split at h
    case isTrue => cases h
    case isFalse has_to =>
      simp only [HasEndpoints, endpointAttributes, List.forall_mem_cons, ← isEndpoint_iff]
      simpa using And.intro has_from has_to

theorem ne_of_endpoint (mem : attr ∈ endpointAttributes) :
    attr ≠ idAttribute ∧ attr ≠ keyAttribute := by
  revert attr
  decide

theorem EndsFrom.insert (ends : c.EndsFrom given)
    (h : c.insert name generated document = (.ok stored, c')) : c'.EndsFrom given := by
  have ⟨endpoints, key, _, _, stored_eq, _, eq⟩ := insert_eq_ok h
  subst eq stored_eq
  intro edge other mem attr is_end
  rcases List.mem_append.mp mem with mem | mem
  · exact ends edge other mem attr is_end
  · have ⟨ne_id, ne_key⟩ := ne_of_endpoint is_end
    have ⟨v, held, isId⟩ := hasEndpoints_of_checkEndpoints edge endpoints attr is_end
    rw [List.mem_singleton.mp mem, get?_identify_of_ne name key document ne_id ne_key]
    exact ⟨v, held, .inl isId⟩

theorem EndsFrom.remove (ends : c.EndsFrom given) (h : c.remove name key = (.ok (), c')) :
    c'.EndsFrom given := by
  have ⟨i, _, eq⟩ := remove_eq_ok h
  subst eq
  exact fun edge other mem => ends edge other ((List.eraseIdx_sublist _ i).subset mem)

theorem EndsFrom.createIndex (ends : c.EndsFrom given) (index : Index) :
    (c.createIndex index).EndsFrom given := by
  unfold Collection.createIndex
  split <;> exact ends

-- A patch that has an end decides about it, whatever it is.
theorem get?_patched_endpoint (mem : attr ∈ endpointAttributes) :
    (patched document patch).get? attr = (patch.get? attr).or (document.get? attr) := by
  have ⟨ne_id, ne_key⟩ := ne_of_endpoint mem
  simp [get?_patched, ne_id, ne_key]

theorem EndsFrom.update (ends : c.EndsFrom given) (h : c.update name key patch = (.ok (), c'))
    (patch_ends : c.kind = .edge → ∀ attr ∈ endpointAttributes, ∀ v, patch.get? attr = some v →
      v.IsId ∨ given attr v) : c'.EndsFrom given := by
  have ⟨i, document, _, held, _, eq⟩ := update_eq_ok h
  subst eq
  intro edge other mem attr is_end
  rcases List.mem_or_eq_of_mem_set mem with mem | rfl
  · exact ends edge other mem attr is_end
  · rw [get?_patched_endpoint is_end]
    cases patch_held : patch.get? attr with
    | none => simpa using ends edge document (List.mem_of_getElem? held) attr is_end
    | some v => exact ⟨v, rfl, patch_ends edge attr is_end v patch_held⟩

-- A document that is updated has the ends that the patch has.
theorem exists_of_update (h : c.update name key patch = (.ok (), c'))
    (is_end : attr ∈ endpointAttributes)
    (patch_held : patch.get? attr = some v) :
    ∃ document ∈ c'.documents, document.get? attr = some v := by
  have ⟨i, document, _, held, _, eq⟩ := update_eq_ok h
  subst eq
  have ⟨lt, _⟩ := List.getElem?_eq_some_iff.mp held
  refine ⟨patched document patch, List.mem_iff_getElem.mpr ⟨i, by simpa using lt, by simp⟩, ?_⟩
  rw [get?_patched_endpoint is_end, patch_held, Option.some_or]

theorem endsFrom_preserved (given : String → String → Value → Prop) :
    Store.PreservedWithoutUpdates fun name c => c.EndsFrom (given name) where
  new _ _ mem := nomatch mem
  insert ends _ h := ends.insert h
  remove ends h := ends.remove h
  createIndex ends _ := ends.createIndex _

end Collection

namespace Store

-- An update that gives an edge of a collection an end that is not an id. Nothing keeps
-- it from being made.
def Detaches (store : Store) (op : Operation) (name attr : String) (v : Value) : Prop :=
  ∃ patch c c', Updates store op name patch c c' ∧ c.kind = .edge ∧
    (attr = "_from" ∨ attr = "_to") ∧ patch.get? attr = some v ∧ ¬v.IsId

-- Every document of every collection of edges has both ends.
def EdgesJoined (store : Store) : Prop :=
  ∀ name c, store.collections.get? name = some c → c.kind = .edge → ∀ document ∈ c.documents,
    (∃ v, document.get? "_from" = some v ∧ v.IsId) ∧ ∃ v, document.get? "_to" = some v ∧ v.IsId

variable {store : Store} {env : Environment} {op : Operation} {name attr : String} {v : Value}
  {given : String → String → Value → Prop}

theorem mem_endpointAttributes_iff :
    attr ∈ Collection.endpointAttributes ↔ attr = "_from" ∨ attr = "_to" := by
  simp [Collection.endpointAttributes, fromAttribute, toAttribute]

theorem edgesJoined_iff :
    store.EdgesJoined ↔ store.All fun _ c => c.EndsFrom fun _ _ => False := by
  simp [EdgesJoined, All, Collection.EndsFrom, mem_endpointAttributes_iff]

theorem endsFrom_after (legal : ∀ n, LegalKey (env.key n))
    (ends : store.All fun name c => c.EndsFrom (given name))
    (detached : ∀ name attr v, store.Detaches op name attr v → given name attr v) :
    (store.after env op).All fun name c => c.EndsFrom (given name) := by
  refine (Collection.endsFrom_preserved given).after legal ends op fun name patch c c' u ends => ?_
  have patch_ends (edge : c.kind = .edge) (attr) (is_end : attr ∈ Collection.endpointAttributes) (v)
      (patch_held : patch.get? attr = some v) : v.IsId ∨ given name attr v := by
    refine Classical.or_iff_not_imp_left.mpr fun not_id => detached name attr v ?_
    exact ⟨patch, c, c', u, edge, mem_endpointAttributes_iff.mp is_end, patch_held, not_id⟩
  cases u with
  | query _ _ updated => exact ends.update updated patch_ends

-- By induction on the operations: an end that is not an id has been given by an update among them.
theorem endsFrom_run (legal : ∀ n, LegalKey (env.key n))
    (ends : store.All fun name c => c.EndsFrom (given name)) (ops : List Operation)
    (detached : ∀ before op after, ops = before ++ op :: after → ∀ name attr v,
      (before.foldl (Store.after env) store).Detaches op name attr v → given name attr v) :
    (ops.foldl (Store.after env) store).All fun name c => c.EndsFrom (given name) := by
  induction ops generalizing store with
  | nil => exact ends
  | cons op ops ih =>
    have ends' := endsFrom_after legal ends (detached [] op ops rfl)
    exact ih ends' fun before op' after eq => detached (op :: before) op' after (by rw [eq]; rfl)

-- No such update goes without an effect.
theorem Detaches.not_edgesJoined (h : store.Detaches op name attr v) (env : Environment) :
    ¬(store.after env op).EdgesJoined := by
  intro joined
  obtain ⟨patch, c, c', u, edge, is_end, patch_held, not_id⟩ := h
  have held := u.held env
  have is_end := mem_endpointAttributes_iff.mpr is_end
  cases u with
  | query _ _ updated =>
    obtain ⟨document, mem, document_held⟩ := Collection.exists_of_update updated is_end patch_held
    have ⟨_, _, _, _, _, eq⟩ := Collection.update_eq_ok updated
    have ⟨v', held', isId⟩ :=
      edgesJoined_iff.mp joined _ c' held (by rw [eq]; exact edge) document mem
      attr is_end
    cases document_held.symm.trans held'
    exact not_id (isId.resolve_right id)

-- Along a run, all edges have both ends at any time if and only if no update gives one an end that
-- is not an id. All other ends are ids even then.
theorem ends_are_ids_unless_updated (legal : ∀ n, LegalKey (env.key n)) (ops : List Operation) :
    ((∀ before after, ops = before ++ after → (before.foldl (Store.after env) .empty).EdgesJoined) ↔
      ∀ before op after, ops = before ++ op :: after → ∀ name attr v,
        ¬(before.foldl (Store.after env) .empty).Detaches op name attr v) ∧
    ∀ name c, (ops.foldl (Store.after env) .empty).collections.get? name = some c → c.kind = .edge →
      ∀ document ∈ c.documents, ∀ attr, attr = "_from" ∨ attr = "_to" →
        ∃ v, document.get? attr = some v ∧
          (v.IsId ∨ ∃ before op after, ops = before ++ op :: after ∧
            (before.foldl (Store.after env) .empty).Detaches op name attr v) := by
  refine ⟨⟨fun joined before op after eq name attr v detaches => ?_,
    fun attached before after eq => ?_⟩, fun name c held edge document mem attr is_end => ?_⟩
  · have joined_after := joined (before ++ [op]) after (by rw [eq, List.append_assoc]; rfl)
    rw [List.foldl_append] at joined_after
    exact detaches.not_edgesJoined env joined_after
  · refine edgesJoined_iff.mpr <| endsFrom_run legal all_empty before fun start op rest eq' => ?_
    exact attached start op (rest ++ after) (by rw [eq, eq', List.append_assoc]; rfl)
  · let given (name attr : String) (v : Value) : Prop := ∃ before op after,
      ops = before ++ op :: after ∧ (before.foldl (Store.after env) .empty).Detaches op name attr v
    have ends : (ops.foldl (Store.after env) .empty).All fun name c => c.EndsFrom (given name) :=
      endsFrom_run legal all_empty ops fun before op after eq _ _ _ detaches =>
        ⟨before, op, after, eq, detaches⟩
    exact ends name c held edge document mem attr (mem_endpointAttributes_iff.mpr is_end)

-- Of three edges, one is rejected, one gets another end that is an id, and one gets an
-- end that is `null`.
theorem ends_are_ids_unless_updated_of_mixed :
    let env : Environment := ⟨fun _ => "k", fun _ => none⟩
    let edge := fun key source : String =>
      NameMap.ofList [("_key", .string key), ("_from", .string source), ("_to", .string "a/2")]
    let ops := [
      Operation.createCollection "e" .edge,
      .importDocuments "e" [edge "l" "a/1", edge "m" "a", edge "n" "a/1"],
      .query (.update "e" "l" (.ofList [("_from", .string "b/3"), ("_id", .null)])),
      .query (.update "e" "n" (.ofList [("_from", .null)]))]
    ∃ c, (ops.foldl (Store.after env) .empty).collections.get? "e" = some c ∧
      c.documents.length = 2 ∧
      ∃ document ∈ c.documents, document.get? "_from" = some .null ∧
        ∃ before op after, ops = before ++ op :: after ∧
          (before.foldl (Store.after env) .empty).Detaches op "e" "_from" .null := by
  intro env edge ops
  have legal : ∀ n, LegalKey (env.key n) := fun _ => by simp [env, LegalKey]
  have shape : ((ops.foldl (Store.after env) .empty).collections.get? "e").map (fun c =>
      (c.kind, c.documents.map fun document => (document.get? "_from").map Value.typeName)) =
        some (.edge, [some "string", some "null"]) := by decide +kernel
  obtain ⟨c, held, shape⟩ := Option.map_eq_some_iff.mp shape
  obtain ⟨kind, types⟩ := Prod.mk.inj shape
  have length : c.documents.length = 2 := by simpa using congrArg List.length types
  obtain ⟨document, mem, type⟩ : ∃ document ∈ c.documents,
      (document.get? "_from").map Value.typeName = some "null" := by
    rw [← List.mem_map, types]
    decide
  obtain ⟨v, document_held, origin⟩ :=
    (ends_are_ids_unless_updated legal ops).2 "e" c held kind document mem "_from" (.inl rfl)
  rw [document_held] at type
  have null : v = .null := by cases v <;> simp [Value.typeName] at type ⊢
  subst null
  have not_id : ¬Value.null.IsId := by
    rintro ⟨_, _, eq, _⟩
    cases eq
  exact ⟨c, held, length, document, mem, document_held, origin.resolve_left not_id⟩

-- What an insertion rejects, an update stores.
theorem not_edgesJoined_of_update :
    let store := [
      Operation.createCollection "e" .edge,
      .query (.insert "e" (.ofList [("_from", .string "a/1"), ("_to", .string "a/2")])),
      .query (.update "e" "k" (.ofList [("_from", .null)]))].foldl
        (Store.after ⟨fun _ => "k", fun _ => none⟩) .empty
    ¬store.EdgesJoined := by
  intro store joined
  have shape : (store.collections.get? "e").map (fun c =>
      (c.kind, c.documents.map fun document =>
        ((document.get? "_from").bind Value.string?).isSome)) =
        some (.edge, [false]) := by decide +kernel
  obtain ⟨c, held, shape⟩ := Option.map_eq_some_iff.mp shape
  obtain ⟨kind, none⟩ := Prod.mk.inj shape
  obtain ⟨document, mem, none⟩ : ∃ document ∈ c.documents,
      ((document.get? "_from").bind Value.string?).isSome = false := by
    rw [← List.mem_map, none]
    decide
  obtain ⟨⟨v, document_held, _, _, rfl, _⟩, _⟩ := joined "e" c held kind document mem
  simp [document_held, Value.string?] at none

end Store
end RecordStore
