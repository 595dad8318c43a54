import RecordStore.Proofs.Record.Saving

-- What saving a record sends: at most one query, and none if there is nothing to be written. Right
-- after a save that succeeds there is nothing left to be written.

namespace RecordStore

-- A connector that notes the queries and has no replies of its own answers as the one behind it.
theorem Scripted.query_eq (conn : Connector σ) (q : Query) (s : σ) (sent : List Query) :
    (Scripted.connector conn).query q ⟨s, [], sent⟩ =
      ((conn.query q s).1, ⟨(conn.query q s).2, [], sent ++ [q]⟩) :=
  rfl

namespace Record

variable {schema : Schema} {conn : Connector σ} {r r' : Record} {s s' : σ} {diff : Fields}

theorem save_of_error {e : Error} (hook : schema.beforeSave r r.diff = .error e)
    (conn : Connector σ) (s : σ) : r.save schema conn s = (.error e, r, s) := by
  simp [save, hook]

theorem save_of_isEmpty (hook : schema.beforeSave r r.diff = .ok diff) (empty : diff.isEmpty)
    (conn : Connector σ) (s : σ) : r.save schema conn s = (.ok (), r, s) := by
  simp [save, hook, empty]

-- The query that writes a difference.
def writing (schema : Schema) (r : Record) (diff : Fields) : Query :=
  match r.identity with
  | none => .insert schema.name diff
  | some identity => .update schema.name identity.key diff

-- What the answer to this query makes of the record.
def answered (schema : Schema) (r : Record) (diff : Fields) (answer : Except Error Cursor) :
    Except Error Unit × Record :=
  match r.identity with
  | none =>
    match documentOf schema answer with
    | .error e => (.error e, r)
    | .ok document =>
      match r.adopt schema document with
      | (.ok (), r') => (.ok (), r'.written diff)
      | (.error e, r') => (.error e, r')
  | some _ =>
    match answer.bind Cursor.toList with
    | .error e => (.error e, r)
    | .ok _ => (.ok (), r.written diff)

-- Where there is something to be written, a save is one query.
theorem save_eq_answered (hook : schema.beforeSave r r.diff = .ok diff) (nonempty : ¬diff.isEmpty)
    (conn : Connector σ) (s : σ) :
    r.save schema conn s =
      let (answer, s') := conn.query (r.writing schema diff) s
      let (result, r') := r.answered schema diff answer
      (result, r', s') := by
  rcases sent : conn.query (r.writing schema diff) s with ⟨answer, s'⟩
  unfold writing at sent
  cases identified : r.identity with
  | none =>
    have no_key : r.key? = none := by simp [key?, identified]
    simp only [identified] at sent
    simp only [save, hook, if_neg nonempty, no_key, insertInto_eq, sent, answered, identified]
    rcases documentOf schema answer with _ | document
    case error => rfl
    case ok =>
      dsimp only
      rcases r.adopt schema document with ⟨_ | ⟨⟩, _⟩ <;> rfl
  | some identity =>
    have has_key : r.key? = some identity.key := by simp [key?, identified]
    simp only [identified] at sent
    simp only [save, hook, if_neg nonempty, has_key, updateIn, sent, answered, identified]
    rcases answer with _ | cursor
    case error => rfl
    case ok =>
      dsimp only [Except.bind]
      rcases cursor.toList with _ | _ <;> rfl

theorem diff_of_clean (identified : r.isIdentified) (clean : r.dirty = ∅) : r.diff = ∅ := by
  refine NameMap.ext_get? fun name => ?_
  rw [diff, if_pos identified, changes, NameMap.get?_filter, clean]
  cases r.fields.get? name <;> rfl

-- A save that succeeds has either written nothing, or nothing is left to be written.
theorem save_eq_ok (h : r.save schema conn s = (.ok (), r', s')) :
    (r' = r ∧ ∃ diff, schema.beforeSave r r.diff = .ok diff ∧ diff.isEmpty) ∨ r'.diff = ∅ := by
  have saved := r.saved schema conn s
  rw [h] at saved
  cases saved with
  | skipped hook empty => exact .inl ⟨rfl, _, hook, empty⟩
  | updated _ _ identified =>
    exact .inr (diff_of_clean (by simp [written, isIdentified, identified]) rfl)
  | inserted _ _ _ _ _ adopted =>
    obtain ⟨_, identity, _, _, eq, _⟩ := adopt_eq_ok adopted
    exact .inr (diff_of_clean (by simp [written, isIdentified, eq]) rfl)

-- A save sends at most one query: an insertion or an update by the record's key, and none if the
-- hook leaves nothing to be written. Right after a save that succeeds, another one sends nothing
-- and changes nothing, provided that the hook has nothing to write where nothing has changed.
theorem save_sends_once (schema : Schema) (conn : Connector σ) (r : Record) (s : σ) :
    let outcome := r.save schema conn s
    let noted := r.save schema (Scripted.connector conn) ⟨s, [], []⟩
    (noted.1 = outcome.1 ∧ noted.2.1 = outcome.2.1 ∧ noted.2.2.state = outcome.2.2) ∧
    (noted.2.2.sent = match schema.beforeSave r r.diff with
      | .error _ => []
      | .ok diff =>
        if diff.isEmpty then []
        else match r.identity with
          | none => [.insert schema.name diff]
          | some identity => [.update schema.name identity.key diff]) ∧
    (outcome.1 = .ok () → schema.beforeSave outcome.2.1 ∅ = .ok ∅ → ∀ w : Scripted σ,
      outcome.2.1.save schema (Scripted.connector conn) w = (.ok (), outcome.2.1, w)) := by
  intro outcome noted
  refine ⟨?_, ?_, fun ok quiet w => ?_⟩
  · cases hook : schema.beforeSave r r.diff with
    | error e => simp [outcome, noted, save_of_error hook]
    | ok diff =>
      by_cases empty : diff.isEmpty
      case pos => simp [outcome, noted, save_of_isEmpty hook empty]
      case neg => simp [outcome, noted, save_eq_answered hook empty, Scripted.query_eq]
  · cases hook : schema.beforeSave r r.diff with
    | error e => simp [noted, save_of_error hook]
    | ok diff =>
      by_cases empty : diff.isEmpty
      case pos => simp [noted, save_of_isEmpty hook empty, empty]
      case neg =>
        simp only [noted, save_eq_answered hook empty, Scripted.query_eq, List.nil_append,
          if_neg empty, writing]
        cases r.identity <;> rfl
  · rcases saved : outcome with ⟨result, r', s'⟩
    rw [saved] at ok quiet
    cases ok
    rcases save_eq_ok saved with ⟨rfl, diff, hook, empty⟩ | clean
    · exact save_of_isEmpty hook empty _ w
    · have hook : schema.beforeSave r' r'.diff = .ok ∅ := by rw [clean]; exact quiet
      exact save_of_isEmpty hook rfl _ w

-- The hook keeps one of the fields back, so that only the other one is sent.
theorem save_sends_once_of_insert :
    let conn := Store.connector ⟨fun _ => "k", fun _ => none⟩
    let schema : Schema := ⟨"a", .document, [], fun _ diff => .ok (diff.erase "secret")⟩
    let store := (conn.createCollection "a" .document .empty).2
    ∃ r, ofReference schema (.fields (.ofList [("secret", .null), ("x", .null)])) = .ok r ∧
      let noted := r.save schema (Scripted.connector conn) ⟨store, [], []⟩
      noted.1.isOk ∧ noted.2.2.sent = [.insert "a" (.ofList [("x", .null)])] ∧
        noted.2.1.save schema (Scripted.connector conn) noted.2.2 =
          (.ok (), noted.2.1, noted.2.2) := by
  intro conn schema store
  refine ⟨_, rfl, ?_⟩
  have once := save_sends_once schema conn
  obtain ⟨⟨result_eq, record_eq, _⟩, sent, again⟩ := once _ store
  refine ⟨by decide +kernel, by rw [sent]; rfl, ?_⟩
  rw [record_eq]
  exact again (eq_ok_of_isOk (by decide +kernel)) rfl _

end Record
end RecordStore
