import RecordStore.Proofs.Declaration.FieldNames
import RecordStore.Proofs.Outcome

-- The items by which collections and their indexes are described: which of them are well-formed,
-- and what is wrong with the others.

namespace RecordStore

namespace Meta

open Declaration (ListsNames)

-- What is read from the items of this path, in their order.
def given (read : Meta → Option α) (path : String) (items : List Meta) : List α :=
  items.filterMap fun item => if item.path = path then read item else none

-- An option is set by its name alone, or by the boolean that follows it.
def flag? : Meta → Option Bool
  | mk _ none none => some true
  | mk _ none (some (.bool b)) => some b
  | _ => none

-- The options that an index can be given.
def optionNames : List String := ["unique", "sparse"]

inductive IsIndexItem : Meta → Prop
  | kind (type : String) : IsIndexItem (mk "kind" none (some (.string type)))
  | fields {text : String} {names : List String} (lists : ListsNames text names)
    (named : "" ∉ names) : IsIndexItem (mk "fields" none (some (.string text)))
  | flag {option : String} (mem : option ∈ optionNames) : IsIndexItem (mk option none none)
  | setting {option : String} (mem : option ∈ optionNames) (b : Bool) :
    IsIndexItem (mk option none (some (.bool b)))

inductive IndexFault : Meta → DeclarationError → Prop
  | unknown {item : Meta} (foreign : item.path ∉ "kind" :: "fields" :: optionNames) :
    IndexFault item .unknownIndexItem
  | unnamed {text : String} {names : List String} (lists : ListsNames text names)
    (unnamed : "" ∈ names) : IndexFault (mk "fields" none (some (.string text))) .emptyFieldName
  | noText {item : Meta} (path : item.path = "kind" ∨ item.path = "fields")
    (noText : item.string? = none) : IndexFault item .malformed
  | noFlag {item : Meta} (path : item.path ∈ optionNames) (noFlag : item.flag? = none) :
    IndexFault item .malformed

inductive IsItem : Meta → Prop
  | name {name : String} (named : name ≠ "") : IsItem (mk "name" none (some (.string name)))
  | edge : IsItem (mk "edge" none none)
  | index {items : List Meta} (formed : ∀ item ∈ items, item.IsIndexItem)
    (fields : ∃ item ∈ items, item.path = "fields") : IsItem (mk "index" (some items) none)

-- The items of an index are read before its end, and of them the first that is not well-formed
-- counts.
inductive Fault : Meta → DeclarationError → Prop
  | unknown {item : Meta} (foreign : item.path ∉ ["name", "edge", "index"]) :
    Fault item .unknownItem
  | unnamed : Fault (mk "name" none (some (.string ""))) .emptyName
  | noText {item : Meta} (path : item.path = "name") (noText : item.string? = none) :
    Fault item .malformed
  | notBare {item : Meta} (path : item.path = "edge") (notBare : ¬item.isBare) :
    Fault item .malformed
  | noItems {item : Meta} (path : item.path = "index")
    (noItems : item.nested = none ∨ item.nested = some []) : Fault item .malformed
  | inner {item bad : Meta} {before after : List Meta} {e : DeclarationError}
    (path : item.path = "index") (nested : item.nested = some (before ++ bad :: after))
    (formed : ∀ item ∈ before, item.IsIndexItem) (fault : bad.IndexFault e) : Fault item e
  | noFields {item : Meta} {items : List Meta} (path : item.path = "index")
    (nested : item.nested = some items) (ne : items ≠ [])
    (formed : ∀ item ∈ items, item.IsIndexItem)
    (noFields : ∀ item ∈ items, item.path ≠ "fields") : Fault item .missingFields
  | followed {item : Meta} {items : List Meta} (path : item.path = "index")
    (nested : item.nested = some items) (formed : ∀ item ∈ items, item.IsIndexItem)
    (fields : ∃ item ∈ items, item.path = "fields") (followed : item.value.isSome) :
    Fault item .malformed

variable {item : Meta} {items before : List Meta} {text path : String}

theorem eta (item : Meta) : mk item.path item.nested item.value = item := by
  cases item
  rfl

section

variable {read : Meta → Option α}

theorem mem_given_iff :
    a ∈ given read path items ↔ ∃ item ∈ items, item.path = path ∧ read item = some a := by
  simp [given]

theorem given_concat_of_ne (ne : item.path ≠ path) :
    given read path (items ++ [item]) = given read path items := by
  simp [given, ne]

theorem given_concat (same : item.path = path) (h : read item = some a) :
    given read path (items ++ [item]) = given read path items ++ [a] := by
  simp [given, same, h]

theorem getLast?_given_concat (same : item.path = path) (h : read item = some a) :
    (given read path (items ++ [item])).getLast? = some a := by
  rw [given_concat same h, List.getLast?_concat]

end

theorem exists_path_concat_iff :
    (∃ i ∈ items ++ [item], i.path = path) ↔ (∃ i ∈ items, i.path = path) ∨ item.path = path := by
  simp [or_and_right, exists_or]

theorem ne_of_mem_optionNames {option : String} (mem : option ∈ optionNames) :
    option ≠ "kind" ∧ option ≠ "fields" := by
  simp only [optionNames, List.mem_cons, List.not_mem_nil, or_false] at mem
  obtain rfl | rfl := mem <;> decide

theorem string?_eq_some_iff :
    item.string? = some text ↔ item = mk item.path none (some (.string text)) := by
  constructor
  · intro h
    unfold string? at h
    split at h <;> cases h
    rfl
  · intro h
    rw [h]
    rfl

theorem flag?_eq_some_iff {b : Bool} : item.flag? = some b ↔
    item = mk item.path none none ∧ b = true ∨ item = mk item.path none (some (.bool b)) := by
  constructor
  · intro h
    unfold flag? at h
    split at h <;> cases h
    · exact .inl ⟨rfl, rfl⟩
    · exact .inr rfl
  · rintro (⟨h, rfl⟩ | h) <;> rw [h] <;> rfl

theorem isBare_iff : item.isBare ↔ item = mk item.path none none := by
  constructor
  · intro h
    unfold isBare at h
    split at h <;> cases h
    rfl
  · intro h
    rw [h]
    rfl

theorem isIndexItem_or_fault (item : Meta) : item.IsIndexItem ∨ ∃ e, item.IndexFault e := by
  by_cases known : item.path ∈ "kind" :: "fields" :: optionNames
  case neg => exact .inr ⟨_, .unknown known⟩
  case pos =>
    by_cases option : item.path ∈ optionNames
    case pos =>
      cases flag : item.flag? with
      | none => exact .inr ⟨_, .noFlag option flag⟩
      | some b =>
        left
        obtain ⟨eq, _⟩ | eq := flag?_eq_some_iff.mp flag
        · exact eq ▸ .flag option
        · exact eq ▸ .setting option b
    case neg =>
      have path : item.path = "kind" ∨ item.path = "fields" := by simpa [option] using known
      cases string : item.string? with
      | none => exact .inr ⟨_, .noText path string⟩
      | some text =>
        rw [string?_eq_some_iff.mp string]
        obtain path | path := path <;> rw [path]
        · exact .inl (.kind text)
        · have lists : ListsNames text (Declaration.fieldNames text) :=
            Declaration.listsNames_iff.mpr rfl
          by_cases unnamed : "" ∈ Declaration.fieldNames text
          case pos => exact .inr ⟨_, .unnamed lists unnamed⟩
          case neg => exact .inl (.fields lists unnamed)

theorem isItem_or_fault (item : Meta) : item.IsItem ∨ ∃ e, item.Fault e := by
  by_cases known : item.path ∈ ["name", "edge", "index"]
  case neg => exact .inr ⟨_, .unknown known⟩
  case pos =>
    simp only [List.mem_cons, List.not_mem_nil, or_false] at known
    obtain path | path | path := known
    · cases string : item.string? with
      | none => exact .inr ⟨_, .noText path string⟩
      | some name =>
        rw [string?_eq_some_iff.mp string, path]
        by_cases unnamed : name = ""
        case pos => rw [unnamed]; exact .inr ⟨_, .unnamed⟩
        case neg => exact .inl (.name unnamed)
    · by_cases bare : item.isBare
      case neg => exact .inr ⟨_, .notBare path bare⟩
      case pos =>
        rw [isBare_iff.mp bare, path]
        exact .inl .edge
    · cases nested : item.nested with
      | none => exact .inr ⟨_, .noItems path (.inl nested)⟩
      | some items =>
        by_cases formed : ∀ item ∈ items, item.IsIndexItem
        case neg =>
          obtain ⟨before, bad, after, rfl, formed, malformed⟩ := exists_first_of_not_forall formed
          obtain ⟨e, fault⟩ := (isIndexItem_or_fault bad).resolve_left malformed
          exact .inr ⟨e, .inner path nested formed fault⟩
        case pos =>
          by_cases fields : ∃ item ∈ items, item.path = "fields"
          case neg =>
            by_cases empty : items = []
            case pos => exact .inr ⟨_, .noItems path (.inr (empty ▸ nested))⟩
            case neg =>
              push Not at fields
              exact .inr ⟨_, .noFields path nested empty formed fields⟩
          case pos =>
            cases value : item.value with
            | some v => exact .inr ⟨_, .followed path nested formed fields (by simp [value])⟩
            | none =>
              have eq : item = mk "index" (some items) none := by
                rw [← item.eta, path, nested, value]
              exact .inl (eq ▸ .index formed fields)

end Meta

end RecordStore
