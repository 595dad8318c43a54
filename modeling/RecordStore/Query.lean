import RecordStore.Plan

-- Queries: what is asked of a store, both as a statement and as a text with bound values.
--
-- Neither values nor names of collections ever become part of the text.

namespace RecordStore

inductive Statement where
  | find (plan : Plan)
  | all (sorts : List SortKey)
  | document (id : String)
  | insert (document : Fields)
  | update (key : String) (patch : Fields)
  | remove (key : String)

def Statement.name : Statement → String
  | find .. => "find"
  | all .. => "all"
  | document .. => "document"
  | insert .. => "insert"
  | update .. => "update"
  | remove .. => "remove"

structure Query where
  text : String
  bindings : Fields
  collection : String
  statement : Statement

namespace Query

-- The text refers to this variable with one more `@` in front.
def collectionBinding : String := "@collection"

def filterText (f : Filter) : String :=
  let field := "doc." ++ f.field
  let bind := "@" ++ f.bind
  match f.operand with
  | .pattern p =>
    let negation := if f.operator = .notLike then "!" else ""
    let ignoreCase := if p.ignoreCase then "true" else "false"
    negation ++ "REGEX_TEST(" ++ field ++ ", " ++ bind ++ ", " ++ ignoreCase ++ ")"
  | .value _ =>
    if f.comparator.isReversed then bind ++ " " ++ f.operator.text ++ " " ++ field
    else field ++ " " ++ f.operator.text ++ " " ++ bind

def filtersText (plan : Plan) : String :=
  (" " ++ plan.connective.keyword ++ " ").intercalate (plan.filters.map filterText)

def sortText (key : SortKey) : String :=
  "doc." ++ key.field ++ " " ++ key.direction.keyword

def findLines (plan : Plan) : List String :=
  let sort :=
    if plan.sorts.isEmpty then [] else ["  SORT " ++ ", ".intercalate (plan.sorts.map sortText)]
  let limit := match plan.window with
    | some w => ["  LIMIT " ++ toString w.offset ++ ", " ++ toString w.count]
    | none => []
  ["FOR doc IN @@collection", "  FILTER " ++ filtersText plan] ++ sort ++ limit ++ ["  RETURN doc"]

def find (collection : String) (plan : Plan) : Query where
  text := "\n".intercalate (findLines plan)
  bindings :=
    (NameMap.ofList (plan.filters.map fun f => (f.bind, f.operand.toValue))).insert
      collectionBinding (.string collection)
  collection := collection
  statement := .find plan

-- Unlike in a plan, the names of sort fields are arbitrary, so that they are bound as well.
def sortBinding (position : Nat) : String := "field" ++ toString position

def boundSortText (key : SortKey) (position : Nat) : String :=
  "doc[@" ++ sortBinding position ++ "] " ++ key.direction.keyword

def all (collection : String) (sorts : List SortKey) : Query where
  text :=
    let sort :=
      if sorts.isEmpty then ""
      else " SORT " ++ ", ".intercalate (sorts.zipIdx.map fun (key, i) => boundSortText key i)
    "FOR doc IN @@collection" ++ sort ++ " RETURN doc"
  bindings :=
    NameMap.ofList ((collectionBinding, .string collection) ::
      sorts.zipIdx.map fun (key, i) => (sortBinding i, .string key.field))
  collection := collection
  statement := .all sorts

def document (collection id : String) : Query where
  text := "RETURN IS_SAME_COLLECTION(@collection, @id) && DOCUMENT(@id)"
  bindings := .ofList [("collection", .string collection), ("id", .string id)]
  collection := collection
  statement := .document id

def insert (collection : String) (document : Fields) : Query where
  text := "INSERT @document INTO @@collection RETURN NEW"
  bindings := .ofList [(collectionBinding, .string collection), ("document", .object document)]
  collection := collection
  statement := .insert document

def update (collection key : String) (patch : Fields) : Query where
  text := "UPDATE @key WITH @patch IN @@collection"
  bindings :=
    .ofList [(collectionBinding, .string collection), ("key", .string key),
      ("patch", .object patch)]
  collection := collection
  statement := .update key patch

def remove (collection key : String) : Query where
  text := "REMOVE @key IN @@collection"
  bindings := .ofList [(collectionBinding, .string collection), ("key", .string key)]
  collection := collection
  statement := .remove key

end Query

end RecordStore
