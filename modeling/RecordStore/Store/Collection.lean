import RecordStore.CollectionKind
import RecordStore.Id
import RecordStore.Index.Validity
import RecordStore.Selection

-- A collection of documents in the order of their insertion.
--
-- Every operation returns the collection as it is afterwards, also where it fails.

namespace RecordStore

structure Collection where
  kind : CollectionKind
  documents : List Fields
  indexes : List Index

namespace Index

-- Primary indexes are upheld by the keys of documents.
def isUnique (index : Index) : Bool := index.type != "primary" && index.hasOption "unique"

def isSparse (index : Index) : Bool := index.hasOption "sparse"

-- A sparse index leaves out the documents that lack one of its fields.
def covers (index : Index) (document : Fields) : Bool :=
  !(index.isSparse && index.fields.any fun f => (document.value f).equals .null)

def agreesOn (index : Index) (document other : Fields) : Bool :=
  index.fields.all fun f => (other.value f).equals (document.value f)

def admits (index : Index) (document : Fields) (others : List Fields) : Bool :=
  !(index.covers document && others.any (index.agreesOn document))

end Index

namespace Collection

def new (kind : CollectionKind) : Collection where
  kind := kind
  documents := []
  indexes :=
    (Index.new "primary" [keyAttribute]).setOption "unique" (.bool true) ::
      match kind with
      | .document => []
      | .edge => [Index.new "edge" [fromAttribute, toAttribute]]

def hasKey (document : Fields) (key : String) : Bool :=
  (document.get? keyAttribute).bind Value.string? == some key

def position? (c : Collection) (key : String) : Option Nat :=
  c.documents.findIdx? (hasKey · key)

def find? (c : Collection) (key : String) : Option Fields :=
  c.documents.find? (hasKey · key)

def isEndpoint (document : Fields) (attr : String) : Bool :=
  ((document.get? attr).bind Value.string?).any fun id => (Id.split? id).isSome

-- An edge has two ends, each of which is an id.
def checkEndpoints (c : Collection) (name : String) (document : Fields) : Except Error Unit :=
  if c.kind = .document then .ok ()
  else if !isEndpoint document fromAttribute then .error (.endpoint fromAttribute name)
  else if !isEndpoint document toAttribute then .error (.endpoint toAttribute name)
  else .ok ()

def isLegalKey (key : String) : Bool := !key.isEmpty && !key.toList.contains '/'

-- The key of a new document. One is generated for a document without a key.
def chooseKey (generated : String) (document : Fields) : Except Error String :=
  match document.get? keyAttribute with
  | none => .ok generated
  | some (.string key) =>
    if isLegalKey key then .ok key else .error (.illegalKey (.string key))
  | some other => .error (.illegalKey other)

-- The first unique index that does not admit the document beside the others.
def violated? (c : Collection) (document : Fields) (others : List Fields) : Option Index :=
  c.indexes.find? fun index => index.isUnique && !index.admits document others

def checkUnique (c : Collection) (name : String) (document : Fields) (others : List Fields) :
    Except Error Unit :=
  match c.violated? document others with
  | some index => .error (.notUnique name index.fields)
  | none => .ok ()

def identify (name key : String) (document : Fields) : Fields :=
  (document.insert keyAttribute (.string key)).insert idAttribute (.string (Id.of name key))

-- Answers with the document as it is stored, which is at the end of the collection.
def insert (c : Collection) (name generated : String) (document : Fields) :
    Except Error Fields × Collection :=
  match c.checkEndpoints name document with
  | .error e => (.error e, c)
  | .ok () =>
    match chooseKey generated document with
    | .error e => (.error e, c)
    | .ok key =>
      if (c.position? key).isSome then (.error (.documentAlreadyExists key name), c)
      else
        let stored := identify name key document
        match c.checkUnique name stored c.documents with
        | .error e => (.error e, c)
        | .ok () => (.ok stored, { c with documents := c.documents ++ [stored] })

-- A patch never changes the identity of a document.
def patched (document patch : Fields) : Fields :=
  document.override (patch.filter fun name _ => name != idAttribute && name != keyAttribute)

def update (c : Collection) (name key : String) (patch : Fields) : Except Error Unit × Collection :=
  match c.position? key, c.find? key with
  | some i, some document =>
    let document := patched document patch
    match c.checkUnique name document (c.documents.eraseIdx i) with
    | .error e => (.error e, c)
    | .ok () => (.ok (), { c with documents := c.documents.set i document })
  | _, _ => (.error (.documentNotFound key name), c)

def remove (c : Collection) (name key : String) : Except Error Unit × Collection :=
  match c.position? key with
  | some i => (.ok (), { c with documents := c.documents.eraseIdx i })
  | none => (.error (.documentNotFound key name), c)

-- An index that matches an existing one is not created again.
def createIndex (c : Collection) (index : Index) : Collection :=
  if c.indexes.any fun existing => existing.Matches index then c
  else { c with indexes := c.indexes ++ [index] }

end Collection

end RecordStore
