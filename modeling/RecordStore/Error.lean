import RecordStore.Comparator
import RecordStore.Index
import RecordStore.Value.Annotated

namespace RecordStore

-- The forms of names that can be read.
inductive NameForm where
  | finder
  | continuation
  | sorter
deriving DecidableEq

namespace NameForm

-- The expressions by which messages describe the forms.
def comparatorExpression : String :=
  "(?:Greater|Lesser)Than(?:OrEqual)?|(?:Not)?(?:Equal|Matching|Containing(?:OneOf)?)?"

def expression : NameForm → String
  | finder => "^findBy([_A-Z][0-9A-Za-z_]*?)(" ++ comparatorExpression ++ ")?$"
  | continuation => "^([0-9A-Za-z_]*?)(" ++ comparatorExpression ++ ")?$"
  | sorter => "^sortBy([_A-Z][0-9A-Za-z_]*?)(Asc|Desc)$"

end NameForm

inductive ErrorKind where
  | grammar
  | construction
  | mixedConnective
  | invalidBounds
  | invalidIndex
  | serialization
  | initialization
  | collectionNotFound
  | collectionAlreadyExists
  | documentAlreadyExists
  | documentNotFound
  | store
deriving DecidableEq

namespace ErrorKind

def name : ErrorKind → String
  | grammar => "Grammar"
  | construction => "Construction"
  | mixedConnective => "MixedConnective"
  | invalidBounds => "InvalidBounds"
  | invalidIndex => "InvalidIndex"
  | serialization => "Serialization"
  | initialization => "Initialization"
  | collectionNotFound => "CollectionNotFound"
  | collectionAlreadyExists => "CollectionAlreadyExists"
  | documentAlreadyExists => "DocumentAlreadyExists"
  | documentNotFound => "DocumentNotFound"
  | store => "Store"

-- What the texts of all errors of a kind begin with.
def label : ErrorKind → String
  | grammar => "Grammar error: "
  | construction => "Construction error: "
  | mixedConnective => ""
  | invalidBounds => "Invalid bounds: "
  | invalidIndex => "Invalid index: "
  | serialization => "Serialization error: "
  | initialization => "Initialization error: "
  | collectionNotFound => "Collection not found: "
  | collectionAlreadyExists => "Collection already exists: "
  | documentAlreadyExists => ""
  | documentNotFound => ""
  | store => "Store error: "

end ErrorKind

-- The kinds of errors that hooks and stores raise on their own account.
inductive RaisedKind where
  | grammar
  | construction
  | serialization
  | initialization
  | store
deriving DecidableEq

def RaisedKind.kind : RaisedKind → ErrorKind
  | grammar => .grammar
  | construction => .construction
  | serialization => .serialization
  | initialization => .initialization
  | store => .store

-- A name that is none of these stands for an error of the store.
def RaisedKind.ofName (name : String) : RaisedKind :=
  ([grammar, construction, serialization, initialization].find? (·.kind.name == name)).getD store

inductive Error where
  -- Names.
  | malformedName (form : NameForm) (name : String)
  | missingField (name : String)
  | valueCount (comparator : Comparator)
  -- References, identities and fields.
  | foreignId (collection id : String)
  | missingReference
  | missingId
  | idOfOtherCollection (collection id : String)
  | malformedReference (collection reference : String)
  | referenceType (type : String)
  | attributeType (name type : String)
  | reservedField (field : String)
  -- Plans.
  | mixedConnective
  | negativeStart (start : Int)
  | emptySlice (start stop : Int)
  -- Indexes.
  | emptyIndexType (index : Index)
  | emptyIndexFields (fields : List String)
  | missingMember (name : String)
  | memberType (name : String)
  -- Stores.
  | collectionNotFound (collection : String)
  | collectionAlreadyExists (collection : String)
  | documentAlreadyExists (key collection : String)
  | documentNotFound (key collection : String)
  | endpoint (name collection : String)
  | illegalKey (key : Value)
  | notUnique (collection : String) (fields : List String)
  | patternType (field : String) (value : Value)
  | invalidPattern (source : String)
  -- Replies of stores.
  | replyWithoutId (collection : String)
  | missingReply (collection : String)
  | replyType (collection type : String)
  | documentType (id type : String)
  -- Hooks and stores.
  | raised (kind : RaisedKind) (text : String)

namespace Error

def kind : Error → ErrorKind
  | malformedName .. | missingField .. | valueCount .. => .grammar
  | foreignId .. | missingReference | missingId | idOfOtherCollection .. | malformedReference ..
  | referenceType .. | attributeType .. | reservedField .. => .construction
  | mixedConnective => .mixedConnective
  | negativeStart .. | emptySlice .. => .invalidBounds
  | emptyIndexType .. | emptyIndexFields .. => .invalidIndex
  | missingMember .. | memberType .. => .serialization
  | collectionNotFound .. => .collectionNotFound
  | collectionAlreadyExists .. => .collectionAlreadyExists
  | documentAlreadyExists .. => .documentAlreadyExists
  | documentNotFound .. => .documentNotFound
  | endpoint .. | illegalKey .. | notUnique .. | patternType .. | invalidPattern ..
  | replyWithoutId .. | missingReply .. | replyType .. | documentType .. => .store
  | raised k _ => k.kind

def indexText (index : Index) : String :=
  "IndexDescriptor \x7b kind: " ++ annotatedString index.type
    ++ ", fields: " ++ annotatedStrings index.fields
    ++ ", options: " ++ annotatedMap (Value.annotatedMembers index.options.values) ++ " \x7d"

def detail : Error → String
  | malformedName .finder name =>
    "method name doesn't match query pattern " ++ NameForm.finder.expression
      ++ ". Actual: \"" ++ name ++ "\""
  | malformedName .continuation name =>
    "filter name doesn't match pattern " ++ NameForm.continuation.expression
      ++ ". Actual: \"" ++ name ++ "\""
  | malformedName .sorter name =>
    "method name doesn't match sort pattern " ++ NameForm.sorter.expression
      ++ ". Actual: \"" ++ name ++ "\""
  | missingField name => "missing field in method name \"" ++ name ++ "\""
  | valueCount c => "cannot compare to multiple values with comparator \"" ++ c.text ++ "\""
  | foreignId collection id =>
    "id must match the pattern \"" ++ collection ++ "/<key>\". Actual: \"" ++ id ++ "\""
  | missingReference => "id or key must be provided"
  | missingId => "id must be provided"
  | idOfOtherCollection collection id =>
    "id must be from \"" ++ collection ++ "\" collection. Actual: \"" ++ id ++ "\""
  | malformedReference collection reference =>
    "string type \"ref\" argument should match the pattern \"" ++ collection
      ++ "/<string>\". actual: \"" ++ reference ++ "\""
  | referenceType type =>
    "\"ref\" argument type could only be one of string, object. actual: " ++ type
  | attributeType name type => "\"" ++ name ++ "\" must be a string. Actual: " ++ type
  | reservedField field => "cannot assign reserved field \"" ++ field ++ "\""
  | mixedConnective => "cannot mix logical operators \"and\" and \"or\""
  | negativeStart start => "\"start\" argument must be positive. Actual: " ++ toString start
  | emptySlice start stop =>
    "\"end\" must be greater than \"start\". start: " ++ toString start ++ ", end: " ++
      toString stop
  | emptyIndexType index =>
    "index.type must be a non-empty string. Actual: " ++ indexText index
  | emptyIndexFields fields =>
    "index.fields must be a non-empty array of field names. Actual: " ++ annotatedStrings fields
  | missingMember name => "missing field `" ++ name ++ "`"
  | memberType name => "invalid type for field `" ++ name ++ "`"
  | collectionNotFound collection => collection
  | collectionAlreadyExists collection => collection
  | documentAlreadyExists key collection =>
    "Document " ++ key ++ " already exists in collection " ++ collection
  | documentNotFound key collection =>
    "Document not found " ++ key ++ " in collection " ++ collection
  | endpoint name collection =>
    "edge attribute " ++ name ++ " is missing or invalid in collection " ++ collection
  | illegalKey key => "illegal document key " ++ key.text
  | notUnique collection fields =>
    "unique constraint violated on " ++ collection ++ " index " ++ annotatedStrings fields
  | patternType field value =>
    "regular expression for " ++ field ++ " must be a string. Actual: " ++ value.text
  | invalidPattern source => "invalid regular expression \"" ++ source ++ "\""
  | replyWithoutId collection => "document of collection " ++ collection ++ " has no _id"
  | missingReply collection => "insert into " ++ collection ++ " returned no document"
  | replyType collection type =>
    "insert into " ++ collection ++ " returned " ++ type ++ " instead of a document"
  | documentType id type => "expected a document for " ++ id ++ ", got " ++ type
  | raised _ text => text

def message (e : Error) : String := e.kind.label ++ e.detail

end Error

end RecordStore
