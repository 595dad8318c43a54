namespace RecordStore

-- The documents of an edge collection are edges between documents.
inductive CollectionKind where
  | document
  | edge
deriving DecidableEq, Inhabited

namespace CollectionKind

def name : CollectionKind → String
  | document => "document"
  | edge => "edge"

def ofName? : String → Option CollectionKind
  | "document" => some document
  | "edge" => some edge
  | _ => none

end CollectionKind

end RecordStore
