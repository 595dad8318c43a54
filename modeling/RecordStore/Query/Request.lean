import RecordStore.Plan.Call
import RecordStore.Query

namespace RecordStore

inductive Request where
  | find (calls : List Plan.Call)
  | all (sorts : List SortKey)
  | document (id : String)
  | insert (document : Fields)
  | update (key : String) (patch : Fields)
  | remove (key : String)

-- There is no query if calls for a plan do not start one.
def Request.query? (collection : String) : Request → Option (Except Error Query)
  | .find calls => (Plan.build? none calls).map fun plan => plan.map (Query.find collection)
  | .all sorts => some (.ok (.all collection sorts))
  | .document id => some (.ok (.document collection id))
  | .insert fields => some (.ok (.insert collection fields))
  | .update key patch => some (.ok (.update collection key patch))
  | .remove key => some (.ok (.remove collection key))

end RecordStore
