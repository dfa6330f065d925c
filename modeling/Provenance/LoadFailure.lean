import Provenance.Relation.Basic

/-!
# Failed loads

Why a document could not be loaded.  Everything after loading cannot fail.
-/

namespace Provenance

/-- Why a document could not be loaded. -/
inductive LoadFailure where
  | fetch (url message : String)
  | http (status : Nat) (url : String)
  | body (url message : String)
  | parse (url : String) (fault : Json.Fault)

/-- The report of a failed load. -/
def LoadFailure.message : LoadFailure → String
  | fetch url message => "request for " ++ url ++ " failed: " ++ message
  | http status url => "HTTP " ++ toString status ++ " while loading " ++ url
  | body url message => "could not read the body of " ++ url ++ ": " ++ message
  | parse url fault => url ++ " is not a valid relation list: " ++ fault.message

/-- The two documents: relations between tables and relations between fields. -/
structure Documents where
  tables : List RawRelation
  fields : List RawRelation

/-- Read a document that came from an address. -/
def parseDocument (url text : String) : Except LoadFailure (List RawRelation) :=
  (RawRelation.parseList text).mapError (LoadFailure.parse url)

end Provenance
