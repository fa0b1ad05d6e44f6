import AdSearch.Value.Basic

/-!
# Projection

A projected record keeps the shape of the record but only the fields at the selected paths.  A path
that leads nowhere leaves no trace.
-/

namespace AdSearch

/-- The fields with a value at the end of a path; mappings on the way are made where none is. -/
def assign : List String → Value → List (String × Value) → List (String × Value)
  | [], _, fields => fields
  | [key], v, fields => Keyed.put key v fields
  | key :: path, v, fields =>
    let inner := match Keyed.get? key fields with
      | some (.record inner) => inner
      | _ => []
    Keyed.put key (.record (assign path v inner)) fields

/-- Copies the value at the end of a path, if there is one, from a record to fields. -/
def copyPath (r : Value) (path : String) (fields : List (String × Value)) :
    List (String × Value) :=
  match r.at? path with
  | some v => assign (Value.segments path) v fields
  | none => fields

/-- The record with only the fields at the paths. -/
def projectRecord (paths : List String) (r : Value) : Value :=
  .record (paths.foldl (fun fields path => copyPath r path fields) [])

/-- The records with only the fields at the paths. -/
def project (paths : List String) (records : List Value) : List Value :=
  records.map (projectRecord paths)

end AdSearch
