import ChatFlow.Store.Basic
import ChatFlow.Disk.Document
import ChatFlow.Json.Writer
import ChatFlow.Log

/-!
# Stored values on disk

The values of users and the values for everybody are one JSON file each. A file that cannot be read
or has another form than expected counts as empty and is noted.

* `Store.load` — the store of a data directory;
* `Store.save` — one collection written.
-/

namespace ChatFlow

namespace Collection

/-- The name of a collection in notes. -/
def name : Collection → String
  | .users => "users"
  | .globals => "globals"

/-- The file of a collection. -/
def file : Collection → String
  | .users => "user_data.json"
  | .globals => "global_data.json"

/-- The file a collection is first written to. -/
def draft : Collection → String
  | .users => "user_data.tmp"
  | .globals => "global_data.tmp"

end Collection

namespace Store

/-- A collection as a document. -/
def document (s : Store) : Collection → Value
  | .users => .object (s.users.map fun entry => (entry.1, .object entry.2))
  | .globals => .object s.globals

/-- The records of a document of users; other entries are passed over. -/
def usersOf (entries : Table Value) : Table (Table Value) :=
  entries.filterMap fun entry => match entry.2 with
    | .object record => some (entry.1, record)
    | _ => none

/-- The store with a collection taken from a document. -/
def adopt (s : Store) (entries : Table Value) : Collection → Store
  | .users => { s with users := usersOf entries }
  | .globals => { s with globals := entries }

/-- The store with a collection read from disk, and what there is to tell about it. -/
def loadCollection (d : Disk) (c : Collection) (s : Store) : Except Fault Store × List Note :=
  match d.readDocument c.file with
  | .error f => (.error f, [])
  | .ok .absent => (.ok s, [])
  | .ok .broken => (.ok s, [.valuesUnread c.name])
  | .ok (.document (.object entries)) => (.ok (s.adopt entries c), [])
  | .ok (.document _) => (.ok s, [.valuesShapeless c.name])

/-- **The store of a data directory**, and what there is to tell about its files. -/
def load (d : Disk) : Except Fault Store × List Note :=
  match loadCollection d .users empty with
  | (.error f, notes) => (.error f, notes)
  | (.ok s, notes) =>
    let (s, more) := loadCollection d .globals s
    (s, notes ++ more)

/-- **One collection written.** A value without a written form leaves an empty draft behind. -/
def save (s : Store) (c : Collection) (d : Disk) : Except Fault (List Note) × Disk :=
  match Json.write .storedValues (s.document c) with
  | .error f => (.error f, (d.write c.draft []).getD d)
  | .ok content =>
    match d.replace c.draft c.file content with
    | (true, d) => (.ok [], d)
    | (false, d) => (.ok [.valuesUnsaved c.name], d)

end Store

end ChatFlow
