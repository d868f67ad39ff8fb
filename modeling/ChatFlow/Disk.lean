import ChatFlow.Table
import ChatFlow.Text.Utf8

/-!
# The data directory

A directory of files. Each write gives its file a stamp no file had before, by which a reader sees
that a file has changed.

* `Disk.replace` — new content is written beside a file and put into its place in one step, so a
  reader meets the old content or the new one, never a part;
* a name can be taken by a directory: then nothing can be read or written under it;
* a name can be locked: then nothing can be written under it for the time being.
-/

namespace ChatFlow

/-- What a name stands for. -/
inductive DiskEntry where
  /-- a file and the stamp of its last write -/
  | file (content : List UInt8) (stamp : Nat)
  /-- a directory and the stamp of its making -/
  | directory (stamp : Nat)
  deriving DecidableEq, Repr

/-- The stamp of an entry. -/
def DiskEntry.stamp : DiskEntry → Nat
  | .file _ stamp => stamp
  | .directory stamp => stamp

/-- **The data directory.** -/
structure Disk where
  /-- what is there -/
  entries : Table DiskEntry
  /-- the stamp of the next write -/
  clock : Nat
  /-- names that cannot be written to for the time being -/
  locked : List String := []
  deriving Repr

/-- What reading a name gives. -/
inductive Reading where
  /-- nothing is there -/
  | missing
  /-- a directory is there -/
  | unreadable
  /-- the bytes of a file -/
  | content (bytes : List UInt8)
  deriving DecidableEq, Repr

namespace Disk

/-- The empty directory. -/
def empty : Disk := { entries := [], clock := 0 }

/-- The stamp of a name, if anything is there. -/
def stamp? (d : Disk) (name : String) : Option Nat := (d.entries.get? name).map DiskEntry.stamp

/-- **What is under a name.** -/
def read (d : Disk) (name : String) : Reading :=
  match d.entries.get? name with
  | none => .missing
  | some (.directory _) => .unreadable
  | some (.file bytes _) => .content bytes

/-- Whether a directory has the name. -/
def isDirectory (d : Disk) (name : String) : Bool :=
  match d.entries.get? name with
  | some (.directory _) => true
  | _ => false

/-- The directory with an entry written under a fresh stamp. -/
def put (d : Disk) (name : String) (entry : Nat → DiskEntry) : Disk :=
  { d with entries := d.entries.insert name (entry d.clock), clock := d.clock + 1 }

/-- Whether nothing can be written under a name. -/
def refuses (d : Disk) (name : String) : Bool := d.isDirectory name || d.locked.contains name

/-- The directory with a file written, unless its name refuses that. -/
def write (d : Disk) (name : String) (bytes : List UInt8) : Option Disk :=
  if d.refuses name then none else some (d.put name (.file bytes))

/-- The directory with a file put into the place of another, unless that refuses it. -/
def rename (d : Disk) (source target : String) : Option Disk :=
  match d.entries.get? source with
  | none => none
  | some entry =>
    if d.refuses target then none
    else some { d with entries := (d.entries.erase source).insert target entry }

/-- **Content written beside a file and put into its place.** Tells whether that worked. -/
def replace (d : Disk) (draft target : String) (content : String) : Bool × Disk :=
  match d.write draft (Utf8.encode content.toList) with
  | none => (false, d)
  | some written =>
    match written.rename draft target with
    | none => (false, written)
    | some done => (true, done)

/-- The directory without a name. -/
def remove (d : Disk) (name : String) : Disk := { d with entries := d.entries.erase name }

/-- The directory with a directory made in it, unless the name is taken. -/
def makeDirectory (d : Disk) (name : String) : Disk :=
  if d.entries.contains name then d else d.put name .directory

/-- A file written under the stamp it had before. -/
def overwrite (d : Disk) (name : String) (bytes : List UInt8) : Option Disk :=
  match d.entries.get? name with
  | some (.directory _) => none
  | some (.file _ stamp) => some { d with entries := d.entries.insert name (.file bytes stamp) }
  | none => d.write name bytes

/-- The names there are. -/
def names (d : Disk) : List String := d.entries.keys

end Disk

end ChatFlow
