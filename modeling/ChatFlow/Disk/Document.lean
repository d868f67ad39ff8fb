import ChatFlow.Disk
import ChatFlow.Json.Reader

/-!
# Documents on disk

What a JSON file of the data directory holds.
-/

namespace ChatFlow

/-- **What a file holds.** -/
inductive FileDocument where
  /-- there is no file -/
  | absent
  /-- it cannot be read, or breaks the grammar -/
  | broken
  /-- a document -/
  | document (v : Value)

/-- **The document of a file**, as it is shown. Bytes that are not text, and integers past the digit
limit, are faults. -/
def Disk.readDocument (d : Disk) (name : String) : Except Fault FileDocument :=
  match d.read name with
  | .missing => .ok .absent
  | .unreadable => .ok .broken
  | .content bytes =>
    match Utf8.decode? bytes with
    | none => .error .undecodable
    | some chars =>
      match Json.readChars chars with
      | .ok v => .ok (.document v)
      | .error (.halfSurrogate shown) => .ok (.document shown)
      | .error .malformed => .ok .broken
      | .error .digitLimit => .error .digitLimit

end ChatFlow
