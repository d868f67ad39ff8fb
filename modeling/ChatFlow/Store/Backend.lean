import ChatFlow.Value.Basic
import ChatFlow.Fault

/-!
# Where values live

Settings decide whether values are kept in memory only or in the files of a directory. A program
has one store: the first one that is opened is handed out from then on, until it is let go.

* `Backend.ofSettings` — the choice that settings make;
* `Counter.take` — the store that is handed out; settings matter only where none is open.
-/

namespace ChatFlow

/-- **Where values live.** -/
inductive Backend where
  /-- in memory -/
  | memory
  /-- in the files of a directory -/
  | files (directory : String)
  deriving DecidableEq, Repr

namespace Backend

/-- The data directory where none is named. -/
def usualDirectory : Value := .text "./data"

/-- The directory that a value names. -/
def directoryOf : Value → Except Fault Backend
  | .text name => .ok (.files name)
  | v => .error (.wrongType ("expected str, bytes or os.PathLike object, not " ++ v.kindName))

/-- The backend of a name and a directory. -/
def ofNames (name directory : Value) : Except Fault Backend :=
  match name with
  | .text "file" => directoryOf directory
  | _ => .ok .memory

/-- **The backend that settings choose**; memory where they say nothing. -/
def ofSettings (v : Value) : Except Fault Backend :=
  match v with
  | .object entries =>
    ofNames (Value.orNull (Table.get? entries "backend"))
      ((Table.get? entries "data_dir").getD usualDirectory)
  | v => if v.present then .error (.noMember v.kindName "get") else .ok .memory

end Backend

/-- A store that was opened, and how many were opened before it. -/
structure OpenStore where
  /-- where its values live -/
  backend : Backend
  /-- how many were opened before -/
  serial : Nat
  deriving DecidableEq, Repr

/-- **The counter where the program's store is handed out.** -/
structure Counter where
  /-- the store that is open -/
  current : Option OpenStore
  /-- how many have been opened -/
  opened : Nat
  deriving DecidableEq, Repr

namespace Counter

/-- No store was opened yet. -/
def fresh : Counter := ⟨none, 0⟩

/-- **The program's store**, opened by the settings if none is open. -/
def take (c : Counter) (settings : Value) : Except Fault (OpenStore × Counter) := do
  match c.current with
  | some s => return (s, c)
  | none =>
    let s : OpenStore := ⟨← Backend.ofSettings settings, c.opened⟩
    return (s, ⟨some s, c.opened + 1⟩)

/-- The store let go. -/
def release (c : Counter) : Counter := { c with current := none }

/-- A store that is open is the one handed out, whatever the settings say. -/
theorem take_of_open (c : Counter) (s : OpenStore) (settings : Value) (h : c.current = some s) :
    c.take settings = .ok (s, c) := by
  simp [take, h, pure, Except.pure]

end Counter

end ChatFlow
