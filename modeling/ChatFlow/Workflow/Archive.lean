import ChatFlow.Act
import ChatFlow.Disk.Document
import ChatFlow.Json.Writer
import ChatFlow.Log
import ChatFlow.Workflow.Document

/-!
# The archive of workflows

The authored workflows are one JSON list on disk. What was read is remembered and used until the
file's stamp changes, so that another hand may edit the file.

* an entry of the list that is no workflow is noted and passed over, and the others are used;
* a write that fails is noted and answered with no; what is remembered stays as it was.
-/

namespace ChatFlow

/-- **The archive.** -/
structure Archive where
  /-- the data directory -/
  disk : Disk
  /-- the workflows read last -/
  remembered : Option (List Workflow)
  /-- the stamp of the file they were read from -/
  stamp : Option Nat
  /-- notes, oldest first -/
  log : List Note

namespace Archive

/-- **The archive of a data directory**, before anything was read. -/
def opened (d : Disk) : Archive := ⟨d, none, none, []⟩

/-- The file of workflows. -/
def file : String := "workflows.json"

/-- The file they are first written to. -/
def draft : String := "workflows.tmp"

/-! ## Reading -/

/-- **The workflows of a list of entries**, and a note for each that is none. -/
def workflowsOf : List Value → List Workflow × List Note
  | [] => ([], [])
  | entry :: rest =>
    let (workflows, notes) := workflowsOf rest
    match Workflow.load entry with
    | .ok w => (w :: workflows, notes)
    | .error _ => (workflows, .workflowSkipped (entry.get "id") :: notes)

/-- **What the file of workflows holds.** -/
def readFile (d : Disk) : Except Fault (List Workflow × List Note) := do
  match ← d.readDocument file with
  | .absent => return ([], [])
  | .broken => return ([], [.workflowsUnread])
  | .document (.list entries) => return workflowsOf entries
  | .document _ => return ([], [])

/-- The stamp of the file now. -/
def currentStamp (a : Archive) : Option Nat := a.disk.stamp? file

/-- The workflows that are remembered, if the file has not changed since. -/
def fresh? (a : Archive) : Option (List Workflow) :=
  if a.currentStamp = a.stamp then a.remembered else none

/-- **The workflows in stored order**: those remembered while the file has not changed, or else those
that it holds. -/
def load : Act Archive (List Workflow) := fun a =>
  match a.fresh? with
  | some workflows => (.done workflows, a)
  | none =>
    match readFile a.disk with
    | .error f => (.failed f, a)
    | .ok (workflows, notes) =>
      (.done workflows, { a with
        remembered := some workflows, stamp := a.currentStamp, log := a.log ++ notes })

/-- The workflow of an id. -/
def get (id : String) : Act Archive (Option Workflow) := do
  let workflows ← load
  return workflows.find? fun w => w.id = id

/-! ## Writing -/

/-- The document of a list of workflows. -/
def documentOf (workflows : List Workflow) : Value := .list (workflows.map Workflow.document)

/-- **All workflows written.** Tells whether that worked. -/
def saveAll (workflows : List Workflow) : Act Archive Bool := do
  let content ← Act.of (Json.write .stored (documentOf workflows))
  fun a =>
    match a.disk.replace draft file content with
    | (true, disk) =>
      (.done true, { a with disk, remembered := some workflows, stamp := disk.stamp? file })
    | (false, disk) => (.done false, { a with disk, log := a.log ++ [.workflowsUnsaved] })

/-- The list with a workflow in the place of the first of its id, or at the end. -/
def place (w : Workflow) : List Workflow → List Workflow
  | [] => [w]
  | x :: rest => if x.id = w.id then w :: rest else x :: place w rest

/-- **A workflow saved** in the place of the one of its id, or behind all others. -/
def upsert (w : Workflow) : Act Archive Bool := do
  let workflows ← load
  saveAll (place w workflows)

/-- **Every workflow of an id deleted.** -/
def delete (id : String) : Act Archive Bool := do
  let workflows ← load
  let rest := workflows.filter fun w => w.id ≠ id
  if rest.length = workflows.length then return false else saveAll rest

/-- The workflow with its switch turned. -/
def turned (w : Workflow) : Workflow := { w with enabled := !w.enabled }

/-- **The switch of a workflow turned.** Answers its new state, or nothing where there is no such
workflow or it could not be written. -/
def toggle (id : String) : Act Archive (Option Bool) := do
  let workflows ← load
  match workflows.find? fun w => w.id = id with
  | none => return none
  | some w =>
    let saved ← saveAll (place (turned w) workflows)
    return if saved then some (!w.enabled) else none

end Archive

end ChatFlow
