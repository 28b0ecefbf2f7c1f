/-
# Sessions

SPEC_FULL.md, section 11.3 (Session store).

A session keeps bindings between runs under an id.  Ids become file names, so they
are made of letters and digits of ASCII, low lines and hyphens; any other id is
refused before anything is touched.

A store keeps sessions in memory, or as one JSON file each in a folder.
-/

import Errand.Binding
import Errand.Json.Layout
import Errand.Session.Folder
import Errand.Text.Quoted

namespace Errand
namespace Session

/-- Whether a character may stand in an id. -/
def isIdChar (c : Char) : Bool := c.isAlphanum || c == '_' || c == '-'

/-- Whether a text may be an id. -/
def isId (id : String) : Bool := !id.isEmpty && id.toList.all isIdChar

/-- What is said of a text that may not. -/
def invalidId (id : String) : Fault := .message ("invalid session id " ++ Text.quoted id)

/-- The ids that may be used, and why others may not. -/
def checkId (id : String) : Except Fault Unit :=
  if isId id then .ok () else .error (invalidId id)

/-- The name of a session's file. -/
def fileName (id : String) : String := id ++ ".json"

/-- The text of a session's file. -/
def fileText (b : Bindings) : String := b.snapshot.pretty ++ "\n"

/-- The bindings that a session's file spells. -/
def ofFileText (text : String) : Except Json.Snag Bindings :=
  Json.readWhole (Bindings.layout .document Json.maxDepth) text.toList

/-- Save a session in the folder at `path`. -/
def saveFile (path id : String) (b : Bindings) (d : Folder) : Except Fault Unit × Folder :=
  match checkId id with
  | .error f => (.error f, d)
  | .ok () => d.replace path (fileName id) (fileText b)

/-- Load a session from the folder at `path`, if it was saved. -/
def loadFile (path id : String) (d : Folder) : Except Fault (Option Bindings) :=
  match checkId id with
  | .error f => .error f
  | .ok () =>
    let place := path ++ "/" ++ fileName id
    match d.items.find? (fileName id) with
    | none => .ok none
    | some .folder => .error (Folder.fault ("read session " ++ place) .isFolder)
    | some (.file text) =>
      match ofFileText text with
      | .ok b => .ok (some b)
      | .error s => .error (.context ("parse session " ++ place) (.message (s.message text)))

/-- The sessions of a store in memory: the latest save of an id goes first. -/
abbrev Memory := List (String × Bindings)

/-- Save a session in memory. -/
def saveMemory (id : String) (b : Bindings) (m : Memory) : Except Fault Unit × Memory :=
  match checkId id with
  | .error f => (.error f, m)
  | .ok () => (.ok (), (id, b) :: m.filter fun e => e.1 != id)

/-- Load a session from memory, if it was saved. -/
def loadMemory (id : String) (m : Memory) : Except Fault (Option Bindings) :=
  match checkId id with
  | .error f => .error f
  | .ok () => .ok ((m.find? fun e => e.1 == id).map (·.2))

/-- A place where sessions are kept. -/
inductive Store where
  | memory (sessions : Memory)
  | folder (path : String) (contents : Folder)

/-- Save a session. -/
def Store.save (id : String) (b : Bindings) : Store → Except Fault Unit × Store
  | .memory m =>
    let (r, m) := saveMemory id b m
    (r, .memory m)
  | .folder path d =>
    let (r, d) := saveFile path id b d
    (r, .folder path d)

/-- Load a session, if it was saved. -/
def Store.load (id : String) : Store → Except Fault (Option Bindings)
  | .memory m => loadMemory id m
  | .folder path d => loadFile path id d

end Session
end Errand
