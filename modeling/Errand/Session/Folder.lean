/-
# A folder of files

SPEC_FULL.md, section 11.3, on files that are replaced in one go.

What sessions need of a file system: one folder, which may not be there yet or
whose place a file may take, with files and further folders in it.  Replacing a
file is done in two steps, so that a reader finds either the old text or the new
one: the new text is written under another name, which then takes the place of the
old one.
-/

import Errand.Fault

namespace Errand

/-- Why the file system refuses an operation. -/
inductive Refusal where
  | exists
  | isFolder
  | nameTooLong
deriving DecidableEq, Repr

/-- A refusal in the system's words. -/
def Refusal.message : Refusal → String
  | .exists => "File exists (os error 17)"
  | .isFolder => "Is a directory (os error 21)"
  | .nameTooLong => "File name too long (os error 36)"

/-- What stands under a name in a folder. -/
inductive Item where
  | file (text : String)
  | folder
deriving DecidableEq, Repr

/-- The items of a folder by name, each name once. -/
abbrev Items := List (String × Item)

/-- The greatest length of a name, in bytes. -/
def maxNameLength : Nat := 255

namespace Items

/-- What stands under a name. -/
def find? (name : String) (is : Items) : Option Item :=
  (List.find? (fun i => i.1 == name) is).map (·.2)

/-- Take a name away. -/
def erase (name : String) (is : Items) : Items := is.filter fun i => i.1 != name

/-- Put an item under a name, instead of anything there. -/
def put (name : String) (i : Item) (is : Items) : Items := (name, i) :: is.erase name

/-- Write a file. -/
def write (name text : String) (is : Items) : Except Refusal Items :=
  if maxNameLength < name.utf8ByteSize then .error .nameTooLong
  else if is.find? name = some .folder then .error .isFolder
  else .ok (is.put name (.file text))

/-- Give a file another name, instead of any file that has it. -/
def rename (name other : String) (is : Items) : Except Refusal Items :=
  if is.find? other = some .folder then .error .isFolder
  else
    match is.find? name with
    | some i => .ok ((is.erase name).put other i)
    | none => .ok is

/-- Nothing is found under a name that was erased. -/
@[simp] theorem find?_erase_self (name : String) (is : Items) :
    (is.erase name).find? name = none := by
  simp [find?, erase]

/-- Under other names the same is found as before. -/
theorem find?_erase_of_ne {name other : String} (h : other ≠ name) (is : Items) :
    (is.erase name).find? other = is.find? other := by
  have same : (fun i : String × Item => decide ((i.1 != name) = true ∧ (i.1 == other) = true)) =
      fun i => i.1 == other := by
    funext i
    by_cases hi : i.1 = other <;> simp [hi, h]
  simp only [find?, erase, List.find?_filter, same]

/-- What was put under a name is found there. -/
@[simp] theorem find?_put_self (name : String) (i : Item) (is : Items) :
    (is.put name i).find? name = some i := by
  simp [find?, put]

/-- Under other names the same is found as before. -/
theorem find?_put_of_ne {name other : String} (h : other ≠ name) (i : Item) (is : Items) :
    (is.put name i).find? other = is.find? other := by
  rw [← find?_erase_of_ne h is]
  simp [find?, put, Ne.symm h]

end Items

/-- The place of a folder. -/
inductive Folder where
  | absent
  /-- A file has the folder's name. -/
  | blocked
  | present (items : Items)

namespace Folder

/-- The items of a folder, none if it is not there. -/
def items : Folder → Items
  | .absent | .blocked => []
  | .present is => is

/-- The items after making the folder if it is not there. -/
def create : Folder → Except Refusal Items
  | .absent => .ok []
  | .blocked => .error .exists
  | .present is => .ok is

/-- A refusal as a fault, with what was being done. -/
def fault (doing : String) (r : Refusal) : Fault := .context doing (.message r.message)

/-- The name under which a new text is written first. -/
def temporaryName (name : String) : String := name ++ ".tmp"

/-- Replace the text of a file in the folder at `path`. -/
def replace (path name text : String) (d : Folder) : Except Fault Unit × Folder :=
  match d.create with
  | .error r => (.error (fault ("create directory " ++ path) r), d)
  | .ok is =>
    let temporary := temporaryName name
    match is.write temporary text with
    | .error r =>
      (.error (fault ("write temp file " ++ path ++ "/" ++ temporary) r), .present is)
    | .ok is =>
      match is.rename temporary name with
      | .error r => (.error (fault ("replace " ++ path ++ "/" ++ name) r), .present is)
      | .ok is => (.ok (), .present is)

end Folder
end Errand
