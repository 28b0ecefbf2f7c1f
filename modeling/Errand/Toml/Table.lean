/-
# Tables as a document builds them up

A table is opened by a header, implied by the header of a table inside it, or made
by a dotted key.  Who may add to it later hangs on that: a header may take over an
implied table once, a dotted key may go on with a table made by dotted keys, and
nobody may add to a value that is written out.  The header of an array of tables
adds a table at its end, and leads into the last one.
-/

import Errand.Toml.Value

namespace Errand
namespace Toml

/-- How a table came to be. -/
inductive Origin where
  | header
  | implied
  | dotted
deriving DecidableEq, Repr

/-- What stands under a key while the document is read. -/
inductive Node where
  /-- A value that is written out. -/
  | closed (v : Value)
  | table (origin : Origin) (entries : List (String × Node))
  /-- An array of tables that headers have opened, the last of them still open. -/
  | tables (earlier : List Value) (last : List (String × Node))

/-- A table under construction. -/
structure Draft where
  origin : Origin := .header
  entries : List (String × Node) := []

namespace Draft

/-- What stands under a key. -/
def find? (d : Draft) (key : String) : Option Node :=
  (List.find? (fun e => e.1 == key) d.entries).map (·.2)

/-- Put something under a key, instead of anything there. -/
def put (d : Draft) (key : String) (n : Node) : Draft :=
  { d with entries := d.entries.filter (fun e => e.1 != key) ++ [(key, n)] }

/-- Change the table at the end of a path.  Tables that are missing on the way are
made, by the dotted key or by the header whose path this is. -/
def change (byDots : Bool) : List String → (Draft → Option Draft) → Draft → Option Draft
  | [], f, d => f d
  | k :: path, f, d =>
    match d.find? k with
    | none =>
      (change byDots path f ⟨if byDots then .dotted else .implied, []⟩).map fun c =>
        d.put k (.table c.origin c.entries)
    | some (.table origin entries) =>
      if byDots && origin == .header then none
      else (change byDots path f ⟨origin, entries⟩).map fun c =>
        d.put k (.table c.origin c.entries)
    | some (.tables earlier last) =>
      (change byDots path f ⟨.header, last⟩).map fun c => d.put k (.tables earlier c.entries)
    | some (.closed _) => none

/-- Add a value under a key that is not there yet, below a path of dots. -/
def addValue (path : List String) (key : String) (v : Value) : Draft → Option Draft :=
  change true path fun d =>
    if (d.origin == .dotted) == path.isEmpty then none
    else if (d.find? key).isSome then none
    else some (d.put key (.closed v))

/-- Open a table. -/
def openTable (path : List String) (key : String) : Draft → Option Draft :=
  change false path fun d =>
    match d.find? key with
    | none => some (d.put key (.table .header []))
    | some (.table .implied entries) => some (d.put key (.table .header entries))
    | some _ => none

mutual

/-- The value of what stands under a key. -/
def nodeValue : Node → Value
  | .closed v => v
  | .table _ entries => .table (entriesValue entries)
  | .tables earlier last => .array (earlier ++ [.table (entriesValue last)])

/-- The values of entries. -/
def entriesValue : List (String × Node) → Entries
  | [] => []
  | (k, n) :: r => (k, nodeValue n) :: entriesValue r

end

/-- Open the next table of an array of tables. -/
def openNext (path : List String) (key : String) : Draft → Option Draft :=
  change false path fun d =>
    match d.find? key with
    | none => some (d.put key (.tables [] []))
    | some (.tables earlier last) =>
      some (d.put key (.tables (earlier ++ [.table (entriesValue last)]) []))
    | some _ => none

/-- The finished table. -/
def value (d : Draft) : Value := .table (entriesValue d.entries)

end Draft
end Toml
end Errand
