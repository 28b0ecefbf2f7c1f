/-
# Sessions in memory and in a folder

SPEC_FULL.md, sections 8 and 11.3: what is saved is loaded again.

A store of sessions is asked to save and to load, one call after the other (`Store.answers`).
What it should answer follows from the calls alone (`owed`): an id that may not be used is
refused; a save comes through; and a load gives what was saved under the id last (`latest?`),
read as the store reads it.

A store in memory keeps what it is given (`Keeps`), and answers just so.  A store in a folder
keeps a file for each id (`Files`): its name is that of no other id and of no temporary file, so
a save touches no other session.  One call preserves either (`Keeps.perform`, `Files.perform`),
so they hold after all of them.

The folder reads a session back from its file, though, and that gives what was saved exactly if
the bindings are legible (`ofFileText_fileText_iff`): there are bindings that a save accepts and
a load does not give back.  So the two stores answer alike exactly as long as what is loaded is
legible (`answers_alike_iff`).
-/

import Errand.Session.Store
import Errand.Proofs.Json.Form
import Mathlib.Data.List.Find

namespace Errand

open Json (Value Members)

/-! ### What a session's file is read as -/

namespace Json

/-- What is read from a whole text is read from its start, with blanks left. -/
theorem readWhole_eq_ok_iff {α : Type} {reader : Reader α} {s : List Char} {a : α} :
    readWhole reader s = .ok a ↔ ∃ r, reader s = .ok (a, r) ∧ Blanks r := by
  unfold readWhole
  constructor
  · intro h
    split at h
    · cases h
    · next r ha =>
      split at h
      · next hr =>
        cases h
        exact ⟨r, ha, skipSpace_eq_nil_iff.1 hr⟩
      · cases h
  · rintro ⟨r, ha, hr⟩
    rw [ha]
    dsimp only
    rw [skipSpace_eq_nil_iff.2 hr]

/-- What is done once the opening brace is known. -/
theorem FromText.members_brace (depth : Nat) (s : List Char) :
    FromText.members (depth + 1) ('{' :: s) =
      Reader.map Members.ofList (readMembers (readValue depth) (s.length + 1) true) s := by
  have hskip : skipSpace ('{' :: s) = '{' :: s := rfl
  rw [FromText.members, hskip, Reader.map]
  split
  · next heq =>
    cases heq
    dsimp only
    cases readMembers (readValue depth) (s.length + 1) true s <;> rfl
  · next hne => exact absurd rfl (hne s)

/-- The members that are read are those of the object that would be. -/
theorem FromText.members_eq_ok_iff {depth : Nat} {s r : List Char} {ms : Members} :
    FromText.members depth ('{' :: s) = .ok (ms, r) ↔
      readValue depth ('{' :: s) = .ok (.object ms, r) := by
  cases depth with
  | zero => constructor <;> rintro ⟨⟩
  | succ depth =>
    have hread : readValue (depth + 1) ('{' :: s) =
        Reader.map .ofPairs (readMembers (readValue depth) (s.length + 1) true) s := by
      rw [readValue]
      rfl
    rw [hread, FromText.members_brace, Reader.map_eq_ok, Reader.map_eq_ok]
    constructor
    · rintro ⟨ns, hns, rfl⟩
      exact ⟨ns, hns, rfl⟩
    · rintro ⟨ns, hns, hobject⟩
      exact ⟨ns, hns, Value.object.inj hobject⟩

/-- The members that are read are in order. -/
theorem FromText.members_sorted {depth : Nat} {s r : List Char} {ms : Members}
    (h : FromText.members depth ('{' :: s) = .ok (ms, r)) : ms.Sorted := by
  cases depth with
  | zero => cases h
  | succ depth =>
    rw [FromText.members_brace] at h
    obtain ⟨ns, -, rfl⟩ := Reader.map_eq_ok.1 h
    exact Members.sorted_ofList ns

end Json

namespace Bindings

/-- The entries of a list are the members of an object, -/
theorem entries_ofList (pairs : List (String × Value)) :
    (ofList pairs).entries = Members.ofList pairs := by
  induction pairs using List.reverseRecOn with
  | nil => rfl
  | append_singleton pairs p ih =>
    rw [ofList, Members.ofList, List.foldl_append, List.foldl_append]
    rw [ofList, Members.ofList] at ih
    exact congrArg (Members.insert p.1 p.2) ih

/-- so a session's file is laid out as an object is, -/
theorem layout_document (depth : Nat) (s : List Char) :
    layout Json.Source.document depth s =
      Json.Reader.map ofList (Json.FromText.members depth) s := by
  show (Json.FromText.members depth s).map _ = _
  rw [Json.Reader.map]
  cases Json.FromText.members depth s <;> rfl

end Bindings

namespace Session

/-- The bindings of a text that starts like an object are those of the object that it spells. -/
theorem ofFileText_eq_ok_iff {text : String} {s : List Char} {b : Bindings}
    (htext : text.toList = '{' :: s) :
    ofFileText text = .ok b ↔ Json.parse? text = some b.snapshot := by
  rw [ofFileText, Json.readWhole_eq_ok_iff, Json.parse?, Json.parseChars?_eq_some, htext]
  refine exists_congr fun r => and_congr_left fun _ => ?_
  rw [Bindings.snapshot, ← Json.FromText.members_eq_ok_iff, Bindings.layout_document,
    Json.Reader.map_eq_ok]
  constructor
  · rintro ⟨ms, hms, rfl⟩
    rw [Bindings.entries_ofList, Members.ofList_of_sorted (Json.FromText.members_sorted hms), hms]
  · intro h
    have hentries : Bindings.ofList b.entries = b :=
      Bindings.ext (by rw [Bindings.entries_ofList, Members.ofList_of_sorted b.sorted])
    exact ⟨b.entries, h, hentries⟩

/-- ends with a line break. -/
theorem toList_fileText (b : Bindings) :
    (fileText b).toList = b.snapshot.prettyChars 0 ++ ['\n'] := by
  simp [fileText, Value.pretty]

/-- and opens with a brace. -/
theorem fileText_brace (b : Bindings) : ∃ s, (fileText b).toList = '{' :: s := by
  rw [toList_fileText, Bindings.snapshot]
  cases b.entries <;> exact ⟨_, rfl⟩

/-- **Bindings are read back from their file exactly if they are legible.** -/
theorem ofFileText_fileText_iff (b : Bindings) :
    ofFileText (fileText b) = .ok b ↔ b.snapshot.Legible Json.maxDepth := by
  obtain ⟨s, hs⟩ := fileText_brace b
  rw [ofFileText_eq_ok_iff hs, Json.parse?, toList_fileText]
  exact Json.Value.parseChars?_pretty_iff rfl

/-! ### Calls and what they are owed -/

/-- What a store is asked. -/
inductive Call where
  | save (id : String) (b : Bindings)
  | load (id : String)

/-- What a store answers. -/
inductive Answer where
  | saved (r : Except Fault Unit)
  | loaded (r : Except Fault (Option Bindings))

/-- The answer to a call, and the store after it. -/
def Store.perform (s : Store) : Call → Answer × Store
  | .save id b => (.saved (s.save id b).1, (s.save id b).2)
  | .load id => (.loaded (s.load id), s)

/-- The answers to calls, one after the other. -/
def Store.answers : Store → List Call → List Answer
  | _, [] => []
  | s, c :: cs => (s.perform c).1 :: Store.answers (s.perform c).2 cs

/-- What a call saves under an id, if the id may be used. -/
def Call.saves? (id : String) : Call → Option Bindings
  | .save other b => if other = id ∧ isId id then some b else none
  | .load _ => none

/-- What was saved under an id last. -/
def latest? (calls : List Call) (id : String) : Option Bindings :=
  calls.reverse.findSome? (Call.saves? id)

/-- How a store reads what was saved under an id. -/
abbrev Reading := String → Bindings → Except Fault Bindings

/-- What is kept in memory is what was saved. -/
def kept (_id : String) (b : Bindings) : Except Fault Bindings := .ok b

/-- What is kept in a folder is what the session's file is read as. -/
def reread (path id : String) (b : Bindings) : Except Fault Bindings :=
  let place := path ++ "/" ++ fileName id
  match ofFileText (fileText b) with
  | .ok b => .ok b
  | .error s =>
    .error (.context ("parse session " ++ place) (.message (s.message (fileText b))))

/-- What a load after other calls should give: what was saved under the id last, as it is read. -/
def remembered (read : Reading) (before : List Call) (id : String) :
    Except Fault (Option Bindings) :=
  match checkId id with
  | .error f => .error f
  | .ok () =>
    match latest? before id with
    | none => .ok none
    | some b => (read id b).map some

/-- The answer to a call after others, which refuses ids that may not be used. -/
def owed (read : Reading) (before : List Call) : Call → Answer
  | .save id _ => .saved (checkId id)
  | .load id => .loaded (remembered read before id)

/-- The answers to calls after others. -/
def owedAll (read : Reading) (before : List Call) : List Call → List Answer
  | [] => []
  | c :: cs => owed read before c :: owedAll read (before ++ [c]) cs

/-- What a call loads after others, and under which id. -/
def Call.recalled? (before : List Call) : Call → Option (String × Bindings)
  | .save _ _ => none
  | .load id => (latest? before id).map (id, ·)

/-- What calls load after others. -/
def recalled (before : List Call) : List Call → List (String × Bindings)
  | [] => []
  | c :: cs => (c.recalled? before).toList ++ recalled (before ++ [c]) cs

section Owed

variable (before : List Call) (c : Call) (id : String)

/-- What was saved last is what counts. -/
@[simp] theorem latest?_concat :
    latest? (before ++ [c]) id = (c.saves? id).or (latest? before id) := by
  rw [latest?, List.reverse_concat, List.findSome?_cons]
  cases c.saves? id <;> rfl

variable {before c id}

/-- Nothing is saved under what is no name. -/
theorem Call.saves?_of_not_isId (h : isId id = false) (b : Bindings) (other : String) :
    (Call.save id b).saves? other = none := by
  refine if_neg ?_
  rintro ⟨rfl, hid⟩
  rw [h] at hid
  cases hid

/-- Nothing is saved under an id that may not be used. -/
theorem isId_of_latest? {b : Bindings} (h : latest? before id = some b) : isId id = true := by
  obtain ⟨c, -, hc⟩ := List.exists_of_findSome?_eq_some h
  cases c with
  | load => cases hc
  | save other b =>
    rw [Call.saves?] at hc
    split at hc
    · next hid => exact hid.2
    · cases hc

/-- Two readings are owed the same if they agree on what is loaded. -/
theorem owed_eq_iff {read read' : Reading} : owed read before c = owed read' before c ↔
    ∀ x ∈ c.recalled? before, read x.1 x.2 = read' x.1 x.2 := by
  cases c with
  | save => simp [owed, Call.recalled?]
  | load id =>
    cases hlatest : latest? before id with
    | none => simp [owed, remembered, Call.recalled?, hlatest]
    | some b =>
      have hcheck : checkId id = .ok () := if_pos (isId_of_latest? hlatest)
      simp only [owed, remembered, Call.recalled?, hlatest, hcheck]
      cases hread : read id b <;> cases hread' : read' id b <;> simp [Except.map, hread, hread']

/-- Two ways of reading owe the same if they agree on everything that is recalled. -/
theorem owedAll_eq_iff {read read' : Reading} {calls : List Call} :
    owedAll read before calls = owedAll read' before calls ↔
      ∀ x ∈ recalled before calls, read x.1 x.2 = read' x.1 x.2 := by
  induction calls generalizing before with
  | nil => simp [owedAll, recalled]
  | cons c calls ih =>
    rw [owedAll, owedAll, List.cons.injEq, owed_eq_iff, ih, recalled, List.forall_mem_append]
    simp

end Owed

/-- What is reread is what was saved exactly if it is legible. -/
theorem reread_eq_kept_iff {path id : String} {b : Bindings} :
    reread path id b = kept id b ↔ b.snapshot.Legible Json.maxDepth := by
  rw [← ofFileText_fileText_iff, reread, kept]
  split <;> next h => simp [h]

/-! ### Refusals -/

/-- The check lets names through. -/
theorem checkId_of_isId {id : String} (h : isId id = true) : checkId id = .ok () := if_pos h

/-- and nothing else. -/
theorem checkId_of_not_isId {id : String} (h : isId id = false) :
    checkId id = .error (invalidId id) := if_neg (by simp [h])

/-- **An id that may not be used is refused,** and the store stays as it is. -/
theorem Store.refuses (s : Store) {id : String} (h : isId id = false) :
    (∀ b, s.save id b = (.error (invalidId id), s)) ∧ s.load id = .error (invalidId id) := by
  have hcheck := checkId_of_not_isId h
  cases s with
  | memory m => exact ⟨fun b => by simp [Store.save, saveMemory, hcheck],
      by simp [Store.load, loadMemory, hcheck]⟩
  | folder path d => exact ⟨fun b => by simp [Store.save, saveFile, hcheck],
      by simp [Store.load, loadFile, hcheck]⟩

/-! ### In memory -/

/-- The memory keeps what was saved last under every id. -/
def Keeps (before : List Call) (m : Memory) : Prop :=
  ∀ id, (m.find? fun e => e.1 == id).map (·.2) = latest? before id

/-- An empty store keeps what was never saved, -/
theorem keeps_nil : Keeps [] [] := fun _ => rfl

section Memory

variable {before : List Call} {m : Memory}

/-- and a save puts in front what it saves. -/
theorem Keeps.save (h : Keeps before m) {id : String} (hid : isId id = true) (b : Bindings) :
    Keeps (before ++ [.save id b]) ((id, b) :: m.filter fun e => e.1 != id) := by
  intro other
  rw [latest?_concat, Call.saves?, ← h other]
  by_cases hother : id = other
  · subst hother
    simp [hid]
  · have hfilter : (m.filter fun e => e.1 != id).find? (fun e => e.1 == other) =
        m.find? fun e => e.1 == other := by
      rw [List.find?_filter]
      refine List.find?_congr fun e _ => ?_
      by_cases he : e.1 = other
      · simp [he, Ne.symm hother]
      · simp [he]
    rw [List.find?_cons_of_neg (by simpa using hother), hfilter]
    simp [hother]

/-- A call that saves nothing leaves what was saved last. -/
theorem Keeps.other (h : Keeps before m) {c : Call} (hc : ∀ id, c.saves? id = none) :
    Keeps (before ++ [c]) m := by
  intro id
  rw [latest?_concat, hc, Option.none_or, h id]

/-- **A call is answered as it is owed by a memory that keeps what was saved,** and leaves such a
memory. -/
theorem Keeps.perform (h : Keeps before m) (c : Call) :
    ∃ m', (Store.memory m).perform c = (owed kept before c, .memory m') ∧
      Keeps (before ++ [c]) m' := by
  cases c with
  | save id b =>
    cases hid : isId id with
    | true =>
      refine ⟨_, ?_, h.save hid b⟩
      simp [Store.perform, Store.save, saveMemory, owed, checkId_of_isId hid]
    | false =>
      refine ⟨m, ?_, h.other (Call.saves?_of_not_isId hid b)⟩
      simp [Store.perform, Store.save, saveMemory, owed, checkId_of_not_isId hid]
  | load id =>
    refine ⟨m, ?_, h.other fun _ => rfl⟩
    have hload : loadMemory id m = remembered kept before id := by
      rw [loadMemory, h id, remembered]
      cases checkId id with
      | error f => rfl
      | ok _ => cases latest? before id <;> rfl
    rw [Store.perform, Store.load, hload]
    rfl

/-- **A store in memory answers calls as it owes.** -/
theorem Keeps.answers (h : Keeps before m) (calls : List Call) :
    (Store.memory m).answers calls = owedAll kept before calls := by
  induction calls generalizing before m with
  | nil => rfl
  | cons c calls ih =>
    obtain ⟨m', hperform, hkeeps⟩ := h.perform c
    rw [Store.answers, hperform, owedAll, ih hkeeps]

end Memory

/-! ### In a folder -/

/-- Names have files of their own, -/
theorem fileName_inj {id other : String} : fileName id = fileName other ↔ id = other := by
  rw [fileName, fileName, ← String.toList_inj, String.toList_append, String.toList_append,
    List.append_left_inj, String.toList_inj]

/-- No session's file has the name of a temporary one. -/
theorem fileName_ne_temporaryName (id name : String) :
    fileName id ≠ Folder.temporaryName name := by
  intro h
  have hlast := congrArg (fun s : String => s.toList.getLast?) h
  simp [fileName, Folder.temporaryName] at hlast

end Session

section Replacing

variable {path name text : String} {is : Items} {d : Folder}

/-- none of them the temporary one. -/
theorem Folder.temporaryName_ne (name : String) : Folder.temporaryName name ≠ name := by
  intro h
  have hlength := congrArg (fun s : String => s.toList.length) h
  simp [Folder.temporaryName] at hlength

/-- The items after a file's text was replaced. -/
def Items.replaced (name text : String) (is : Items) : Items :=
  ((is.put (Folder.temporaryName name) (.file text)).erase (Folder.temporaryName name)).put name
    (.file text)

/-- **Replacing touches the file and its temporary file alone,** which is gone afterwards. -/
theorem Items.find?_replaced (other : String) : (is.replaced name text).find? other =
    if other = name then some (.file text)
    else if other = Folder.temporaryName name then none
    else is.find? other := by
  rw [Items.replaced]
  split_ifs with hname htemporary
  · rw [hname, Items.find?_put_self]
  · rw [Items.find?_put_of_ne hname, htemporary, Items.find?_erase_self]
  · rw [Items.find?_put_of_ne hname, Items.find?_erase_of_ne htemporary,
      Items.find?_put_of_ne htemporary]

/-- A text is replaced where a file can be written and take the other's place. -/
theorem Folder.replace_eq_ok (hcreate : d.create = .ok is)
    (hlength : (Folder.temporaryName name).utf8ByteSize ≤ maxNameLength)
    (htemporary : is.find? (Folder.temporaryName name) ≠ some .folder)
    (hname : is.find? name ≠ some .folder) :
    d.replace path name text = (.ok (), .present (is.replaced name text)) := by
  have hwrite : is.write (Folder.temporaryName name) text =
      .ok (is.put (Folder.temporaryName name) (.file text)) := by
    rw [Items.write, if_neg (Nat.not_lt.2 hlength), if_neg htemporary]
  have hrename : (is.put (Folder.temporaryName name) (.file text)).rename
      (Folder.temporaryName name) name = .ok (is.replaced name text) := by
    have hother : (is.put (Folder.temporaryName name) (.file text)).find? name ≠ some .folder := by
      rwa [Items.find?_put_of_ne (Folder.temporaryName_ne name).symm]
    rw [Items.rename, if_neg hother, Items.find?_put_self]
    rfl
  simp only [Folder.replace, hcreate, hwrite, hrename]

end Replacing

namespace Session

/-- The folder keeps a file for each id, with the text of what was saved under it last, and
nothing is in the way of writing another. -/
structure Files (before : List Call) (d : Folder) : Prop where
  creatable : d.create = .ok d.items
  file (id : String) (hid : isId id = true) : d.items.find? (fileName id) =
    (latest? before id).map fun b => .file (fileText b)
  temporary (id : String) (hid : isId id = true) :
    d.items.find? (Folder.temporaryName (fileName id)) ≠ some .folder

/-- The temporary name of what a call saves is not too long. -/
def Call.Fits : Call → Prop
  | .save id _ =>
    isId id = true → (Folder.temporaryName (fileName id)).utf8ByteSize ≤ maxNameLength
  | .load _ => True

instance : (c : Call) → Decidable c.Fits
  | .save id _ => inferInstanceAs (Decidable (isId id = true →
      (Folder.temporaryName (fileName id)).utf8ByteSize ≤ maxNameLength))
  | .load _ => inferInstanceAs (Decidable True)

section Folders

variable {before : List Call} {path : String} {d : Folder}

/-- **A save touches no file but that of its id.** -/
theorem Files.save (h : Files before d) {id : String} (hid : isId id = true) (b : Bindings) :
    Files (before ++ [.save id b])
      (.present (d.items.replaced (fileName id) (fileText b))) where
  creatable := rfl
  file other hother := by
    have hne := fileName_ne_temporaryName other (fileName id)
    rw [Folder.items, Items.find?_replaced, if_neg hne, latest?_concat, Call.saves?,
      h.file other hother]
    by_cases heq : id = other
    · subst heq
      simp [hid]
    · rw [if_neg fun hname => heq (fileName_inj.1 hname).symm, if_neg fun hboth => heq hboth.1,
        Option.none_or]
  temporary other hother := by
    have hne := (fileName_ne_temporaryName id (fileName other)).symm
    rw [Folder.items, Items.find?_replaced, if_neg hne]
    split
    · simp
    · exact h.temporary other hother

/-- A call that saves nothing leaves the files as they are. -/
theorem Files.other (h : Files before d) {c : Call} (hc : ∀ id, c.saves? id = none) :
    Files (before ++ [c]) d where
  creatable := h.creatable
  file id hid := by rw [latest?_concat, hc, Option.none_or, h.file id hid]
  temporary := h.temporary

/-- **A call is answered as it is owed by a folder that keeps its files,** and leaves such a
folder. -/
theorem Files.perform (h : Files before d) {c : Call} (hfits : c.Fits) :
    ∃ d', (Store.folder path d).perform c = (owed (reread path) before c, .folder path d') ∧
      Files (before ++ [c]) d' := by
  cases c with
  | save id b =>
    cases hid : isId id with
    | true =>
      have hname : d.items.find? (fileName id) ≠ some .folder := by
        rw [h.file id hid]
        cases latest? before id <;> simp
      have hreplace := @Folder.replace_eq_ok path _ (fileText b) _ _ h.creatable (hfits hid)
        (h.temporary id hid) hname
      refine ⟨_, ?_, h.save hid b⟩
      simp [Store.perform, Store.save, saveFile, owed, checkId_of_isId hid, hreplace]
    | false =>
      refine ⟨d, ?_, h.other (Call.saves?_of_not_isId hid b)⟩
      simp [Store.perform, Store.save, saveFile, owed, checkId_of_not_isId hid]
  | load id =>
    refine ⟨d, ?_, h.other fun _ => rfl⟩
    have hload : loadFile path id d = remembered (reread path) before id := by
      cases hid : isId id with
      | true =>
        rw [loadFile, remembered, checkId_of_isId hid]
        dsimp only
        rw [h.file id hid]
        cases latest? before id with
        | none => rfl
        | some b =>
          simp only [Option.map_some, reread]
          cases ofFileText (fileText b) <;> rfl
      | false => rw [loadFile, remembered, checkId_of_not_isId hid]
    rw [Store.perform, Store.load, hload]
    rfl

/-- **A store in a folder answers calls as it owes,** reading each session from its file. -/
theorem Files.answers (h : Files before d) {calls : List Call} (hfits : ∀ c ∈ calls, c.Fits) :
    (Store.folder path d).answers calls = owedAll (reread path) before calls := by
  induction calls generalizing before d with
  | nil => rfl
  | cons c calls ih =>
    obtain ⟨hc, hcalls⟩ := List.forall_mem_cons.1 hfits
    obtain ⟨d', hperform, hfiles⟩ := @Files.perform _ path _ h _ hc
    rw [Store.answers, hperform, owedAll, ih hfiles hcalls]

end Folders

/-! ### The two stores -/

/-- **The two stores and what they are owed.**  An id that may not be used is refused by either,
which stays as it is.  A store in memory gives back what was saved under the id last.  So does a
store in a folder, if nothing is in the way of its files, but as it is read back from the file;
and therefore it answers like the one in memory exactly if all that is loaded is legible. -/
theorem answers_alike_iff {path : String} {d : Folder} (hd : Files [] d) {calls : List Call}
    (hfits : ∀ c ∈ calls, c.Fits) :
    (∀ (s : Store) (id : String), isId id = false →
      (∀ b, s.save id b = (.error (invalidId id), s)) ∧ s.load id = .error (invalidId id)) ∧
    (Store.memory []).answers calls = owedAll kept [] calls ∧
    (Store.folder path d).answers calls = owedAll (reread path) [] calls ∧
    ((Store.folder path d).answers calls = (Store.memory []).answers calls ↔
      ∀ x ∈ recalled [] calls, x.2.snapshot.Legible Json.maxDepth) := by
  have hmemory := keeps_nil.answers calls
  have hfolder := @Files.answers _ path _ hd _ hfits
  refine ⟨fun s id h => s.refuses h, hmemory, hfolder, ?_⟩
  rw [hmemory, hfolder, owedAll_eq_iff]
  exact forall₂_congr fun x _ => reread_eq_kept_iff

/-- Bindings of one name. -/
def only (name : String) (v : Value) : Bindings := Bindings.empty.set name v

/-- Nothing is in the way of the files of a folder that is not there yet. -/
theorem files_absent : Files [] .absent :=
  ⟨rfl, fun _ _ => rfl, fun _ _ => by simp [Folder.items, Items.find?]⟩

/-- Saves and loads under three ids, one of which may not be used. -/
def notes : List Call :=
  [.load "run-1", .save "run-1" (only "summary" (.string "long")), .save "../run" .empty,
    .save "run_2" .empty, .save "run-1" (only "summary" (.string "short")), .load "run-1"]

/-- The hypotheses of `answers_alike_iff` are satisfiable, and texts are loaded alike. -/
theorem answers_alike_iff_notes : Files [] .absent ∧ (∀ c ∈ notes, c.Fits) ∧
    recalled [] notes = [("run-1", only "summary" (.string "short"))] ∧
    (Store.folder "sessions" .absent).answers notes = (Store.memory []).answers notes := by
  have hfits : ∀ c ∈ notes, c.Fits := by decide +kernel
  have hrecalled : recalled [] notes = [("run-1", only "summary" (.string "short"))] := by
    decide +kernel
  refine ⟨files_absent, hfits, hrecalled, ?_⟩
  obtain ⟨-, -, -, halike⟩ := @answers_alike_iff "sessions" _ files_absent _ hfits
  rw [halike, hrecalled]
  have hlegible : (only "summary" (.string "short")).snapshot.Legible Json.maxDepth :=
    .object (only _ _).sorted (by simp [only, Bindings.set, Bindings.empty, Members.insert,
      Json.Value.Legible.string])
  simpa using hlegible

/-- A double that is written `9.006443107101128e-10`. -/
def ratio : Bindings := only "ratio" (.number (.real ⟨false, 8710497292051807, -83⟩))

/-- The double next to it, as which it is read. -/
def nearRatio : Bindings := only "ratio" (.number (.real ⟨false, 8710497292051806, -83⟩))

/-- **A store in a folder does not always give back what was saved,** where one in memory does:
a double may be read from its file as the one next to it. -/
theorem answers_not_alike_ratio :
    (Store.memory []).answers [.save "s" ratio, .load "s"] =
      [.saved (.ok ()), .loaded (.ok (some ratio))] ∧
    (Store.folder "sessions" .absent).answers [.save "s" ratio, .load "s"] =
      [.saved (.ok ()), .loaded (.ok (some nearRatio))] ∧
    ratio ≠ nearRatio := by
  have hid : isId "s" = true := by decide +kernel
  have hlatest : latest? [.save "s" ratio] "s" = some ratio := by
    simp [latest?, Call.saves?, hid]
  have howed (read : Reading) : owedAll read [] [.save "s" ratio, .load "s"] =
      [.saved (.ok ()), .loaded ((read "s" ratio).map some)] := by
    simp only [owedAll, owed, remembered, List.nil_append, checkId_of_isId hid, hlatest]
  have hread : reread "sessions" "s" ratio = .ok nearRatio := by
    obtain ⟨s, hs⟩ := fileText_brace ratio
    have hfile : ofFileText (fileText ratio) = .ok nearRatio := by
      rw [ofFileText_eq_ok_iff hs]
      decide +kernel
    rw [reread, hfile]
  have hfits : ∀ c ∈ [Call.save "s" ratio, .load "s"], c.Fits := by decide +kernel
  refine ⟨?_, ?_, by decide +kernel⟩
  · rw [keeps_nil.answers, howed]
    rfl
  · rw [files_absent.answers hfits, howed, hread]
    rfl

end Session
end Errand
