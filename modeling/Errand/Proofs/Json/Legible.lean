/-
# Values that their written form carries

A value is legible if it can be read back from its compact form: its arrays and objects
nest no deeper than the reader goes, its members are in order, and its numbers read back
(`Value.Legible`).  Every value that was read is legible, but perhaps for its doubles.

The compact form of a legible value spells the tree of the value (`Value.Legible.spells`).
What its strings and keys are as literals is left open, so that they may be taken in
pieces.
-/

import Errand.Proofs.Json.Numeral

namespace Errand
namespace Json

namespace Value

mutual

/-- The value with each of its strings made into another; keys stay as they are. -/
def mapStrings (f : String → String) : Value → Value
  | .null => .null
  | .bool b => .bool b
  | .number n => .number n
  | .string s => .string (f s)
  | .array items => .array (Value.mapItems f items)
  | .object members => .object (Value.mapMembers f members)

/-- Items with each of their strings made into another. -/
def mapItems (f : String → String) : List Value → List Value
  | [] => []
  | v :: r => v.mapStrings f :: Value.mapItems f r

/-- Members with each string of their values made into another. -/
def mapMembers (f : String → String) : List (String × Value) → List (String × Value)
  | [] => []
  | (k, v) :: r => (k, v.mapStrings f) :: Value.mapMembers f r

end

mutual

/-- What is found at the ends of a value, where no array or object branches. -/
def collect {α : Type} (find : Value → List α) : Value → List α
  | .array items => Value.collectItems find items
  | .object members => Value.collectMembers find members
  | v => find v

/-- What is found at the ends of items. -/
def collectItems {α : Type} (find : Value → List α) : List Value → List α
  | [] => []
  | v :: r => v.collect find ++ Value.collectItems find r

/-- What is found at the ends of the values of members. -/
def collectMembers {α : Type} (find : Value → List α) : List (String × Value) → List α
  | [] => []
  | (_, v) :: r => v.collect find ++ Value.collectMembers find r

end

/-- The strings of a value, keys not among them. -/
def strings : Value → List String := collect fun
  | .string s => [s]
  | _ => []

mutual

/-- The keys of a value, at any depth. -/
def keys : Value → List String
  | .null | .bool _ | .number _ | .string _ => []
  | .array items => Value.keysOfItems items
  | .object members => Value.keysOfMembers members

/-- The keys in items. -/
def keysOfItems : List Value → List String
  | [] => []
  | v :: r => v.keys ++ Value.keysOfItems r

/-- The keys of members and in their values. -/
def keysOfMembers : List (String × Value) → List String
  | [] => []
  | (k, v) :: r => k :: (v.keys ++ Value.keysOfMembers r)

end

theorem mapItems_eq_map (f : String → String) (items : List Value) :
    mapItems f items = items.map (mapStrings f) := by
  induction items with
  | nil => rfl
  | cons v r ih => rw [mapItems, List.map_cons, ih]

/-- The keys of an object are left as they are. -/
theorem mapMembers_eq_map (f : String → String) (members : List (String × Value)) :
    mapMembers f members = members.map fun m => (m.1, m.2.mapStrings f) := by
  induction members with
  | nil => rfl
  | cons m r ih => rw [mapMembers, List.map_cons, ih]

theorem collectItems_eq_flatMap {α : Type} (find : Value → List α) (items : List Value) :
    collectItems find items = items.flatMap (collect find) := by
  induction items with
  | nil => rfl
  | cons v r ih => rw [collectItems, List.flatMap_cons, ih]

theorem collectMembers_eq_flatMap {α : Type} (find : Value → List α)
    (members : List (String × Value)) :
    collectMembers find members = members.flatMap fun m => m.2.collect find := by
  induction members with
  | nil => rfl
  | cons m r ih => rw [collectMembers, List.flatMap_cons, ih]

theorem keysOfItems_eq_flatMap (items : List Value) :
    keysOfItems items = items.flatMap keys := by
  induction items with
  | nil => rfl
  | cons v r ih => rw [keysOfItems, List.flatMap_cons, ih]

/-- The keys of an object are those of its members and those inside their values. -/
theorem keysOfMembers_eq_flatMap (members : List (String × Value)) :
    keysOfMembers members = members.flatMap fun m => m.1 :: m.2.keys := by
  induction members with
  | nil => rfl
  | cons m r ih => rw [keysOfMembers, List.flatMap_cons, ih, List.cons_append]

/-- The value can be read back from its compact form, by a reader that goes `depth` levels
deep. -/
inductive Legible : (depth : Nat) → Value → Prop
  | null {depth : Nat} : Legible depth .null
  | bool {depth : Nat} {b : Bool} : Legible depth (.bool b)
  | number {depth : Nat} {n : Number} : n.Legible → Legible depth (.number n)
  | string {depth : Nat} {s : String} : Legible depth (.string s)
  | array {depth : Nat} {items : List Value} : (∀ v ∈ items, Legible depth v) →
      Legible (depth + 1) (.array items)
  | object {depth : Nat} {members : Members} : members.Sorted →
      (∀ m ∈ members, Legible depth m.2) → Legible (depth + 1) (.object members)

end Value

/-! ### The tree of a value -/

section Trees

variable {α β γ : Type}

mutual

/-- The tree of a value whose strings and keys are made into literals. -/
def Tree.ofValue (cut : String → α) : Value → Tree α
  | .null => .null
  | .bool b => .bool b
  | .number n => .number n
  | .string s => .string (cut s)
  | .array items => .array (Tree.ofItems cut items)
  | .object members => .object (Tree.ofMembers cut members)

/-- The trees of items. -/
def Tree.ofItems (cut : String → α) : List Value → List (Tree α)
  | [] => []
  | v :: r => Tree.ofValue cut v :: Tree.ofItems cut r

/-- The keys and trees of members. -/
def Tree.ofMembers (cut : String → α) : List (String × Value) → List (α × Tree α)
  | [] => []
  | (k, v) :: r => (cut k, Tree.ofValue cut v) :: Tree.ofMembers cut r

end

theorem Tree.ofItems_eq_map (cut : String → α) (items : List Value) :
    Tree.ofItems cut items = items.map (Tree.ofValue cut) := by
  induction items with
  | nil => rfl
  | cons v r ih => rw [Tree.ofItems, List.map_cons, ih]

/-- Keys are cut as strings are. -/
theorem Tree.ofMembers_eq_map (cut : String → α) (members : List (String × Value)) :
    Tree.ofMembers cut members = members.map fun m => (cut m.1, Tree.ofValue cut m.2) := by
  induction members with
  | nil => rfl
  | cons m r ih => rw [Tree.ofMembers, List.map_cons, ih]

/-! ### What the compact form spells -/

/-- A member as it is written. -/
def memberChars (m : String × Value) : List Char := quoteChars m.1.toList ++ ':' :: m.2.compactChars

/-- A comma stands before every item but the first, -/
theorem compactItems_cons (v : Value) (r : List Value) : Value.compactItems (v :: r) =
    v.compactChars ++ r.flatMap fun w => ',' :: w.compactChars := by
  induction r generalizing v with
  | nil => simp [Value.compactItems]
  | cons w r ih =>
    rw [Value.compactItems, ih, List.flatMap_cons, List.cons_append]
    exact List.cons_ne_nil w r

/-- and before every member but the first. -/
theorem compactMembers_cons (m : String × Value) (r : List (String × Value)) :
    Value.compactMembers (m :: r) = memberChars m ++ r.flatMap fun n => ',' :: memberChars n := by
  induction r generalizing m with
  | nil => simp [Value.compactMembers, memberChars]
  | cons n r ih =>
    rw [Value.compactMembers, ih, List.flatMap_cons, memberChars]
    · simp [memberChars]
    · exact List.cons_ne_nil n r

/-- Parts written with commas between them make a row. -/
theorem Row.of_list {part : List Char → β → Prop} {write : γ → List Char} {make : γ → β}
    {xs : List γ} (h : ∀ x ∈ xs, part (write x) (make x)) :
    Row part false (xs.flatMap fun x => ',' :: write x) (xs.map make) := by
  induction xs with
  | nil => exact .close rfl
  | cons x xs ih =>
    obtain ⟨hx, hxs⟩ := List.forall_mem_cons.1 h
    exact @Row.next _ _ [] [] _ _ _ _ rfl rfl hx (ih hxs)

/-- What is written with commas in between is a row. -/
theorem Row.of_cons {part : List Char → β → Prop} {write : γ → List Char} {make : γ → β}
    {x : γ} {xs : List γ} (h : ∀ y ∈ x :: xs, part (write y) (make y)) :
    Row part true (write x ++ xs.flatMap fun y => ',' :: write y) ((x :: xs).map make) := by
  obtain ⟨hx, hxs⟩ := List.forall_mem_cons.1 h
  exact @Row.head _ _ [] _ _ _ _ rfl hx (Row.of_list hxs)

variable {lit : List Char → α → Prop} {cut : String → α}

/-- **The compact form of a legible value spells the tree of the value.** -/
theorem Value.Legible.spells {depth : Nat} {v : Value} (h : v.Legible depth)
    (hstrings : ∀ s ∈ v.strings, lit (escapeChars s.toList) (cut s))
    (hkeys : ∀ k ∈ v.keys, lit (escapeChars k.toList) (cut k)) :
    Spells lit depth v.compactChars (Tree.ofValue cut v) := by
  induction h with
  | null => exact .null
  | @bool _ b => cases b <;> first | exact .yes | exact .no
  | number hn =>
    obtain ⟨negative, u, hchars, hread⟩ := hn.isRead
    rw [Value.compactChars, hchars]
    exact .number hread
  | @string _ s => exact .string (hstrings s (by simp [Value.strings, Value.collect]))
  | @array depth items _ ih =>
    rw [Value.strings, Value.collect, Value.collectItems_eq_flatMap] at hstrings
    rw [Value.keys, Value.keysOfItems_eq_flatMap] at hkeys
    have hparts : ∀ v ∈ items, Spells lit depth v.compactChars (Tree.ofValue cut v) := fun v hv =>
      ih v hv (fun s hs => hstrings s (List.mem_flatMap_of_mem hv hs))
        fun k hk => hkeys k (List.mem_flatMap_of_mem hv hk)
    rw [Value.compactChars, Tree.ofValue, Tree.ofItems_eq_map]
    refine .array (fun _ _ h => h) ?_
    cases items with
    | nil => exact .close rfl
    | cons v r =>
      rw [compactItems_cons]
      exact Row.of_cons hparts
  | @object depth members _ _ ih =>
    rw [Value.strings, Value.collect, Value.collectMembers_eq_flatMap] at hstrings
    rw [Value.keys, Value.keysOfMembers_eq_flatMap] at hkeys
    have hparts : ∀ m ∈ members, Entry lit (Spells lit depth) (memberChars m)
        (cut m.1, Tree.ofValue cut m.2) := fun m hm => by
      have hkey : lit (escapeChars m.1.toList) (cut m.1) :=
        hkeys m.1 (List.mem_flatMap_of_mem hm List.mem_cons_self)
      have hvalue : Spells lit depth m.2.compactChars (Tree.ofValue cut m.2) :=
        ih m hm (fun s hs => hstrings s (List.mem_flatMap_of_mem hm hs))
          fun k hk => hkeys k (List.mem_flatMap_of_mem hm (List.mem_cons_of_mem _ hk))
      have hentry := @Entry.mk _ _ lit (Spells lit depth) _ [] [] _ _ _ hkey rfl rfl hvalue
      simpa [memberChars, quoteChars] using hentry
    rw [Value.compactChars, Tree.ofValue, Tree.ofMembers_eq_map]
    refine .object (fun _ _ h => h) ?_
    cases members with
    | nil => exact .close rfl
    | cons m r =>
      rw [compactMembers_cons]
      exact Row.of_cons hparts

end Trees

/-! ### The value of the tree -/

namespace Members

/-- A key beyond all others is inserted at the end. -/
theorem insert_last {ms : Members} {key : String} {value : Value} (h : ∀ m ∈ ms, m.1 < key) :
    ms.insert key value = ms ++ [(key, value)] := by
  induction ms with
  | nil => rfl
  | cons m r ih =>
    obtain ⟨k, v⟩ := m
    obtain ⟨hk, hr⟩ := List.forall_mem_cons.1 h
    have hne : key ≠ k := by
      rintro rfl
      exact String.lt_irrefl _ hk
    have hnlt : ¬key < k := fun hlt => String.lt_irrefl _ (String.lt_trans hk hlt)
    rw [insert, if_neg hne, if_neg hnlt, ih hr, List.cons_append]

/-- Members in order are an object as they stand. -/
theorem ofList_of_sorted {ms : Members} (h : ms.Sorted) : ofList ms = ms := by
  induction ms using List.reverseRecOn with
  | nil => rfl
  | append_singleton ms m ih =>
    obtain ⟨hms, -, hlast⟩ := List.pairwise_append.1 h
    have hinsert : ofList (ms ++ [m]) = (ofList ms).insert m.1 m.2 := by simp [ofList]
    rw [hinsert, ih hms, insert_last fun n hn => hlast n hn m List.mem_cons_self]

end Members

/-- Sorted members stay sorted when their values change. -/
theorem Members.Sorted.map {ms : Members} (h : ms.Sorted) (f : Value → Value) :
    Members.Sorted (ms.map fun m => (m.1, f m.2)) :=
  List.pairwise_map.2 h

/-- **The tree of a legible value has the value itself**, but for what its strings are
taken for.  Keys have to be taken for themselves. -/
theorem Value.Legible.value_ofValue {α : Type} {cut : String → α} {f : α → String} {depth : Nat}
    {v : Value} (h : v.Legible depth) (hkeys : ∀ k ∈ v.keys, f (cut k) = k) :
    (Tree.ofValue cut v).value f = v.mapStrings fun s => f (cut s) := by
  induction h with
  | null | bool | number | string => rfl
  | @array depth items _ ih =>
    rw [Value.keys, Value.keysOfItems_eq_flatMap] at hkeys
    rw [Tree.ofValue, Tree.value, Tree.ofItems_eq_map, Tree.values_eq_map, Value.mapStrings,
      Value.mapItems_eq_map, List.map_map]
    refine congrArg _ (List.map_congr_left fun v hv => ?_)
    exact ih v hv fun k hk => hkeys k (List.mem_flatMap_of_mem hv hk)
  | @object depth members hsorted _ ih =>
    rw [Value.keys, Value.keysOfMembers_eq_flatMap] at hkeys
    rw [Tree.ofValue, Tree.value, Tree.ofMembers_eq_map, Tree.pairs_eq_map, Value.mapStrings,
      Value.mapMembers_eq_map, List.map_map, Value.ofPairs]
    have hmap : members.map ((fun m => (f m.1, m.2.value f)) ∘
        fun m => (cut m.1, Tree.ofValue cut m.2)) =
          members.map fun m => (m.1, m.2.mapStrings fun s => f (cut s)) := by
      refine List.map_congr_left fun m hm => ?_
      have hkey := hkeys m.1 (List.mem_flatMap_of_mem hm List.mem_cons_self)
      have hvalue := ih m hm fun k hk =>
        hkeys k (List.mem_flatMap_of_mem hm (List.mem_cons_of_mem _ hk))
      simp only [Function.comp_apply, hkey, hvalue]
    rw [hmap, Members.ofList_of_sorted (hsorted.map _)]

end Json
end Errand
