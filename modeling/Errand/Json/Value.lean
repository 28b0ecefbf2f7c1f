/-
# JSON values

A value is null, a boolean, a number, a string, an array or an object.  A number
written as an integer that fits 64 bits stays an integer; every other number is
a double.  An object is the list of its members in ascending order of their
keys, each key once: `Members.insert` is the only way members are added, so
`Sorted.insert` makes the order an invariant of every object built here.
-/

import Errand.Number.Binary

namespace Errand
namespace Json

/-- A JSON number: an integer of at most 64 bits, or a finite double. -/
inductive Number where
  | int (i : Int)
  | real (x : Number.Binary)
deriving DecidableEq, Inhabited

/-- A JSON value. -/
inductive Value where
  | null
  | bool (b : Bool)
  | number (n : Number)
  | string (s : String)
  | array (items : List Value)
  | object (members : List (String × Value))
deriving Inhabited

/-- The members of an object, in ascending order of their keys. -/
abbrev Members := List (String × Value)

mutual

/-- Equality of values is decided member by member. -/
def Value.decideEq : (a b : Value) → Decidable (a = b)
  | .null, .null => .isTrue rfl
  | .bool x, .bool y => if h : x = y then .isTrue (h ▸ rfl) else .isFalse (by simpa using h)
  | .number x, .number y => if h : x = y then .isTrue (h ▸ rfl) else .isFalse (by simpa using h)
  | .string x, .string y => if h : x = y then .isTrue (h ▸ rfl) else .isFalse (by simpa using h)
  | .array xs, .array ys =>
    match Value.decideEqItems xs ys with
    | .isTrue h => .isTrue (h ▸ rfl)
    | .isFalse h => .isFalse (by simpa using h)
  | .object xs, .object ys =>
    match Value.decideEqMembers xs ys with
    | .isTrue h => .isTrue (h ▸ rfl)
    | .isFalse h => .isFalse (by simpa using h)
  | .null, .bool _ | .null, .number _ | .null, .string _ | .null, .array _ | .null, .object _
  | .bool _, .null | .bool _, .number _ | .bool _, .string _ | .bool _, .array _
  | .bool _, .object _ | .number _, .null | .number _, .bool _ | .number _, .string _
  | .number _, .array _ | .number _, .object _ | .string _, .null | .string _, .bool _
  | .string _, .number _ | .string _, .array _ | .string _, .object _ | .array _, .null
  | .array _, .bool _ | .array _, .number _ | .array _, .string _ | .array _, .object _
  | .object _, .null | .object _, .bool _ | .object _, .number _ | .object _, .string _
  | .object _, .array _ => .isFalse (by simp)

/-- Equality of arrays, item by item. -/
def Value.decideEqItems : (xs ys : List Value) → Decidable (xs = ys)
  | [], [] => .isTrue rfl
  | [], _ :: _ | _ :: _, [] => .isFalse (by simp)
  | x :: xs, y :: ys =>
    match Value.decideEq x y, Value.decideEqItems xs ys with
    | .isTrue h, .isTrue t => .isTrue (by rw [h, t])
    | .isFalse h, _ => .isFalse (by simp [h])
    | _, .isFalse t => .isFalse (by simp [t])

/-- Equality of objects, key by key and value by value. -/
def Value.decideEqMembers : (xs ys : List (String × Value)) → Decidable (xs = ys)
  | [], [] => .isTrue rfl
  | [], _ :: _ | _ :: _, [] => .isFalse (by simp)
  | (k, x) :: xs, (l, y) :: ys =>
    if hk : k = l then
      match Value.decideEq x y, Value.decideEqMembers xs ys with
      | .isTrue h, .isTrue t => .isTrue (by rw [hk, h, t])
      | .isFalse h, _ => .isFalse (by simp [h])
      | _, .isFalse t => .isFalse (by simp [t])
    else .isFalse (by simp [hk])

end

instance : DecidableEq Value := Value.decideEq

namespace Members

/-- The value under a key. -/
def find? (key : String) : Members → Option Value
  | [] => none
  | (k, v) :: r => if k = key then some v else find? key r

/-- Put a value under a key, in its place in the order and instead of any value
the key had. -/
def insert (key : String) (value : Value) : Members → Members
  | [] => [(key, value)]
  | (k, v) :: r =>
    if key = k then (key, value) :: r
    else if key < k then (key, value) :: (k, v) :: r
    else (k, v) :: insert key value r

/-- Take a key and its value away. -/
def erase (key : String) (ms : Members) : Members := ms.filter fun m => m.1 ≠ key

/-- The members of a list of pairs; of equal keys the later wins. -/
def ofList (pairs : List (String × Value)) : Members :=
  pairs.foldl (fun ms p => ms.insert p.1 p.2) []

/-- The keys in strictly ascending order. -/
def Sorted (ms : Members) : Prop := ms.Pairwise fun a b => a.1 < b.1

/-- Nothing comes in but the member that is inserted. -/
theorem mem_insert {p : String × Value} {key : String} {value : Value} {ms : Members}
    (h : p ∈ ms.insert key value) : p = (key, value) ∨ p ∈ ms := by
  induction ms with
  | nil => simpa [insert] using h
  | cons m r ih =>
    obtain ⟨k, v⟩ := m
    simp only [insert] at h
    split at h
    · rcases List.mem_cons.1 h with h | h
      · exact .inl h
      · exact .inr (List.mem_cons_of_mem _ h)
    · split at h
      · rcases List.mem_cons.1 h with h | h
        · exact .inl h
        · exact .inr h
      · rcases List.mem_cons.1 h with h | h
        · exact .inr (h ▸ List.mem_cons_self)
        · exact (ih h).imp_right (List.mem_cons_of_mem _)

/-- **Adding a member keeps the order.** -/
theorem Sorted.insert {ms : Members} (h : Sorted ms) (key : String) (value : Value) :
    Sorted (Members.insert key value ms) := by
  induction ms with
  | nil => simp [Members.insert, Sorted]
  | cons m r ih =>
    obtain ⟨k, v⟩ := m
    have hr : Sorted r := (List.pairwise_cons.1 h).2
    have hk : ∀ p ∈ r, k < p.1 := (List.pairwise_cons.1 h).1
    simp only [Members.insert]
    split
    · next e => subst e; exact List.pairwise_cons.2 ⟨hk, hr⟩
    · next hne =>
      split
      · next hlt =>
        refine List.pairwise_cons.2 ⟨fun p hp => ?_, h⟩
        rcases List.mem_cons.1 hp with rfl | hp
        · exact hlt
        · exact String.lt_trans hlt (hk p hp)
      · next hnlt =>
        refine List.pairwise_cons.2 ⟨fun p hp => ?_, ih hr⟩
        rcases mem_insert hp with rfl | hp
        · rcases Std.lt_trichotomy k key with h' | h' | h'
          · exact h'
          · exact absurd h'.symm hne
          · exact absurd h' hnlt
        · exact hk p hp

/-- The member that was inserted is found under its key. -/
@[simp] theorem find?_insert_self (key : String) (value : Value) (ms : Members) :
    (ms.insert key value).find? key = some value := by
  induction ms with
  | nil => simp [insert, find?]
  | cons m r ih =>
    obtain ⟨k, v⟩ := m
    simp only [insert]
    split
    · simp [find?]
    · next hne =>
      split
      · simp [find?]
      · simp [find?, Ne.symm hne, ih]

/-- Under other keys the same is found as before. -/
theorem find?_insert_of_ne {key other : String} (h : other ≠ key) (value : Value)
    (ms : Members) : (ms.insert key value).find? other = ms.find? other := by
  induction ms with
  | nil => simp [insert, find?, Ne.symm h]
  | cons m r ih =>
    obtain ⟨k, v⟩ := m
    simp only [insert]
    split
    · next e => subst e; simp [find?, Ne.symm h]
    · split
      · simp [find?, Ne.symm h]
      · simp only [find?, ih]

end Members

namespace Value

/-- An object from pairs in any order; of equal keys the later wins. -/
def ofPairs (pairs : List (String × Value)) : Value := .object (Members.ofList pairs)

/-- An optional value, null standing for none. -/
def ofOption {α : Type} (f : α → Value) : Option α → Value
  | none => .null
  | some a => f a

/-- A natural number as a value. -/
def ofNat (n : Nat) : Value := .number (.int n)

/-- The text of a string value. -/
def text? : Value → Option String
  | .string s => some s
  | _ => none

/-- The members of an object value. -/
def members? : Value → Option Members
  | .object ms => some ms
  | _ => none

/-- The truth value of a boolean value. -/
def bool? : Value → Option Bool
  | .bool b => some b
  | _ => none

/-- Whether a value is an object or an array. -/
def isStructured : Value → Bool
  | .array _ | .object _ => true
  | _ => false

end Value
end Json
end Errand
