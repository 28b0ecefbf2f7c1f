/-
# Patterns

Regular expressions of the kind found in schemas.  A pattern denotes, for every
place of a text, the places its matches from there may end at (`Pattern.reach`),
and a text matches if a match starts anywhere in it.  Classes such as `\d` are
ASCII.
-/

import Errand.Text.Blank

namespace Errand
namespace Text

/-- A set of characters: closed ranges, or all characters outside them. -/
structure CharSet where
  negated : Bool
  ranges : List (Nat × Nat)
deriving DecidableEq, Repr

/-- Whether a character belongs to the set. -/
def CharSet.holds (s : CharSet) (c : Char) : Bool :=
  (s.ranges.any fun r => r.1 ≤ c.toNat && c.toNat ≤ r.2) != s.negated

/-- A regular expression. -/
inductive Pattern where
  | empty
  | one (set : CharSet)
  | first
  | last
  /-- A place where a word begins or ends, or with `false` one where none does. -/
  | edge (present : Bool)
  | both (p q : Pattern)
  | either (p q : Pattern)
  /-- At least `least` times, and at most `least + more` times if that is given. -/
  | times (p : Pattern) (least : Nat) (more : Option Nat)
deriving Repr

namespace Pattern

/-- Places without repetition. -/
def merge (a b : List Nat) : List Nat := b.foldl (fun s n => if s.contains n then s else s ++ [n]) a

/-- The places reached from several places. -/
def fromAll (f : Nat → List Nat) (is : List Nat) : List Nat :=
  is.foldl (fun s i => merge s (f i)) []

/-- The places reached by exactly `n` steps. -/
def exactly (f : Nat → List Nat) : Nat → List Nat → List Nat
  | 0, is => is
  | n + 1, is => exactly f n (fromAll f is)

/-- The places reached by at most `n` steps. -/
def atMost (f : Nat → List Nat) : Nat → List Nat → List Nat
  | 0, is => is
  | n + 1, is =>
    let next := merge is (fromAll f is)
    if next.length = is.length then is else atMost f n next

/-- Whether the character at a place is one of a word. -/
def wordAt (s : List Char) (i : Nat) : Bool :=
  match s[i]? with
  | some c => c.isAlphanum || c == '_'
  | none => false

/-- The places where a match from place `i` of `s` may end. -/
def reach (s : List Char) : Pattern → Nat → List Nat
  | .empty, i => [i]
  | .one set, i =>
    match s[i]? with
    | some c => if set.holds c then [i + 1] else []
    | none => []
  | .first, i => if i = 0 then [i] else []
  | .last, i => if i = s.length then [i] else []
  | .edge present, i =>
    if ((0 < i && wordAt s (i - 1)) != wordAt s i) == present then [i] else []
  | .both p q, i => fromAll (reach s q) (reach s p i)
  | .either p q, i => merge (reach s p i) (reach s q i)
  | .times p least more, i =>
    let bound := s.length + 1
    atMost (reach s p) (min (more.getD bound) bound) (exactly (reach s p) least [i])

/-- Whether some part of a text matches. -/
def matchesPart (p : Pattern) (text : String) : Bool :=
  let s := text.toList
  (List.range (s.length + 1)).any fun i => !(reach s p i).isEmpty

/-! ### Reading patterns -/

/-- A single character as a set. -/
def single (c : Char) : CharSet := ⟨false, [(c.toNat, c.toNat)]⟩

/-- The set that a letter after a backslash stands for. -/
def classOf? : Char → Option CharSet
  | 'd' => some ⟨false, [(48, 57)]⟩
  | 'D' => some ⟨true, [(48, 57)]⟩
  | 'w' => some ⟨false, [(48, 57), (65, 90), (95, 95), (97, 122)]⟩
  | 'W' => some ⟨true, [(48, 57), (65, 90), (95, 95), (97, 122)]⟩
  | 's' => some ⟨false, [(9, 13), (32, 32), (0xA0, 0xA0), (0x1680, 0x1680), (0x2000, 0x200A),
      (0x2028, 0x2029), (0x202F, 0x202F), (0x205F, 0x205F), (0x3000, 0x3000), (0xFEFF, 0xFEFF)]⟩
  | 'S' => some ⟨true, [(9, 13), (32, 32), (0xA0, 0xA0), (0x1680, 0x1680), (0x2000, 0x200A),
      (0x2028, 0x2029), (0x202F, 0x202F), (0x205F, 0x205F), (0x3000, 0x3000), (0xFEFF, 0xFEFF)]⟩
  | _ => none

/-- The value of hexadecimal digits. -/
def hexValue? (cs : List Char) : Option Nat :=
  cs.foldl (fun n? c => do
    let n ← n?
    if c.isDigit then some (16 * n + (c.toNat - 48))
    else if 'a' ≤ c ∧ c ≤ 'f' then some (16 * n + (c.toNat - 87))
    else if 'A' ≤ c ∧ c ≤ 'F' then some (16 * n + (c.toNat - 55))
    else none) (some 0)

/-- The character that an escape stands for, its backslash already read. -/
def escapedChar? : List Char → Option (Char × List Char)
  | 'n' :: r => some ('\n', r)
  | 't' :: r => some ('\t', r)
  | 'r' :: r => some ('\r', r)
  | 'f' :: r => some (Char.ofNat 12, r)
  | 'v' :: r => some (Char.ofNat 11, r)
  | '0' :: r => some (Char.ofNat 0, r)
  | 'x' :: a :: b :: r => (hexValue? [a, b]).map fun n => (Char.ofNat n, r)
  | 'u' :: a :: b :: c :: d :: r => (hexValue? [a, b, c, d]).map fun n => (Char.ofNat n, r)
  | c :: r => if c.isAlphanum then none else some (c, r)
  | [] => none

/-- The ranges of a bracketed set up to its closing bracket. -/
def readRanges : (fuel : Nat) → List Char → Option (List (Nat × Nat) × List Char)
  | 0, _ => none
  | fuel + 1, s =>
    match s with
    | [] => none
    | ']' :: r => some ([], r)
    | _ => do
      let (item, r) ← item? s
      match item with
      | .inl ranges =>
        let (rest, r) ← readRanges fuel r
        some (ranges ++ rest, r)
      | .inr c =>
        match r with
        | '-' :: ']' :: _ =>
          let (rest, r) ← readRanges fuel r
          some ((c.toNat, c.toNat) :: rest, r)
        | '-' :: r' =>
          match ← item? r' with
          | (.inr d, r) =>
            if d.toNat < c.toNat then none
            else
              let (rest, r) ← readRanges fuel r
              some ((c.toNat, d.toNat) :: rest, r)
          | (.inl _, _) => none
        | _ =>
          let (rest, r) ← readRanges fuel r
          some ((c.toNat, c.toNat) :: rest, r)
where
  /-- A character or a class inside brackets. -/
  item? : List Char → Option ((List (Nat × Nat) ⊕ Char) × List Char)
    | '\\' :: 'b' :: r => some (.inr (Char.ofNat 8), r)
    | '\\' :: c :: r =>
      match classOf? c with
      | some ⟨false, ranges⟩ => some (.inl ranges, r)
      | some ⟨true, _⟩ => none
      | none => (escapedChar? (c :: r)).map fun (d, r) => (.inr d, r)
    | c :: r => some (.inr c, r)
    | [] => none

/-- The bounds in braces, the opening one already read. -/
def readBounds? (s : List Char) : Option (Nat × Option Nat × List Char) :=
  let number (s : List Char) : Option Nat × List Char :=
    let ds := s.takeWhile Char.isDigit
    (if ds.isEmpty then none else some (ds.foldl (fun n d => 10 * n + (d.toNat - 48)) 0),
      s.dropWhile Char.isDigit)
  match number s with
  | (some lo, '}' :: r) => some (lo, some 0, r)
  | (some lo, ',' :: r) =>
    match number r with
    | (none, '}' :: r) => some (lo, none, r)
    | (some hi, '}' :: r) => if hi < lo then none else some (lo, some (hi - lo), r)
    | _ => none
  | _ => none

/-- A repetition after a pattern, if one stands here. -/
def readRepetition (p : Pattern) (s : List Char) : Pattern × List Char :=
  let lazily (r : List Char) : List Char := match r with
    | '?' :: r => r
    | r => r
  match s with
  | '*' :: r => (.times p 0 none, lazily r)
  | '+' :: r => (.times p 1 none, lazily r)
  | '?' :: r => (.times p 0 (some 1), lazily r)
  | '{' :: r =>
    match readBounds? r with
    | some (lo, more, r) => (.times p lo more, lazily r)
    | none => (p, s)
  | _ => (p, s)

mutual

/-- Alternatives, up to a closing parenthesis or the end. -/
def readAlternatives : (fuel : Nat) → List Char → Option (Pattern × List Char)
  | 0, _ => none
  | fuel + 1, s => do
    let (p, r) ← readSequence fuel s
    match r with
    | '|' :: r =>
      let (q, r) ← readAlternatives fuel r
      some (.either p q, r)
    | r => some (p, r)

/-- Patterns one after the other. -/
def readSequence : (fuel : Nat) → List Char → Option (Pattern × List Char)
  | 0, _ => none
  | fuel + 1, s =>
    match s with
    | [] => some (.empty, [])
    | '|' :: _ => some (.empty, s)
    | ')' :: _ => some (.empty, s)
    | _ => do
      let (p, r) ← readAtom fuel s
      let (p, r) := readRepetition p r
      let (q, r) ← readSequence fuel r
      some (.both p q, r)

/-- A pattern without repetition. -/
def readAtom : (fuel : Nat) → List Char → Option (Pattern × List Char)
  | 0, _ => none
  | fuel + 1, s =>
    match s with
    | '^' :: r => some (.first, r)
    | '$' :: r => some (.last, r)
    | '.' :: r => some (.one ⟨true, [(10, 10), (13, 13), (0x2028, 0x2029)]⟩, r)
    | '(' :: '?' :: ':' :: r => group fuel r
    | '(' :: '?' :: _ => none
    | '(' :: r => group fuel r
    | '[' :: '^' :: r =>
      (readRanges (r.length + 1) r).map fun (ranges, r) => (.one ⟨true, ranges⟩, r)
    | '[' :: r => (readRanges (r.length + 1) r).map fun (ranges, r) => (.one ⟨false, ranges⟩, r)
    | '\\' :: 'b' :: r => some (.edge true, r)
    | '\\' :: 'B' :: r => some (.edge false, r)
    | '\\' :: c :: r =>
      match classOf? c with
      | some set => some (.one set, r)
      | none => (escapedChar? (c :: r)).map fun (d, r) => (.one (single d), r)
    | '*' :: _ | '+' :: _ | '?' :: _ | ['\\'] | [] => none
    | c :: r => some (.one (single c), r)

/-- A group, its opening already read. -/
def group : (fuel : Nat) → List Char → Option (Pattern × List Char)
  | 0, _ => none
  | fuel + 1, s =>
    match readAlternatives fuel s with
    | some (p, ')' :: r) => some (p, r)
    | _ => none

end

/-- The pattern that a text spells. -/
def ofText? (text : String) : Option Pattern :=
  match readAlternatives (4 * text.toList.length + 4) text.toList with
  | some (p, []) => some p
  | _ => none

end Pattern
end Text
end Errand
