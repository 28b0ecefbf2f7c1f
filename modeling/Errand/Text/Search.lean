/-
# Finding one text in another

`cut?` splits a text at the first place where another stands, and `contains` asks
whether there is such a place.
-/

namespace Errand
namespace Text

/-- What is left of `s` after the characters of `p` at its start. -/
def stripPrefix? : (p s : List Char) → Option (List Char)
  | [], s => some s
  | _ :: _, [] => none
  | c :: p, d :: s => if c = d then stripPrefix? p s else none

/-- The parts of `s` before and after the first place where `p` stands. -/
def cut? (p : List Char) : List Char → Option (List Char × List Char)
  | [] => (stripPrefix? p []).map ([], ·)
  | c :: r =>
    match stripPrefix? p (c :: r) with
    | some t => some ([], t)
    | none => (cut? p r).map fun (a, b) => (c :: a, b)

/-- Whether `p` stands somewhere in `s`. -/
def contains (p s : List Char) : Bool := (cut? p s).isSome

/-- A prefix can be stripped exactly if the text starts with it, and the rest is left. -/
theorem stripPrefix?_eq_some_iff {p s t : List Char} : stripPrefix? p s = some t ↔ s = p ++ t := by
  induction p generalizing s with
  | nil => simp [stripPrefix?, eq_comm]
  | cons c p ih =>
    cases s with
    | nil => simp [stripPrefix?]
    | cons d s =>
      simp only [stripPrefix?, List.cons_append, List.cons.injEq]
      split
      · next h => simp [h, ih]
      · next h => simp [Ne.symm h]

/-- **Cutting loses nothing.** -/
theorem eq_of_cut?_eq_some {p s a b : List Char} (h : cut? p s = some (a, b)) :
    s = a ++ p ++ b := by
  induction s generalizing a with
  | nil =>
    obtain ⟨t, ht, e⟩ := Option.map_eq_some_iff.1 h
    obtain ⟨rfl, rfl⟩ := Prod.mk.inj e
    simpa using stripPrefix?_eq_some_iff.1 ht
  | cons c r ih =>
    simp only [cut?] at h
    split at h
    · next t ht =>
      obtain ⟨rfl, rfl⟩ := Prod.mk.inj (Option.some.inj h)
      simpa using stripPrefix?_eq_some_iff.1 ht
    · obtain ⟨⟨a', b'⟩, h', e⟩ := Option.map_eq_some_iff.1 h
      obtain ⟨rfl, rfl⟩ := Prod.mk.inj e
      simp [ih h']

/-- **A text contains exactly its contiguous parts.** -/
theorem contains_iff {p s : List Char} : contains p s = true ↔ ∃ a b, s = a ++ p ++ b := by
  constructor
  · intro h
    obtain ⟨⟨a, b⟩, h⟩ := Option.isSome_iff_exists.1 h
    exact ⟨a, b, eq_of_cut?_eq_some h⟩
  · rintro ⟨a, b, rfl⟩
    induction a with
    | nil =>
      have hp : stripPrefix? p (p ++ b) = some b := stripPrefix?_eq_some_iff.2 rfl
      cases p with
      | nil => cases b <;> simp [contains, cut?, stripPrefix?]
      | cons c p => simp_all [contains, cut?]
    | cons c a ih =>
      simp only [contains, List.cons_append, cut?] at ih ⊢
      split
      · rfl
      · simpa using ih

end Text
end Errand
