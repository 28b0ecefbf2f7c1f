/-
# Blank characters, trimming and words

A character is blank when it has the Unicode property `White_Space`.  Every
trimming in the library removes exactly these characters, and a word is a
maximal run of the others.

`trimChars_of_solid` says that a text with no blank at either end is left
alone, `trimChars_blanks_around` that blanks put around a text are trimmed away,
and `blanks_around_trimChars` that nothing else is.
-/

namespace Errand
namespace Text

/-- The characters with the Unicode property `White_Space`. -/
def isBlank (c : Char) : Bool :=
  let n := c.toNat
  (9 ≤ n && n ≤ 13) || n == 0x20 || n == 0x85 || n == 0xA0 || n == 0x1680 ||
    (0x2000 ≤ n && n ≤ 0x200A) || n == 0x2028 || n == 0x2029 || n == 0x202F ||
    n == 0x205F || n == 0x3000

/-- The characters of a text after its leading blanks. -/
def trimStartChars (s : List Char) : List Char := s.dropWhile isBlank

/-- The characters of a text before its trailing blanks. -/
def trimEndChars (s : List Char) : List Char := (s.reverse.dropWhile isBlank).reverse

/-- The characters of a text between its leading and its trailing blanks. -/
def trimChars (s : List Char) : List Char := trimEndChars (trimStartChars s)

/-- A text without its leading and trailing blanks. -/
def trim (s : String) : String := .ofList (trimChars s.toList)

/-- A text of blanks alone, the empty text included. -/
def isBlankText (s : String) : Bool := s.toList.all isBlank

/-- The trimmed text, unless nothing remains of it. -/
def trimmed? (s : String) : Option String :=
  let t := trim s
  if t.isEmpty then none else some t

/-- How many words a text holds; `fresh` says that no word is open yet. -/
def wordCountFrom (fresh : Bool) : List Char → Nat
  | [] => 0
  | c :: r =>
    if isBlank c then wordCountFrom true r
    else (if fresh then 1 else 0) + wordCountFrom false r

/-- How many maximal runs of characters that are not blank a text holds. -/
def wordCount (s : String) : Nat := wordCountFrom true s.toList

@[simp] theorem toList_trim (s : String) : (trim s).toList = trimChars s.toList := by
  simp [trim]

/-- **A solid text is its own trimming:** if neither end is blank, nothing goes. -/
theorem trimChars_of_solid {s : List Char} (hfirst : ∀ c, s.head? = some c → isBlank c = false)
    (hlast : ∀ c, s.getLast? = some c → isBlank c = false) : trimChars s = s := by
  have drop_solid : ∀ t : List Char, (∀ c, t.head? = some c → isBlank c = false) →
      t.dropWhile isBlank = t := by
    intro t ht
    cases t with
    | nil => rfl
    | cons c r => simp [List.dropWhile, ht c rfl]
  rw [trimChars, trimStartChars, drop_solid s hfirst, trimEndChars,
    drop_solid s.reverse (by simpa using hlast), List.reverse_reverse]

/-- Leading blanks do not reach the trimmed text. -/
theorem trimStartChars_blank_append {b s : List Char} (hb : b.all isBlank = true) :
    trimStartChars (b ++ s) = trimStartChars s := by
  induction b with
  | nil => rfl
  | cons c r ih =>
    simp only [List.all_cons, Bool.and_eq_true] at hb
    simp only [trimStartChars, List.cons_append, List.dropWhile, hb.1]
    exact ih hb.2

/-- Of blanks alone nothing is left. -/
theorem trimStartChars_of_blank {b : List Char} (hb : b.all isBlank = true) :
    trimStartChars b = [] := by
  have := trimStartChars_blank_append (s := []) hb
  rwa [List.append_nil] at this

/-- Trailing blanks do not reach the trimmed text. -/
theorem trimEndChars_append_blank {s b : List Char} (hb : b.all isBlank = true) :
    trimEndChars (s ++ b) = trimEndChars s := by
  have h : b.reverse.all isBlank = true := by simpa using hb
  have := trimStartChars_blank_append (s := s.reverse) h
  unfold trimStartChars at this
  rw [trimEndChars, trimEndChars, List.reverse_append, this]

/-- **Blanks around a text are trimmed away.** -/
theorem trimChars_blanks_around {lead s trail : List Char} (hl : lead.all isBlank = true)
    (ht : trail.all isBlank = true) : trimChars (lead ++ s ++ trail) = trimChars s := by
  rw [trimChars, List.append_assoc, trimStartChars_blank_append hl, trimChars, trimStartChars,
    trimStartChars, List.dropWhile_append]
  split
  · next h =>
    have := trimStartChars_of_blank ht
    unfold trimStartChars at this
    rw [this, List.isEmpty_iff.1 h]
  · exact trimEndChars_append_blank ht

/-- The blanks at the start of a text. -/
def leadingBlanks (s : List Char) : List Char := s.takeWhile isBlank

/-- The blanks at the end of a text, unless they are at its start as well. -/
def trailingBlanks (s : List Char) : List Char :=
  ((trimStartChars s).reverse.takeWhile isBlank).reverse

/-- What is taken off the start is blank, -/
theorem leadingBlanks_blank (s : List Char) : (leadingBlanks s).all isBlank = true :=
  List.all_takeWhile

/-- and so is what is taken off the end. -/
theorem trailingBlanks_blank (s : List Char) : (trailingBlanks s).all isBlank = true := by
  rw [trailingBlanks, List.all_reverse]
  exact List.all_takeWhile

/-- **Nothing but blanks is trimmed away.** -/
theorem blanks_around_trimChars (s : List Char) :
    leadingBlanks s ++ trimChars s ++ trailingBlanks s = s := by
  have h : trimChars s ++ trailingBlanks s = trimStartChars s := by
    rw [trimChars, trimEndChars, trailingBlanks, ← List.reverse_append,
      List.takeWhile_append_dropWhile, List.reverse_reverse]
  rw [List.append_assoc, h]
  exact List.takeWhile_append_dropWhile

/-- A trimmed text does not end in a blank. -/
theorem isBlank_getLast_trimChars {s : List Char} {c : Char}
    (h : (trimChars s).getLast? = some c) : isBlank c = false := by
  have hnot := List.head?_dropWhile_not isBlank (trimStartChars s).reverse
  rw [trimChars, trimEndChars, List.getLast?_reverse] at h
  rw [h] at hnot
  exact hnot

end Text
end Errand
