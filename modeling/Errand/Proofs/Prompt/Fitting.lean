/-
# How sections are made to fit a budget

SPEC_FULL.md, section 11.1, on the byte budget of a prompt.

What fitting takes away is listed as it goes: sections are dropped one after another, each
from sections that exceed the budget and each the first that may be dropped of its key
(`Drops`).  The keys are those of `dropOrder`, in that order, and dropping goes on for as
long as the budget is exceeded (`drops_foldl`).  What is left is a part of the sections with
all the required ones in it, in their order.

Only if that is still too long is a section changed, and then it is the last one: it is cut
to the longest start that there is room for, and marked where there is room for more than
the mark (`truncated_isCut`).

`fit_isFitting` puts the two together with what comes of it: the whole keeps within the
budget if the sections ahead of the last one leave room, and otherwise nothing is left of
the last one.
-/

import Errand.Proofs.Prompt.Budget

namespace Errand
namespace Prompt

/-! ### Cutting a content short -/

/-- The room for a start of a content, where there is so much for all of it: the mark takes
its part if there is more room than it needs. -/
def roomForStart (room : Nat) : Nat :=
  if truncationMark.utf8ByteSize < room then room - truncationMark.utf8ByteSize else room

/-- The content `cut` is `content` cut short to a room in bytes, `start` being what is kept
of it. -/
structure IsCut (room : Nat) (content : String) (start : List Char) (cut : String) : Prop where
  start_prefix : start <+: content.toList
  /-- The start fits, -/
  size_start : (String.ofList start).utf8ByteSize ≤ roomForStart room
  /-- and every other start that fits is a start of it. -/
  longest : ∀ other, other <+: content.toList →
    (String.ofList other).utf8ByteSize ≤ roomForStart room → other <+: start
  marked : truncationMark.utf8ByteSize < room → cut = .ofList start ++ truncationMark
  unmarked : room ≤ truncationMark.utf8ByteSize → cut = .ofList start

/-- **No start that fits is longer,** by induction on the text: both starts take the same
first character from it, and its bytes from the room. -/
theorem prefix_startWithin {n : Nat} {s t : List Char} (ht : t <+: s)
    (hsize : (String.ofList t).utf8ByteSize ≤ n) : t <+: startWithin n s := by
  induction s generalizing n t with
  | nil =>
    rw [List.prefix_nil.1 ht]
    exact List.nil_prefix
  | cons c r ih =>
    cases t with
    | nil => exact List.nil_prefix
    | cons d t =>
      obtain ⟨rfl, hrest⟩ := List.cons_prefix_cons.1 ht
      rw [String.ofList_cons, String.utf8ByteSize_append, String.utf8ByteSize_singleton] at hsize
      have hfits : d.utf8Size ≤ n := by omega
      have htail : (String.ofList t).utf8ByteSize ≤ n - d.utf8Size := by omega
      rw [startWithin, if_pos hfits]
      exact List.cons_prefix_cons.2 ⟨rfl, ih hrest htail⟩

/-- A section is cut to the longest start that leaves room for the mark. -/
theorem truncated_isCut (room : Nat) (content : String) :
    IsCut room content (startWithin (roomForStart room) content.toList)
      (truncated room content) where
  start_prefix := startWithin_prefix _ _
  size_start := size_startWithin_le _ _
  longest _ hprefix hsize := prefix_startWithin hprefix hsize
  marked hroom := by
    rw [truncated, roomForStart]
    simp only [if_pos hroom]
  unmarked hroom := by
    rw [truncated, roomForStart]
    simp only [if_neg (Nat.not_lt.2 hroom)]

/-! ### Dropping sections -/

/-- The sections `dropped` were taken out of `ss` one after another, and left `kept`.  Each
may be dropped, is the first such of its key, and was taken out of sections that exceeded
the budget. -/
inductive Drops (budget : Nat) : (ss dropped kept : List Section) → Prop
  | stop (ss : List Section) : Drops budget ss [] ss
  | drop {before after dropped kept : List Section} {s : Section} :
      budget < joinedSize (before ++ s :: after) → s.isRequired = false →
        (∀ t ∈ before, t.key = s.key → t.isRequired = true) →
          Drops budget (before ++ after) dropped kept →
            Drops budget (before ++ s :: after) (s :: dropped) kept

namespace Drops

variable {budget : Nat} {ss dropped kept : List Section}

/-- What is kept stands in the old order. -/
theorem sublist (h : Drops budget ss dropped kept) : kept.Sublist ss := by
  induction h with
  | stop ss => exact .refl ss
  | @drop before after _ _ s _ _ _ _ ih =>
    exact ih.trans ((List.Sublist.refl before).append (List.sublist_cons_self s after))

/-- Required sections stay, in their order. -/
theorem filter_required (h : Drops budget ss dropped kept) :
    kept.filter (·.isRequired) = ss.filter (·.isRequired) := by
  induction h with
  | stop ss => rfl
  | drop _ hs _ _ ih =>
    rw [ih, List.filter_append, List.filter_append, List.filter_cons_of_neg (by simp [hs])]

/-- Nothing is dropped of what fits. -/
theorem eq_of_le (h : Drops budget ss dropped kept) (hfits : joinedSize ss ≤ budget) :
    dropped = [] ∧ kept = ss := by
  cases h with
  | stop _ => exact ⟨rfl, rfl⟩
  | drop hover _ _ _ => exact absurd hfits (Nat.not_le.2 hover)

end Drops

/-- Either no section of a key may be dropped, or the first such section is. -/
theorem dropFirst_cases (ss : List Section) (key : String) :
    ((∀ s ∈ ss, s.key = key → s.isRequired = true) ∧ dropFirst ss key = ss) ∨
      ∃ before s after, ss = before ++ s :: after ∧ s.key = key ∧ s.isRequired = false ∧
        (∀ t ∈ before, t.key = key → t.isRequired = true) ∧
          dropFirst ss key = before ++ after := by
  have hkeep (t : Section) : ¬(t.key == key && !t.isRequired) = true ↔
      (t.key = key → t.isRequired = true) := by
    simp
  rcases List.exists_or_eq_self_of_eraseP (fun s => s.key == key && !s.isRequired) ss with
    hnone | ⟨s, before, after, hbefore, hs, hsplit, herase⟩
  · exact .inl ⟨fun s hs => (hkeep s).1 (List.eraseP_eq_self_iff.1 hnone s hs), hnone⟩
  · obtain ⟨hkey, hdroppable⟩ : s.key = key ∧ s.isRequired = false := by simpa using hs
    exact .inr ⟨before, s, after, hsplit, hkey, hdroppable,
      fun t ht => (hkeep t).1 (hbefore t ht), herase⟩

/-- **What dropping by keys takes away,** by induction on the keys: at most one section for
each, in their order, and one for each that has any for as long as the budget is
exceeded. -/
theorem drops_foldl (budget : Nat) (keys : List String) (ss : List Section) :
    ∃ dropped, Drops budget ss dropped (keys.foldl (dropSection budget) ss) ∧
      (dropped.map (·.key)).Sublist keys ∧
      (budget < joinedSize (keys.foldl (dropSection budget) ss) →
        ∀ s ∈ ss, s.isRequired = false → s.key ∈ keys → s.key ∈ dropped.map (·.key)) := by
  induction keys generalizing ss with
  | nil => exact ⟨[], .stop ss, .slnil, fun _ _ _ _ hkey => absurd hkey List.not_mem_nil⟩
  | cons key keys ih =>
    rw [List.foldl_cons]
    by_cases hfits : joinedSize ss ≤ budget
    · obtain ⟨dropped, hdrops, hkeys, -⟩ := ih ss
      have hsize := joinedSize_le_of_sublist (foldl_sublist (dropSection_sublist budget) keys ss)
      rw [dropSection, if_pos hfits]
      exact ⟨dropped, hdrops, hkeys.cons key, fun hover => absurd hover (by omega)⟩
    · have hdrop : dropSection budget ss key = dropFirst ss key := if_neg hfits
      rw [hdrop]
      rcases dropFirst_cases ss key with
        ⟨hnone, hsame⟩ | ⟨before, s, after, rfl, rfl, hs, hbefore, hrest⟩
      · obtain ⟨dropped, hdrops, hkeys, hall⟩ := ih ss
        rw [hsame]
        refine ⟨dropped, hdrops, hkeys.cons key, fun hover s hs hdroppable hkey => ?_⟩
        rcases List.mem_cons.1 hkey with hkey | hkey
        · rw [hnone s hs hkey] at hdroppable
          cases hdroppable
        · exact hall hover s hs hdroppable hkey
      · obtain ⟨dropped, hdrops, hkeys, hall⟩ := ih (before ++ after)
        rw [hrest]
        refine ⟨s :: dropped, .drop (Nat.lt_of_not_le hfits) hs hbefore hdrops,
          hkeys.cons_cons s.key, fun hover t ht hdroppable hkey => ?_⟩
        rw [List.map_cons]
        by_cases hsame : t.key = s.key
        · exact hsame ▸ List.mem_cons_self
        · have hleft : t ∈ before ++ after := by
            rcases List.mem_append.1 ht with ht | ht
            · exact List.mem_append_left _ ht
            · rcases List.mem_cons.1 ht with rfl | ht
              · exact absurd rfl hsame
              · exact List.mem_append_right _ ht
          exact List.mem_cons_of_mem _
            (hall hover t hleft hdroppable ((List.mem_cons.1 hkey).resolve_left hsame))

/-! ### Fitting -/

/-- All that making sections `ss` fit a budget comes to: the sections `dropped` were dropped,
`kept` were left, and `result` is what was made of them. -/
structure IsFitting (budget : Nat) (ss dropped kept result : List Section) : Prop where
  /-- Sections are dropped that may be, and only while the whole exceeds the budget, -/
  drops : Drops budget ss dropped kept
  /-- at most one for each key and in the order of the keys, -/
  keys : (dropped.map (·.key)).Sublist dropOrder
  /-- and where the budget is still exceeded, one for each key that any can be dropped of. -/
  spent : budget < joinedSize kept →
    ∀ s ∈ ss, s.isRequired = false → s.key ∈ dropOrder → s.key ∈ dropped.map (·.key)
  order : kept.Sublist ss
  required : kept.filter (·.isRequired) = ss.filter (·.isRequired)
  /-- What fits from the start is left as it is, -/
  unchanged : joinedSize ss ≤ budget → result = ss
  /-- and so is what fits once sections are dropped. -/
  whole : joinedSize kept ≤ budget → result = kept
  /-- Otherwise the last section is cut short to the room that those ahead of it leave. -/
  cut : budget < joinedSize kept → ∃ before last start content, kept = before ++ [last] ∧
    IsCut (budget - sizeAhead before) last.content start content ∧
      result = before ++ [{ last with content }]
  within : sizeAhead kept.dropLast ≤ budget → joinedSize result ≤ budget
  emptied : budget ≤ sizeAhead kept.dropLast → ∀ s, result.getLast? = some s → s.content = ""

/-- Sections that exceed the budget have a last one, which is cut. -/
theorem truncateLast_cuts {budget : Nat} {kept : List Section} (h : budget < joinedSize kept) :
    ∃ before last start content, kept = before ++ [last] ∧
      IsCut (budget - sizeAhead before) last.content start content ∧
        truncateLast budget kept = before ++ [{ last with content }] := by
  rcases List.eq_nil_or_concat kept with rfl | ⟨before, last, rfl⟩
  · simp [joinedSize] at h
  · rw [List.concat_eq_append] at h ⊢
    exact ⟨before, last, _, _, rfl, truncated_isCut _ _, truncateLast_concat h⟩

/-- Where the sections ahead fit, all fits once the last is cut. -/
theorem joinedSize_truncateLast_le {budget : Nat} {kept : List Section}
    (h : sizeAhead kept.dropLast ≤ budget) : joinedSize (truncateLast budget kept) ≤ budget := by
  by_cases hover : budget < joinedSize kept
  · exact (joinedSize_truncateLast_le_iff hover).2 h
  · have hfits : joinedSize kept ≤ budget := Nat.le_of_not_lt hover
    rwa [truncateLast_of_le hfits]

/-- Where the others leave no room the last section ends up empty. -/
theorem content_truncateLast {budget : Nat} {kept : List Section} {s : Section}
    (h : budget ≤ sizeAhead kept.dropLast) (hs : (truncateLast budget kept).getLast? = some s) :
    s.content = "" := by
  rcases List.eq_nil_or_concat kept with rfl | ⟨before, last, rfl⟩
  · rw [truncateLast_of_le (Nat.zero_le budget)] at hs
    cases hs
  · rw [List.concat_eq_append] at h hs
    rw [List.dropLast_concat] at h
    by_cases hover : budget < joinedSize (before ++ [last])
    · have hroom : budget - sizeAhead before = 0 := by omega
      rw [truncateLast_concat hover, List.getLast?_concat, hroom, truncated_zero] at hs
      rw [← Option.some.inj hs]
    · have hfits : joinedSize (before ++ [last]) ≤ budget := Nat.le_of_not_lt hover
      rw [truncateLast_of_le hfits, List.getLast?_concat] at hs
      rw [joinedSize_concat, Option.some.inj hs] at hfits
      have hsize : s.content.utf8ByteSize = 0 := by omega
      exact String.utf8ByteSize_eq_zero_iff.1 hsize

/-- **What fitting a budget comes to.**  Whatever the sections and the budget, some of them
are dropped in the order of the keys while the whole is too long, and if it still is, the
last one that is left is cut short.  No other section is changed, and the whole keeps within
the budget unless the sections ahead of the last one exceed it by themselves. -/
theorem fit_isFitting (budget : Nat) (ss : List Section) :
    ∃ dropped kept, IsFitting budget ss dropped kept (fit budget ss) := by
  obtain ⟨dropped, hdrops, hkeys, hspent⟩ := drops_foldl budget dropOrder ss
  have hfit : fit budget ss =
      truncateLast budget (dropOrder.foldl (dropSection budget) ss) := rfl
  rw [hfit]
  generalize dropOrder.foldl (dropSection budget) ss = kept at *
  refine ⟨dropped, kept, ⟨hdrops, hkeys, hspent, hdrops.sublist, hdrops.filter_required,
    fun hfits => ?_, truncateLast_of_le, truncateLast_cuts, joinedSize_truncateLast_le,
    fun h s hs => content_truncateLast h hs⟩⟩
  obtain ⟨-, rfl⟩ := hdrops.eq_of_le hfits
  exact truncateLast_of_le hfits

/-- A section that may be dropped goes, although it is short, and then the last one is cut in
the middle of its second character's bytes, before that character. -/
example : fit 25 [⟨"goal", true, "find it"⟩, ⟨"bindings", false, "a = 1"⟩,
      ⟨"step", true, "aéèmore than fits"⟩] =
    [⟨"goal", true, "find it"⟩, ⟨"step", true, "aé\n[truncated]"⟩] := by
  decide +kernel

end Prompt
end Errand
