/-
# Where a stream of a group ends

SPEC_FULL.md, section 4.6, on errors after the first chunk.

Only the opening of a stream fails over.  An error further on is recorded of the member that
is read, and handed out; whether anything comes after it is up to the member.  So the stream
of a group ends at its first error exactly if the rest of the member's stream does
(`track_endsAtError_iff`), and then reading it records one failure at most.  A member that
goes on after an error is recorded as failed again at each further one, and a single stream
may open its breaker (`not_endsAtError_stutter`).

That a reading of the group's stream is one of the member's is `track_mirrors`.  Here it is
needed the other way round too: what can be read from the member can be read from the group
(`track_reads`), whatever the breakers are.
-/

import Errand.Proofs.Backend.Streaming

namespace Errand

variable {σ : Type}

/-- Nothing comes after an error: of the items that are read one after another, all but the
last are text. -/
def Feed.EndsAtError (feed : TextFeed σ) : Prop :=
  ∀ xs left, feed.Reads xs left → ∀ x ∈ xs.dropLast, ∃ piece, x.item = .ok piece

namespace Feed

variable {feed : TextFeed σ}

/-- A single item has nothing after it. -/
theorem endsAtError_last (read : World σ → Except Fault String × World σ) :
    (item read fun _ => done).EndsAtError := by
  intro xs left hreads
  cases hreads with
  | nil => simp
  | @cons _ f' _ x xs hnext hreads =>
    obtain ⟨hpiece, -⟩ := Prod.mk.inj hnext
    obtain ⟨-, rfl⟩ := Prod.mk.inj (Option.some.inj hpiece)
    cases hreads with
    | nil => simp
    | cons hnext' _ => cases hnext'

/-- A piece of text in front makes no difference. -/
theorem endsAtError_cons {piece : String} :
    (cons (.ok piece) feed).EndsAtError ↔ feed.EndsAtError := by
  constructor
  · intro h xs left hreads x hx
    cases xs with
    | nil => cases hx
    | cons y ys =>
      -- The piece can be read in any world, so in that of the next reading.
      let first : Reading σ (Except Fault String) := ⟨y.before, .ok piece, y.before⟩
      have hall : (cons (.ok piece) feed).Reads (first :: y :: ys) left := .cons rfl hreads
      exact h _ _ hall x (List.mem_cons_of_mem _ hx)
  · intro h xs left hreads x hx
    cases hreads with
    | nil => cases hx
    | @cons _ f' _ y ys hnext hreads =>
      obtain ⟨hpiece, -⟩ := Prod.mk.inj hnext
      obtain ⟨hitem, rfl⟩ := Prod.mk.inj (Option.some.inj hpiece)
      cases ys with
      | nil => cases hx
      | cons z zs =>
        rw [List.dropLast_cons_of_ne_nil (List.cons_ne_nil z zs)] at hx
        rcases List.mem_cons.1 hx with rfl | hx
        · exact ⟨piece, hitem.symm⟩
        · exact h _ _ hreads x hx

end Feed

namespace Failover

/-! ### What is read and what is recorded -/

/-- What is recorded of a member while its stream is read. -/
def recorded (name : String) (xs : List (Reading (State σ) (Except Fault String))) :
    List (String × Report) :=
  xs.flatMap fun x => pieceReport name x.after.now x.item

section Track

variable (g : Failover σ) (name : String) {inner left : TextFeed σ}

/-- **What can be read from a member can be read from the group.** -/
theorem track_reads {ys : List (Reading σ (Except Fault String))} (h : inner.Reads ys left) :
    ∃ xs, xs.map sharedReading = ys ∧ (g.track name inner).Reads xs (g.track name left) := by
  induction h with
  | nil f => exact ⟨[], rfl, .nil _⟩
  | @cons f f' rest y ys hnext _ ih =>
    obtain ⟨xs, rfl, hreads⟩ := ih
    let w : World (State σ) := withBreakers .fresh y.before
    have hlifted := track_next? g name (w := w) hnext
    refine ⟨⟨w, y.item, _⟩ :: xs, ?_, .cons hlifted hreads⟩
    rfl

/-- **The group's stream ends at its first error if and only if the member's does.** -/
theorem track_endsAtError_iff : (g.track name inner).EndsAtError ↔ inner.EndsAtError := by
  constructor
  · intro h ys left hreads y hy
    obtain ⟨xs, rfl, hlifted⟩ := track_reads g name hreads
    rw [← List.map_dropLast] at hy
    obtain ⟨x, hx, rfl⟩ := List.mem_map.1 hy
    exact h xs _ hlifted x hx
  · intro h xs rest hreads x hx
    obtain ⟨left, hmember, -, -⟩ := track_mirrors g name inner xs rest hreads
    refine h _ left hmember (sharedReading x) ?_
    rw [← List.map_dropLast]
    exact List.mem_map_of_mem hx

/-- One item is recorded at most once. -/
theorem length_pieceReport_le (time : Nat) (item : Except Fault String) :
    (pieceReport name time item).length ≤ 1 := by
  cases item with
  | ok piece => exact Nat.zero_le 1
  | error f =>
    rw [pieceReport]
    split
    · exact Nat.zero_le 1
    · exact Nat.le_refl 1

/-- **One failure at most is recorded of a stream that ends at its first error.** -/
theorem length_recorded_le {feed rest : TextFeed (State σ)} (h : feed.EndsAtError)
    {xs : List (Reading (State σ) (Except Fault String))} (hreads : feed.Reads xs rest) :
    (recorded name xs).length ≤ 1 := by
  rcases List.eq_nil_or_concat xs with rfl | ⟨before, last, rfl⟩
  · exact Nat.zero_le 1
  have htext : recorded name before = [] := by
    refine List.flatMap_eq_nil_iff.2 fun x hx => ?_
    obtain ⟨piece, hpiece⟩ := h _ rest hreads x (by simpa using hx)
    rw [hpiece]
    rfl
  have hsplit : recorded name (before ++ [last]) =
      recorded name before ++ pieceReport name last.after.now last.item := by
    rw [recorded, List.flatMap_append, List.flatMap_singleton]
    rfl
  rw [List.concat_eq_append, hsplit, htext, List.nil_append]
  exact length_pieceReport_le name _ _

end Track

/-! ### Opening -/

/-- What is left of a member's stream when it has been opened: its first item, if there is
one, was text and was read. -/
inductive Leaves (inner : TextFeed σ) (v v' : World σ) : TextFeed σ → Prop
  | empty : inner = .done → v' = v → Leaves inner v v' .done
  | first {piece : String} {rest : TextFeed σ} :
      inner.next? v = (some (.ok piece, rest), v') → Leaves inner v v' rest

/-- A feed of the group that goes on as what is left of a member's stream. -/
structure GoesOn (g : Failover σ) (name : String) (rest : TextFeed σ)
    (feed : TextFeed (State σ)) : Prop where
  endsAtError_iff : feed.EndsAtError ↔ rest.EndsAtError
  /-- All that reading changes in the breakers is what it records. -/
  breakers : ∀ xs left, feed.Reads xs left → ∀ x ∈ xs, x.after.state.breakers =
    x.before.state.breakers.afterAll g.policy (pieceReport name x.after.now x.item)
  once : rest.EndsAtError → ∀ xs left, feed.Reads xs left → (recorded name xs).length ≤ 1

/-- A member that serves leaves what follows its first item. -/
theorem goesOn_of_openFirst (g : Failover σ) {r : GenerationRequest} {b : Backend σ}
    {v v' : World σ} {o : String × TextFeed σ} (h : openFirst r b v = (.ok o, v')) :
    ∃ v₁ inner rest, b.openStream r v = (.ok inner, v₁) ∧ Leaves inner v₁ v' rest ∧
      GoesOn g b.name rest (g.track o.1 o.2) := by
  -- What the group hands out ends where what is left of the member's stream does.
  have goes_on {inner rest : TextFeed σ} (hends : inner.EndsAtError ↔ rest.EndsAtError) :
      GoesOn g b.name rest (g.track b.name inner) := by
    have hiff := (track_endsAtError_iff g b.name).trans hends
    refine ⟨hiff, fun xs left hreads => ?_, fun h xs left => length_recorded_le b.name (hiff.2 h)⟩
    obtain ⟨-, -, -, hbreakers⟩ := track_mirrors g b.name inner xs left hreads
    exact hbreakers
  obtain ⟨name, feed⟩ := o
  obtain ⟨rfl, inner, v₁, hopen, ⟨rfl, rfl, rfl⟩ | ⟨piece, rest, hnext, rfl⟩⟩ := openFirst_eq_ok h
  · exact ⟨_, .done, .done, hopen, .empty rfl rfl, goes_on Iff.rfl⟩
  · exact ⟨v₁, inner, rest, hopen, .first hnext, goes_on Feed.endsAtError_cons⟩

/-- **Where a stream of a group ends.**  The stream was opened by a member, and ends at its
first error exactly if what is left of the member's stream does.  If so, one failure at most
is recorded of the member, however the stream is read and whatever the policy is.  In any
case each error is recorded, unless it is a cancellation, and nothing else is. -/
theorem openStream_goesOn {g : Failover σ} {r : GenerationRequest} {w w' : World (State σ)}
    {feed : TextFeed (State σ)} (h : g.backend.openStream r w = (.ok feed, w')) :
    ∃ b ∈ g.eligible r.model w, ∃ v v₁ inner rest, b.openStream r v = (.ok inner, v₁) ∧
      Leaves inner v₁ (sharedWorld w') rest ∧ GoesOn g b.name rest feed := by
  obtain ⟨left, ending, hwalk, hmembers, hcalls, hends⟩ :=
    walk_visits g (openFirst r) (g.eligible r.model w) w.state.breakers (sharedWorld w)
  rw [withBreakers_sharedWorld] at hwalk
  have hopen : g.openStream r w = (.ok feed, w') := h
  rw [openStream, attempt, hwalk] at hopen
  generalize (visits (openFirst r) (g.eligible r.model w) (sharedWorld w)).2 = v' at *
  generalize (visits (openFirst r) (g.eligible r.model w) (sharedWorld w)).1 = vs at *
  cases hends with
  | @answered us u _ o _ hanswer =>
    obtain ⟨v, -, hcall, -⟩ := hcalls.of_concat
    rw [hanswer] at hcall
    obtain ⟨v₁, inner, rest, hinner, hleaves, hgoes⟩ := goesOn_of_openFirst g hcall
    cases hopen
    refine ⟨u.member, ?_, v, v₁, inner, rest, hinner, hleaves, hgoes⟩
    rw [hmembers]
    simp
  | cancelled _ _ _ => cases hopen
  | @failed _ fs _ _ =>
    dsimp only [conclude] at hopen
    split at hopen
    · next heq =>
      split at heq <;> cases heq
    · cases hopen

/-! ### A member that stutters -/

namespace Stutter

/-- A member that streams these items. -/
def member (items : List (Except Fault String)) : Backend Unit :=
  { Backend.ofGenerate "b" fun _ w => (.ok "", w) with
    openStream := fun _ w => (.ok (.ofList (items.map fun item w => (item, w))), w) }

/-- A group of that member in which the second failure opens a breaker. -/
def group (items : List (Except Fault String)) : Failover Unit :=
  { policy := { failureThreshold := 2 }, members := [member items] }

/-- The group before its first use. -/
def world : World (State Unit) := withBreakers .fresh ⟨(), 0, false⟩

/-- A stream that an error ends. -/
def ending : List (Except Fault String) := [.ok "a", .error (.message "m1")]

/-- A stream that goes on after an error, and fails again. -/
def stuttering : List (Except Fault String) :=
  [.ok "a", .error (.message "m1"), .ok "b", .error (.message "m2")]

/-- The stream that the group opens. -/
def feed (items : List (Except Fault String)) : TextFeed (State Unit) :=
  match (group items).backend.openStream { prompt := "" } world with
  | (.ok feed, _) => feed
  | (.error _, _) => .done

/-- The group once the stream is open. -/
def ready (items : List (Except Fault String)) : World (State Unit) :=
  ((group items).backend.openStream { prompt := "" } world).2

end Stutter

open Stutter in
/-- The hypothesis of `openStream_goesOn` is satisfiable, also by a stream that an error ends.
One failure is recorded of that. -/
theorem openStream_goesOn_stutter :
    (group ending).backend.openStream { prompt := "" } world = (.ok (feed ending), ready ending) ∧
      (∃ b ∈ (group ending).eligible none world, ∃ v v₁ inner rest,
        b.openStream { prompt := "" } v = (.ok inner, v₁) ∧
          Leaves inner v₁ (sharedWorld (ready ending)) rest ∧
          GoesOn (group ending) b.name rest (feed ending)) ∧
      (feed ending).EndsAtError ∧
      ((feed ending).drain (ready ending)).1 = ending ∧
      (((feed ending).drain (ready ending)).2.state.breakers "b").failureCount = 1 := by
  have hopen : (group ending).backend.openStream { prompt := "" } world =
      (.ok (feed ending), ready ending) := rfl
  have hends : (feed ending).EndsAtError :=
    (track_endsAtError_iff _ _).2 (Feed.endsAtError_cons.2 (Feed.endsAtError_last _))
  exact ⟨hopen, openStream_goesOn hopen, hends, rfl, rfl⟩

open Stutter in
/-- A stream of a group need not end at its first error: text comes after it, and a second
error, and two failures are recorded of the member, which open its breaker. -/
theorem not_endsAtError_stutter :
    (group stuttering).backend.openStream { prompt := "" } world =
        (.ok (feed stuttering), ready stuttering) ∧
      ¬(feed stuttering).EndsAtError ∧
      ((feed stuttering).drain (ready stuttering)).1 = stuttering ∧
      (((feed stuttering).drain (ready stuttering)).2.state.breakers "b").failureCount = 2 ∧
      (((feed stuttering).drain (ready stuttering)).2.state.breakers "b").isOpen = true := by
  refine ⟨rfl, fun h => ?_, rfl, rfl, rfl⟩
  let w := ready stuttering
  let w' := (group stuttering).recordFailure "b" w
  have hreads : (feed stuttering).Reads
      [⟨w, .ok "a", w⟩, ⟨w, .error (.message "m1"), w'⟩, ⟨w', .ok "b", w'⟩] _ :=
    .cons rfl (.cons rfl (.cons rfl (.nil _)))
  obtain ⟨piece, hpiece⟩ := h _ _ hreads ⟨w, .error (.message "m1"), w'⟩ (by simp)
  cases hpiece

end Failover
end Errand
