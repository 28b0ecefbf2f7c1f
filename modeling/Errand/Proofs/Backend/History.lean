/-
# The history of a group

SPEC_FULL.md, section 4.6: breakers filter the backends.

A group is used for a long time: replies are generated, streams are opened and read
piece by piece, perhaps long after and in any order, tokens are counted, members are
asked whether they are available, and time passes.  A `Situation` is where such a use
has got to: the world, the streams that are open, and the history of everything that
was reported of a member, the oldest report first.  `Happens` is one thing happening,
`Used` any number of them.

The breakers of a group are those that its history leads to.  One thing happening
preserves that (`Happens.keeps`), so it holds in every situation (`Used.breakers`).
Hence the history alone tells which members may be asked (`Used.eligible`).
-/

import Errand.Proofs.Backend.Walk
import Mathlib.Logic.Relation

namespace Errand

open Json (Value)

/-- The reports about a name. -/
def reportsOf (name : String) (history : List (String × Report)) : List Report :=
  history.filterMap fun r => if r.1 = name then some r.2 else none

namespace Breakers

variable {policy : BreakerPolicy}

/-- Reports may be taken in two lots. -/
theorem afterAll_append (bs : Breakers) (h h' : List (String × Report)) :
    bs.afterAll policy (h ++ h') = (bs.afterAll policy h).afterAll policy h' :=
  List.foldl_append

/-- **The breaker of a name is fed the reports about that name alone.** -/
theorem afterAll_apply (bs : Breakers) (h : List (String × Report)) (name : String) :
    bs.afterAll policy h name = Breaker.afterAll policy (bs name) (reportsOf name h) := by
  induction h generalizing bs with
  | nil => rfl
  | cons r h ih =>
    have hstep : bs.afterAll policy (r :: h) =
        (bs.update r.1 fun b => b.record policy r.2).afterAll policy h := rfl
    rw [hstep, ih]
    by_cases hr : r.1 = name
    · subst hr
      simp [reportsOf, Breaker.afterAll]
    · rw [update_of_ne bs _ (Ne.symm hr)]
      simp [reportsOf, hr]

end Breakers

/-- Read the next item of a feed, if there is one. -/
def Feed.next? {σ ρ : Type} : Feed σ ρ → World σ → Option (ρ × Feed σ ρ) × World σ
  | .done, w => (none, w)
  | .item read rest, w =>
    let (a, w) := read w
    (some (a, rest a), w)

namespace Failover

variable {σ α : Type}

/-- Where the use of a group has got to. -/
structure Situation (σ : Type) where
  world : World (State σ)
  /-- The streams that are open: what is left of each, and the name of the member it is
  read from. -/
  streams : List (String × TextFeed σ) := []
  /-- Everything that was reported of members, the oldest first. -/
  history : List (String × Report) := []

/-- What an operation reports of the members that it asks. -/
def reported (g : Failover σ) (call : Backend σ → Call σ α) (model : Option String)
    (w : World (State σ)) : List (String × Report) :=
  reports (visits call (g.eligible model w) (sharedWorld w)).1

/-- The stream that an operation opens, unless it fails. -/
def opened (g : Failover σ) (r : GenerationRequest) (w : World (State σ)) :
    List (String × TextFeed σ) :=
  (visits (openFirst r) (g.eligible r.model w) (sharedWorld w)).1.filterMap (·.answer.toOption)

/-- What is reported of a member when a piece of its stream is read. -/
def pieceReport (name : String) (time : Nat) : Except Fault String → List (String × Report)
  | .ok _ => []
  | .error f => if f.isCancellation then [] else [(name, ⟨false, time⟩)]

/-- One thing happening to a group. -/
inductive Happens (g : Failover σ) : Situation σ → Situation σ → Prop
  /-- Time passes, and anything else outside the group's breakers may change. -/
  | meanwhile (s : Situation σ) (v : World σ) :
      Happens g s { s with world := withBreakers s.world.state.breakers v }
  | generate (s : Situation σ) (r : GenerationRequest) :
      Happens g s { s with
        world := (g.backend.generate r s.world).2
        history := s.history ++ g.reported (fun b => b.generate r) r.model s.world }
  | structured (s : Situation σ) (r : GenerationRequest) (schema : Value) :
      Happens g s { s with
        world := (g.backend.structured r schema s.world).2
        history := s.history ++ g.reported (fun b => b.structured r schema) r.model s.world }
  | openStream (s : Situation σ) (r : GenerationRequest) :
      Happens g s
        { world := (g.backend.openStream r s.world).2
          streams := s.streams ++ g.opened r s.world
          history := s.history ++ g.reported (openFirst r) r.model s.world }
  /-- The next piece of an open stream is read. -/
  | read (s : Situation σ) {before after : List (String × TextFeed σ)} {name : String}
      {feed rest : TextFeed σ} {piece : Except Fault String} {v : World σ} :
      s.streams = before ++ (name, feed) :: after →
      feed.next? (sharedWorld s.world) = (some (piece, rest), v) →
      Happens g s
        { world := ((g.track name feed).next? s.world).2
          streams := before ++ (name, rest) :: after
          history := s.history ++ pieceReport name v.now piece }
  | countTokens (s : Situation σ) (text : String) :
      Happens g s { s with
        world := (g.backend.countTokens text s.world).2
        history := s.history ++ g.reported (fun b => b.countTokens text) none s.world }
  | isAvailable (s : Situation σ) :
      Happens g s { s with world := (g.backend.isAvailable s.world).2 }

/-- A situation that the use of a group may get to from where nothing was reported. -/
def Used (g : Failover σ) (s : Situation σ) : Prop :=
  ∃ v : World σ, Relation.ReflTransGen (Happens g) { world := withBreakers .fresh v } s

/-! ### The breakers of a group -/

/-- An attempt leaves the breakers with the reports of its walk, and with nothing else. -/
theorem attempt_breakers (g : Failover σ) (operation : String) (model : Option String)
    (call : Backend σ → Call σ α) (w : World (State σ)) :
    (g.attempt operation model call w).2.state.breakers =
      w.state.breakers.afterAll g.policy (g.reported call model w) := by
  obtain ⟨_, h⟩ := attempt_isAttempt g operation model call w
  exact h.breakers

/-- So does the opening of a stream, -/
theorem openStream_breakers (g : Failover σ) (r : GenerationRequest) (w : World (State σ)) :
    (g.openStream r w).2.state.breakers =
      w.state.breakers.afterAll g.policy (g.reported (openFirst r) r.model w) := by
  rw [← attempt_breakers g "generate_stream", openStream]
  split <;> next h => rw [h]

/-- and so does a count of tokens. -/
theorem countTokens_breakers (g : Failover σ) (text : String) (w : World (State σ)) :
    (g.countTokens text w).2.state.breakers =
      w.state.breakers.afterAll g.policy (g.reported (fun b => b.countTokens text) none w) := by
  obtain ⟨_, ending, hwalk, -, -, -⟩ :=
    walk_visits g (fun b => b.countTokens text) (g.eligible none w) w.state.breakers (sharedWorld w)
  rw [withBreakers_sharedWorld] at hwalk
  rw [countTokens, hwalk]
  cases ending <;> rfl

/-- A member's stream hands out the member's pieces, and is what is left of the member's
stream afterwards. -/
theorem track_next? (g : Failover σ) (name : String) {feed rest : TextFeed σ}
    {piece : Except Fault String} {w : World (State σ)} {v : World σ}
    (h : feed.next? (sharedWorld w) = (some (piece, rest), v)) :
    (g.track name feed).next? w = (some (piece, g.track name rest), withBreakers
      (w.state.breakers.afterAll g.policy (pieceReport name v.now piece)) v) := by
  cases feed with
  | done => cases h
  | item read rest' =>
    obtain ⟨hpiece, rfl⟩ := Prod.mk.inj h
    obtain ⟨rfl, rfl⟩ := Prod.mk.inj (Option.some.inj hpiece)
    have hnext : (g.track name (.item read rest')).next? w =
        (some ((read (sharedWorld w)).1, g.track name (rest' (read (sharedWorld w)).1)),
          g.recordItem name (read (sharedWorld w)).1
            (withBreakers w.state.breakers (read (sharedWorld w)).2)) := rfl
    rw [hnext]
    cases hread : (read (sharedWorld w)).1 with
    | ok text => rfl
    | error f =>
      cases hc : f.isCancellation with
      | true => simp [recordItem, pieceReport, hc, Breakers.afterAll]
      | false =>
        simp [recordItem, pieceReport, hc, Breakers.afterAll, recordFailure, record, withBreakers,
          Breaker.record]

/-- **Whatever happens, the breakers remain those that the history leads to.** -/
theorem Happens.keeps {g : Failover σ} {s s' : Situation σ} (h : Happens g s s')
    (hs : s.world.state.breakers = Breakers.fresh.afterAll g.policy s.history) :
    s'.world.state.breakers = Breakers.fresh.afterAll g.policy s'.history := by
  cases h with
  | meanwhile v => exact hs
  | generate r =>
    rw [Breakers.afterAll_append, ← hs]
    exact attempt_breakers g "generate" r.model _ _
  | structured r schema =>
    rw [Breakers.afterAll_append, ← hs]
    exact attempt_breakers g "generate_structured" r.model _ _
  | openStream r =>
    rw [Breakers.afterAll_append, ← hs]
    exact openStream_breakers g r _
  | @read before after name feed rest piece v _ hnext =>
    rw [Breakers.afterAll_append, ← hs]
    dsimp only
    rw [track_next? g name hnext]
    rfl
  | countTokens text =>
    rw [Breakers.afterAll_append, ← hs]
    exact countTokens_breakers g text _
  | isAvailable => exact hs

/-- **The breakers of a group are those that its history leads to,** by induction on what
has happened. -/
theorem Used.breakers {g : Failover σ} {s : Situation σ} (h : g.Used s) :
    s.world.state.breakers = Breakers.fresh.afterAll g.policy s.history := by
  obtain ⟨v, h⟩ := h
  induction h with
  | refl => rfl
  | tail _ hstep ih => exact hstep.keeps ih

/-! ### Who may be asked -/

/-- Whether a member may be asked for a model, by the history: it supports the model, and
the reports of its name leave room for a call. -/
def Situation.admits (g : Failover σ) (s : Situation σ) (model : Option String)
    (b : Backend σ) : Bool :=
  model.all b.supports && Report.leaveRoom g.policy s.world.now (reportsOf b.name s.history)

/-- **Whoever may be asked is known from the reports** that a used group has had. -/
theorem Used.eligible {g : Failover σ} (hpos : 0 < g.policy.failureThreshold)
    (hmax : g.policy.failureThreshold ≤ Breaker.maxCount) {s : Situation σ} (h : g.Used s)
    (model : Option String) : g.eligible model s.world = g.members.filter (s.admits g model) := by
  rw [eligible_eq]
  refine List.filter_congr fun b _ => congrArg (_ && ·) ?_
  rw [h.breakers, Breakers.afterAll_apply]
  exact (Breaker.keeps_afterAll hpos _).isAvailable_eq hpos hmax _

/-! ### Who is asked -/

/-- The groups are the same but for members that are not `asked`: those may be any
others of the same names that support the same models. -/
structure SameWhere (asked : Backend σ → Bool) (g g' : Failover σ) : Prop where
  policy : g'.policy = g.policy
  members : List.Forall₂ (fun b b' => b'.name = b.name ∧ b'.supports = b.supports ∧
    (asked b = true → b' = b)) g.members g'.members

/-- Of the group, a walk needs the policy alone. -/
theorem walk_congr {g g' : Failover σ} (h : g'.policy = g.policy) (call : Backend σ → Call σ α)
    (members : List (Backend σ)) (w : World (State σ)) :
    g'.walk call members w = g.walk call members w := by
  induction members generalizing w with
  | nil => rfl
  | cons b rest ih =>
    rw [walk, walk]
    simp only [recordFailure, h, ih]

/-- So does the tracking of a stream. -/
theorem track_congr {g g' : Failover σ} (h : g'.policy = g.policy) (name : String)
    (feed : TextFeed σ) : g'.track name feed = g.track name feed := by
  have hitem : g'.recordItem name = g.recordItem name := by
    funext x w
    simp only [recordItem, recordFailure, h]
  rw [track, track, hitem]

namespace SameWhere

variable {g g' : Failover σ} {model : Option String} {w : World (State σ)}

/-- Filtering by names and models alone gives the same members where they are asked. -/
theorem filter_eq {asked keep : Backend σ → Bool} (h : SameWhere asked g g')
    (hkeep : ∀ b b' : Backend σ, b'.name = b.name → b'.supports = b.supports → keep b' = keep b)
    (hasked : ∀ b ∈ g.members, keep b = true → asked b = true) :
    g'.members.filter keep = g.members.filter keep := by
  have hmembers := h.members
  generalize g.members = bs at hmembers hasked
  generalize g'.members = bs' at hmembers
  induction hmembers with
  | nil => rfl
  | @cons b b' bs bs' hb _ ih =>
    obtain ⟨hname, hsupports, hsame⟩ := hb
    have ih := ih fun c hc => hasked c (List.mem_cons_of_mem b hc)
    by_cases hk : keep b = true
    · obtain rfl := hsame (hasked b List.mem_cons_self hk)
      rw [List.filter_cons_of_pos hk, List.filter_cons_of_pos hk, ih]
    · have hk' : ¬keep b' = true := by rwa [hkeep b b' hname hsupports]
      rw [List.filter_cons_of_neg hk, List.filter_cons_of_neg hk', ih]

/-- The same members may be asked of two groups that agree on whoever is asked. -/
theorem eligible_eq {asked : Backend σ → Bool} (h : SameWhere asked g g')
    (hasked : ∀ b ∈ g.eligible model w, asked b = true) :
    g'.eligible model w = g.eligible model w := by
  rw [Failover.eligible_eq] at hasked
  rw [Failover.eligible_eq, Failover.eligible_eq, h.policy]
  refine h.filter_eq (fun b b' hname hsupports => by rw [hname, hsupports]) fun b hb hk => ?_
  exact hasked b (List.mem_filter.2 ⟨hb, hk⟩)

/-- What is said of the candidates of both is the same. -/
theorem candidates_names {asked : Backend σ → Bool} (h : SameWhere asked g g') :
    (g'.candidates model).map (·.name) = (g.candidates model).map (·.name) := by
  have hmembers := h.members
  rw [candidates, candidates]
  generalize g.members = bs at hmembers
  generalize g'.members = bs' at hmembers
  induction hmembers with
  | nil => rfl
  | @cons b b' _ _ hb _ ih =>
    obtain ⟨hname, hsupports, -⟩ := hb
    rw [List.filter_cons, List.filter_cons, hsupports]
    split
    · rw [List.map_cons, List.map_cons, hname, ih]
    · exact ih

/-- An attempt comes to the same with both. -/
theorem attempt_eq {asked : Backend σ → Bool} (h : SameWhere asked g g')
    (hasked : ∀ b ∈ g.eligible model w, asked b = true) (operation : String)
    (call : Backend σ → Call σ α) :
    g'.attempt operation model call w = g.attempt operation model call w := by
  have hconclude : (g'.conclude operation model : Walk α → _) = g.conclude operation model := by
    funext ending
    cases ending <;> simp only [conclude, h.candidates_names]
  rw [attempt, attempt, h.eligible_eq hasked, walk_congr h.policy, hconclude]

end SameWhere

/-- The operations that a group has for a model do the same in one world, whichever of two
groups they are asked of. -/
structure OperatesAlike (g g' : Failover σ) (model : Option String) (w : World (State σ)) :
    Prop where
  generate : ∀ r : GenerationRequest, r.model = model →
    g'.backend.generate r w = g.backend.generate r w
  structured : ∀ (r : GenerationRequest) (schema : Value), r.model = model →
    g'.backend.structured r schema w = g.backend.structured r schema w
  openStream : ∀ r : GenerationRequest, r.model = model →
    g'.backend.openStream r w = g.backend.openStream r w
  countTokens : model = none → ∀ text, g'.backend.countTokens text w = g.backend.countTokens text w
  isAvailable : model = none → g'.backend.isAvailable w = g.backend.isAvailable w

/-- Members that are not eligible make no difference. -/
theorem SameWhere.operatesAlike {g g' : Failover σ} {asked : Backend σ → Bool}
    {model : Option String} {w : World (State σ)} (h : SameWhere asked g g')
    (hasked : ∀ b ∈ g.eligible model w, asked b = true) : OperatesAlike g g' model w where
  generate r hr := by
    subst hr
    exact h.attempt_eq hasked "generate" _
  structured r schema hr := by
    subst hr
    exact h.attempt_eq hasked "generate_structured" _
  openStream r hr := by
    subst hr
    have htrack : g'.track = g.track := by
      funext name feed
      exact track_congr h.policy name feed
    show g'.openStream r w = g.openStream r w
    rw [openStream, openStream, h.attempt_eq hasked "generate_stream", htrack]
  countTokens hm text := by
    subst hm
    show g'.countTokens text w = g.countTokens text w
    rw [countTokens, countTokens, h.eligible_eq hasked, walk_congr h.policy]
  isAvailable hm := by
    subst hm
    show State.focus.zoom (anyAvailable (g'.eligible none w)) w = _
    rw [h.eligible_eq hasked]
    rfl

/-- **Who may be asked, after any use of a group.**  Whatever was asked of the group before,
and however much time passed, the members eligible for the next operation are, in their
order, those that support the model and of whose name fewer failures than the threshold
were reported since the last success, or the last one longer ago than the timeout.  The
others are not asked by that operation: it would do the same if they were any other
members of their names. -/
theorem eligible_of_used {g : Failover σ} (hpos : 0 < g.policy.failureThreshold)
    (hmax : g.policy.failureThreshold ≤ Breaker.maxCount) {s : Situation σ} (h : g.Used s)
    (model : Option String) :
    g.eligible model s.world = g.members.filter (s.admits g model) ∧
    ∀ g', SameWhere (s.admits g model) g g' → OperatesAlike g g' model s.world := by
  have heligible := h.eligible hpos hmax model
  refine ⟨heligible, fun g' hg' => hg'.operatesAlike fun b hb => ?_⟩
  rw [heligible] at hb
  exact (List.mem_filter.1 hb).2

namespace Workshop

/-- A member that is down. -/
def down : Backend Unit := .ofGenerate "down" fun _ w => (.error (.message "down"), w)

/-- A member that answers. -/
def up : Backend Unit := .ofGenerate "up" fun _ w => (.ok "hi", w)

/-- A group in which one failure opens a breaker. -/
def group : Failover Unit := { policy := { failureThreshold := 1 }, members := [down, up] }

/-- The group before its first use. -/
def rested : Situation Unit := { world := withBreakers .fresh ⟨(), 0, false⟩ }

/-- The group after it was asked for a reply. -/
def asked : Situation Unit :=
  { world := (group.backend.generate { prompt := "" } rested.world).2
    history := [("down", ⟨false, 0⟩), ("up", ⟨true, 0⟩)] }

end Workshop

open Workshop in
/-- The hypotheses of `eligible_of_used` are satisfiable: once the first member of the
workshop's group has failed, the second is eligible alone. -/
theorem eligible_of_used_workshop :
    0 < group.policy.failureThreshold ∧ group.policy.failureThreshold ≤ Breaker.maxCount ∧
      group.Used asked ∧ (group.eligible none asked.world).map (·.name) = ["up"] ∧
      OperatesAlike group { group with members := [{ up with name := "down" }, up] } none
        asked.world := by
  have hpos : 0 < group.policy.failureThreshold := by decide
  have hmax : group.policy.failureThreshold ≤ Breaker.maxCount := by decide
  have hused : group.Used asked :=
    ⟨⟨(), 0, false⟩, .single (.generate rested { prompt := "" })⟩
  obtain ⟨heligible, halike⟩ := eligible_of_used hpos hmax hused none
  refine ⟨hpos, hmax, hused, ?_, halike _ ⟨rfl, ?_⟩⟩
  · rw [heligible]
    rfl
  · exact .cons ⟨rfl, rfl, fun h => by cases h⟩ (.cons ⟨rfl, rfl, fun _ => rfl⟩ .nil)

end Failover
end Errand
