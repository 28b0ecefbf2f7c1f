/-
# What a streamed run delivers

SPEC_FULL.md, section 11.4, on runs as streams.

A stream hands out the events of its run one at a time, and it has two sources to
choose from at every poll: the channel and the run.  Which of them answers depends
on what has been sent, on whether the channel is still open, and on whether it is
free to answer at all.  None of this can be seen in the items.

The reason is one quantity.  A stream *owes* items: the events that wait in the
channel, behind them those that the run has yet to send, and at the end the result.
A poll that hands out an item hands out the first one that is owed, any other poll
leaves what is owed as it is, and a stream is over when it owes nothing
(`RunStream.owed_poll`).  So a stream that is polled until it is over hands out what
it owed when it was started (`RunStream.items_eq_owed`).
-/

import Errand.Run.Stream

namespace Errand

namespace RunStream

variable {α : Type}

/-- The items that a stream has still to hand out. -/
def owed : RunStream α → List (StreamItem α)
  | running queue run _ => (queue ++ run.emitted).map .event ++ [.finished run.result]
  | draining queue a => queue.map .event ++ [.finished a]
  | ended => []

/-- What a poll of a stream says of the items owed before it and after it. -/
def Settles (before after : List (StreamItem α)) : StreamAnswer α → Prop
  | .item i => before = i :: after
  | .pending => before = after
  | .over => before = []

/-- Draining pays the last events in order, and the result behind them. -/
theorem drain_settles (a : α) (queue : List Event) :
    Settles (queue.map .event ++ [.finished a]) (drain a queue).2.owed (drain a queue).1 := by
  cases queue <;> rfl

/-- **The run is polled without a loss.**  What it sends goes behind what waits in the
channel, and its result behind both. -/
theorem drive_settles (queue : List Event) (listened l : Bool) (run : PolledRun α) :
    Settles (running queue run l).owed (drive queue listened run).2.owed
      (drive queue listened run).1 := by
  cases run with
  | done sent a => exact drain_settles a (queue ++ sent)
  | pending sent rest =>
    simp only [drive, PolledRun.poll, Settles, owed, PolledRun.emitted, PolledRun.result,
      List.append_assoc]
  | mute n a =>
    cases n with
    | zero => exact drain_settles a (queue ++ [])
    | succ n =>
      simp only [drive, PolledRun.poll, Settles, owed, PolledRun.emitted, PolledRun.result,
        List.append_nil]

/-- **One poll pays the first item, or nothing.**  This is all that the items depend
on: whichever of the channel and the run has answered, what is owed after the poll
is what was owed before it without the item handed out. -/
theorem owed_poll (mayAnswer : Bool) (s : RunStream α) :
    Settles s.owed (s.poll mayAnswer).2.owed (s.poll mayAnswer).1 := by
  match s with
  | running queue run true =>
    simp only [poll]
    split
    · next e rest hr => rw [receive_event hr]; rfl
    · exact drive_settles queue false true run
    · exact drive_settles queue true true run
  | running queue run false => exact drive_settles queue false false run
  | draining queue a => exact drain_settles a queue
  | ended => rfl

/-- A poll hands out the first of what is owed, or nothing if that is not due. -/
theorem settles_of_poll {mayAnswer : Bool} {s next : RunStream α} {a : StreamAnswer α}
    (h : s.poll mayAnswer = (a, next)) : Settles s.owed next.owed a := by
  have hs := owed_poll mayAnswer s
  rwa [h] at hs

/-- **A stream pays what it owes.**  The induction is on the work left, which every
poll makes less. -/
theorem items_eq_owed (mayAnswer : Nat → Bool) (n : Nat) (s : RunStream α) :
    s.items mayAnswer n = s.owed := by
  fun_induction items mayAnswer n s with
  | case1 n s i next h ih =>
    have paid : s.owed = i :: next.owed := settles_of_poll h
    rw [ih, paid]
  | case2 n s next h ih =>
    have kept : s.owed = next.owed := settles_of_poll h
    rw [ih, kept]
  | case3 n s next h =>
    have nothing : s.owed = [] := settles_of_poll h
    rw [nothing]

/-! ### No event waits longer than it has to -/

/-- The channel is left unheard only when nothing waits there and nothing can. -/
def Attentive : RunStream α → Prop
  | running queue run false => queue = [] ∧ run.holdsObserver = false
  | _ => True

/-- Who drains the queue is attentive, -/
theorem attentive_drain (a : α) (queue : List Event) : Attentive (drain a queue).2 := by
  cases queue <;> trivial

/-- A run without its observer sends nothing and does not get it back. -/
theorem attentive_drive {run : PolledRun α} (h : run.holdsObserver = false) :
    Attentive (drive [] false run).2 := by
  cases run with
  | done => cases h
  | pending => cases h
  | mute n a =>
    cases n with
    | zero => exact attentive_drain a []
    | succ n => exact ⟨rfl, rfl⟩

/-- and so is who has just listened. -/
theorem attentive_drive_listened (queue : List Event) (run : PolledRun α) :
    Attentive (drive queue true run).2 := by
  unfold drive
  split
  · exact attentive_drain _ _
  · trivial

/-- **A stream stays attentive**: it stops listening to a channel only once the channel
is empty and closed for good. -/
theorem attentive_poll (mayAnswer : Bool) {s : RunStream α} (h : s.Attentive) :
    (s.poll mayAnswer).2.Attentive := by
  match s with
  | running queue run true =>
    simp only [poll]
    split
    · trivial
    · next hr =>
      obtain ⟨rfl, hrun⟩ := receive_closed hr
      exact attentive_drive hrun
    · exact attentive_drive_listened queue run
  | running queue run false =>
    obtain ⟨rfl, hrun⟩ := h
    exact attentive_drive hrun
  | draining queue a => exact attentive_drain a queue
  | ended => trivial

/-- A stream that was polled any number of times has stayed attentive. -/
theorem attentive_foldl_poll {s : RunStream α} (h : s.Attentive) (free : List Bool) :
    (free.foldl (fun s mayAnswer => (s.poll mayAnswer).2) s).Attentive := by
  induction free generalizing s with
  | nil => exact h
  | cons mayAnswer free ih => exact ih (attentive_poll mayAnswer h)

/-- Who is attentive hands out the first event of the queue. -/
theorem Attentive.poll_cons {e : Event} {queue : List Event} {run : PolledRun α}
    {listened : Bool} (h : (running (e :: queue) run listened).Attentive) :
    (running (e :: queue) run listened).poll true =
      (.item (.event e), running queue run true) := by
  cases listened with
  | true => rfl
  | false => cases h.1

/-- **An event that waits is handed out by the next poll that the channel is free to
answer.**  However the stream was polled before, it is not kept back until the run has got
further. -/
theorem poll_of_waiting {run₀ run : PolledRun α} {free : List Bool} {e : Event}
    {queue : List Event} {listened : Bool}
    (h : free.foldl (fun s mayAnswer => (s.poll mayAnswer).2) (start run₀) =
      running (e :: queue) run listened) :
    (running (e :: queue) run listened).poll true =
      (.item (.event e), running queue run true) := by
  have hattentive : (start run₀).Attentive := trivial
  have hreached := attentive_foldl_poll hattentive free
  rw [h] at hreached
  exact hreached.poll_cons

end RunStream

/-- **A streamed run delivers its events and its result.**  However the run spreads
its events over its polls, the last one included, whenever it lets go of its observer,
and whichever polls the channel answers: the stream comes to an end, and its items are
the events of the run, each once and in the order in which they were sent, then the
result. -/
theorem streamRun_delivers {α : Type} (mayAnswer : Nat → Bool) (run : PolledRun α) :
    (RunStream.start run).items mayAnswer 0 =
      run.emitted.map .event ++ [.finished run.result] :=
  RunStream.items_eq_owed mayAnswer 0 (RunStream.start run)

end Errand
