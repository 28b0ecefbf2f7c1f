/-
# Runs as streams

SPEC_FULL.md, section 11.4, on runs as streams.

The events of a run can be had as a stream that ends in the run's result.  The run
is given an observer that puts every event into a channel, and each poll of the
stream races the channel against the run, the channel first: what waits there is
handed out, one event a poll, and only when the channel has nothing to say is the
run itself polled.  Once the run is done, what it left in the channel comes before
its result.

A run is seen here as the polls that drive it: what each of them sends, and whether
it is the last.
-/

import Errand.Run.Event

namespace Errand

/-- A run, seen as the polls that are to drive it. -/
inductive PolledRun (α : Type) where
  /-- The next poll sends events and is the last. -/
  | done (sent : List Event) (result : α)
  /-- The next poll sends events and leaves the run pending. -/
  | pending (sent : List Event) (rest : PolledRun α)
  /-- The run has let go of its observer: it can send nothing any more, is pending
  for some polls and then done. -/
  | mute (pendings : Nat) (result : α)

namespace PolledRun

variable {α : Type}

/-- The events that a run sends from here on, in order. -/
def emitted : PolledRun α → List Event
  | done sent _ => sent
  | pending sent rest => sent ++ rest.emitted
  | mute _ _ => []

/-- What a run comes to. -/
def result : PolledRun α → α
  | done _ a => a
  | pending _ rest => rest.result
  | mute _ a => a

/-- How many polls a run takes. -/
def polls : PolledRun α → Nat
  | done _ _ => 1
  | pending _ rest => rest.polls + 1
  | mute n _ => n + 1

/-- Whether a run still holds its observer, which keeps the channel open. -/
def holdsObserver : PolledRun α → Bool
  | mute _ _ => false
  | _ => true

/-- One poll of a run: the events it sends, and the result or the run that is
left. -/
def poll : PolledRun α → List Event × (α ⊕ PolledRun α)
  | done sent a => (sent, .inl a)
  | pending sent rest => (sent, .inr rest)
  | mute 0 a => ([], .inl a)
  | mute (n + 1) a => ([], .inr (mute n a))

end PolledRun

/-- An item of a streamed run. -/
inductive StreamItem (α : Type) where
  | event (e : Event)
  | finished (result : α)
deriving DecidableEq

/-- What a channel says when it is polled. -/
inductive Received where
  | event (e : Event) (queue : List Event)
  /-- The channel is empty and nobody can send into it any more. -/
  | closed
  | pending

/-- Poll a channel with a queue.  A channel that has answered often in a row is made
to wait its turn, whatever it holds. -/
def receive (mayAnswer isOpen : Bool) (queue : List Event) : Received :=
  if mayAnswer then
    match queue with
    | e :: rest => .event e rest
    | [] => if isOpen then .pending else .closed
  else .pending

/-- A channel that answers with an event hands out the one that has waited longest. -/
theorem receive_event {mayAnswer isOpen : Bool} {queue rest : List Event} {e : Event}
    (h : receive mayAnswer isOpen queue = .event e rest) : queue = e :: rest := by
  cases mayAnswer with
  | false => cases h
  | true =>
    cases queue with
    | nil => cases isOpen <;> cases h
    | cons => cases h; rfl

/-- A channel is found closed only when it is empty and nobody can send any more. -/
theorem receive_closed {mayAnswer isOpen : Bool} {queue : List Event}
    (h : receive mayAnswer isOpen queue = .closed) : queue = [] ∧ isOpen = false := by
  cases mayAnswer with
  | false => cases h
  | true =>
    cases queue with
    | nil =>
      cases isOpen with
      | false => exact ⟨rfl, rfl⟩
      | true => cases h
    | cons => cases h

/-- A streamed run between two polls of the stream. -/
inductive RunStream (α : Type) where
  /-- The run goes on.  While the channel is not `listened` to, only the run is
  polled. -/
  | running (queue : List Event) (run : PolledRun α) (listened : Bool)
  /-- The run is done, and its last events are handed out. -/
  | draining (queue : List Event) (result : α)
  | ended

/-- What a poll of a stream answers. -/
inductive StreamAnswer (α : Type) where
  | item (i : StreamItem α)
  | pending
  /-- There are no more items. -/
  | over

namespace RunStream

variable {α : Type}

/-- The stream of a run that has not been polled yet. -/
def start (run : PolledRun α) : RunStream α := running [] run true

/-- Hand out the next of the last events, or the result behind them. -/
def drain (a : α) : List Event → StreamAnswer α × RunStream α
  | e :: queue => (.item (.event e), draining queue a)
  | [] => (.item (.finished a), ended)

/-- Poll the run, which sends into the channel. -/
def drive (queue : List Event) (listened : Bool) (run : PolledRun α) :
    StreamAnswer α × RunStream α :=
  match run.poll with
  | (sent, .inl a) => drain a (queue ++ sent)
  | (sent, .inr rest) => (.pending, running (queue ++ sent) rest listened)

/-- One poll of a stream.  A channel found closed is not listened to until the stream
has handed out an item; an open one that has nothing to say is asked again next
time. -/
def poll (mayAnswer : Bool) : RunStream α → StreamAnswer α × RunStream α
  | running queue run true =>
    match receive mayAnswer run.holdsObserver queue with
    | .event e rest => (.item (.event e), running rest run true)
    | .closed => drive queue false run
    | .pending => drive queue true run
  | running queue run false => drive queue false run
  | draining queue a => drain a queue
  | ended => (.over, ended)

/-- What is left to be done before a stream is over: polls of the run, events to hand
out, the result. -/
def work : RunStream α → Nat
  | running queue run _ => run.polls + queue.length + run.emitted.length + 1
  | draining queue _ => queue.length + 1
  | ended => 0

theorem work_running (queue : List Event) (run : PolledRun α) (listened : Bool) :
    (running queue run listened).work =
      run.polls + queue.length + run.emitted.length + 1 := rfl

/-- Once the run has ended, what is left to do are the events that wait. -/
theorem work_drain (a : α) (queue : List Event) : (drain a queue).2.work = queue.length := by
  cases queue <;> rfl

/-- Driving the run on leaves less to do. -/
theorem work_drive (queue : List Event) (listened l : Bool) (run : PolledRun α) :
    (drive queue listened run).2.work < (running queue run l).work := by
  cases run with
  | done sent a =>
    simp only [drive, PolledRun.poll, work_drain, work_running, PolledRun.polls,
      PolledRun.emitted, List.length_append]
    omega
  | pending sent rest =>
    simp only [drive, PolledRun.poll, work_running, PolledRun.polls, PolledRun.emitted,
      List.length_append]
    omega
  | mute n a =>
    cases n with
    | zero =>
      simp only [drive, PolledRun.poll, work_drain, work_running, List.append_nil]
      omega
    | succ n =>
      simp only [drive, PolledRun.poll, work_running, PolledRun.polls, PolledRun.emitted,
        List.append_nil]
      omega

/-- **Every poll gets something done**, until the stream is over. -/
theorem work_poll (mayAnswer : Bool) (s : RunStream α)
    (h : (s.poll mayAnswer).1 ≠ .over) : (s.poll mayAnswer).2.work < s.work := by
  match s with
  | running queue run true =>
    simp only [poll]
    split
    · next e rest hr =>
      simp only [receive_event hr, work_running, List.length_cons]
      omega
    · exact work_drive queue false true run
    · exact work_drive queue true true run
  | running queue run false => exact work_drive queue false false run
  | draining queue a =>
    rw [poll, work_drain]
    exact Nat.lt_succ_self _
  | ended => exact absurd rfl h

/-- The items of a stream that is polled until it is over.  `mayAnswer n` says whether
the channel is free to answer the poll with number `n`. -/
def items (mayAnswer : Nat → Bool) (n : Nat) (s : RunStream α) : List (StreamItem α) :=
  match h : s.poll (mayAnswer n) with
  | (.item i, next) => i :: items mayAnswer (n + 1) next
  | (.pending, next) => items mayAnswer (n + 1) next
  | (.over, _) => []
termination_by s.work
decreasing_by
  all_goals
    have := work_poll (mayAnswer n) s (by simp [h])
    simpa [h] using this

end RunStream

/-- The stream of a run, when the channel is free to answer every poll. -/
def streamRun {α : Type} (run : PolledRun α) : List (StreamItem α) :=
  (RunStream.start run).items (fun _ => true) 0

/-- The events of a stream, in order. -/
def streamEvents {α : Type} (items : List (StreamItem α)) : List Event :=
  items.filterMap fun
    | .event e => some e
    | .finished _ => none

end Errand
