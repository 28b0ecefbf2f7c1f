/-
# Scripted backends, and groups of them

SPEC_FULL.md, section 10.4, on scripted fakes.
-/

import Errand.Scripted.Basic

namespace Errand
namespace Scripted

/-- How a backend answers.  Without a list of models it supports all. -/
inductive BackendScript where
  /-- Replies in order, streamed word by word. -/
  | canned (name : String) (replies : List (Except Fault String))
      (models : Option (List String)) (tokenCount : Option Nat)
  /-- Only generation is scripted. -/
  | plain (name : String) (script : List (Cue (Except Fault String)))
  /-- Everything is scripted. -/
  | full (name : String) (script : List (Cue (Except Fault String)))
      (streams : List (Cue (Except Fault (List (Cue (Except Fault String))))))
      (counts : List (Cue (Except Fault Nat))) (isAvailable : Bool)
      (models : Option (List String))
  | group (policy : BreakerPolicy) (members : List BackendScript)
deriving Inhabited

/-- A text cut after each space. -/
def wordsOf : List Char → List String
  | [] => []
  | ' ' :: r => " " :: wordsOf r
  | c :: r =>
    match r, wordsOf r with
    | _ :: _, p :: ps => (c.toString ++ p) :: ps
    | _, _ => [c.toString]

/-- Whether a call asks for text. -/
def BackendCall.asksText : BackendCall → Bool
  | .generate _ | .stream _ => true
  | .count _ => false

/-- Whether a call asks for a reply at once. -/
def BackendCall.isGenerate : BackendCall → Bool
  | .generate _ => true
  | .stream _ | .count _ => false

/-- Whether a call asks for a stream. -/
def BackendCall.isStream : BackendCall → Bool
  | .stream _ => true
  | .generate _ | .count _ => false

/-- Whether a call asks for a count of tokens. -/
def BackendCall.isCount : BackendCall → Bool
  | .count _ => true
  | .generate _ | .stream _ => false

/-- Record a call, and play the entry that is up among the calls of its kind. -/
def playCall {α : Type} (path : List Nat) (call : BackendCall) (sameKind : BackendCall → Bool)
    (script : List (Cue (Except Fault α))) (fallback : Except Fault α) : Call Stage α := fun w =>
  playAt script fallback ((w.state.calls path).countP sameKind) (onStage (.addCall path call) w)

/-- What a backend without a script says. -/
def noReply : Except Fault String := .error (.message "no reply scripted")

/-- Whether a model is listed, where there is a list. -/
def supportsModel (models : Option (List String)) (model : String) : Bool :=
  models.all (·.contains model)

/-- A backend that replies from a list. -/
def cannedBackend (path : List Nat) (name : String) (replies : List (Except Fault String))
    (models : Option (List String)) (tokenCount : Option Nat) : Backend Stage :=
  let cues : List (Cue (Except Fault String)) := replies.map fun r => { outcome := r }
  let next (call : BackendCall) : Call Stage String :=
    playCall path call BackendCall.asksText cues noReply
  let count : Except Fault Nat := match tokenCount with
    | some n => .ok n
    | none => .error (.message (name ++ " cannot count tokens"))
  { Backend.ofGenerate name fun r => next (.generate r) with
    supports := supportsModel models
    openStream := fun r w =>
      match next (.stream r) w with
      | (.ok t, w) =>
        (.ok (feedOf ((wordsOf t.toList).map fun p => { outcome := .ok p })), w)
      | (.error f, w) => (.error f, w)
    countTokens := fun t => playCall path (.count t) BackendCall.isCount [] count }

/-- A backend that plays scripts for everything. -/
def fullBackend (path : List Nat) (name : String) (script : List (Cue (Except Fault String)))
    (streams : List (Cue (Except Fault (List (Cue (Except Fault String))))))
    (counts : List (Cue (Except Fault Nat))) (isAvailable : Bool)
    (models : Option (List String)) : Backend Stage :=
  { Backend.ofGenerate name fun r =>
      playCall path (.generate r) BackendCall.isGenerate script noReply with
    supports := supportsModel models
    openStream := fun r w =>
      match playCall path (.stream r) BackendCall.isStream streams (.ok []) w with
      | (.ok items, w) => (.ok (feedOf items), w)
      | (.error f, w) => (.error f, w)
    countTokens := fun t =>
      playCall path (.count t) BackendCall.isCount counts (.error (.message "cannot count"))
    isAvailable := fun w => (isAvailable, w) }

mutual

/-- The backend of a script, at a path. -/
def backend (path : List Nat) : BackendScript → Except Fault (Backend Stage)
  | .canned name replies models tokenCount =>
    .ok (cannedBackend path name replies models tokenCount)
  | .plain name script =>
    .ok (.ofGenerate name fun r =>
      playCall path (.generate r) BackendCall.isGenerate script noReply)
  | .full name script streams counts isAvailable models =>
    .ok (fullBackend path name script streams counts isAvailable models)
  | .group policy members =>
    match backends path 0 members with
    | .error f => .error f
    | .ok bs =>
      match Failover.backend? { policy, members := bs } with
      | .error f => .error f
      | .ok b => .ok (b.within (Stage.groupAt path))

/-- The backends of a group's members, numbered from `n` on. -/
def backends (path : List Nat) (n : Nat) :
    List BackendScript → Except Fault (List (Backend Stage))
  | [] => .ok []
  | s :: rest =>
    match backend (path ++ [n]) s, backends path (n + 1) rest with
    | .ok b, .ok bs => .ok (b :: bs)
    | .error f, _ | _, .error f => .error f

end

mutual

/-- The scripts that are not groups, in order, with their paths. -/
def leaves (path : List Nat) : BackendScript → List (List Nat × BackendScript)
  | .group _ members => leavesOf path 0 members
  | leaf => [(path, leaf)]

/-- The scripts among a group's members that are not groups. -/
def leavesOf (path : List Nat) (n : Nat) : List BackendScript → List (List Nat × BackendScript)
  | [] => []
  | s :: rest => leaves (path ++ [n]) s ++ leavesOf path (n + 1) rest

end

end Scripted
end Errand
