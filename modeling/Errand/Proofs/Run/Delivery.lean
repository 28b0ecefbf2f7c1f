/-
# Streamed or at once

SPEC_FULL.md, section 4.3, on streams and blocking invocation.

A function that streams is read chunk by chunk for an observer that wants chunks.  Any other
observer has it called for its whole answer.  Two kinds of functions stream: those that can
only answer as a whole and hand that out in one piece, and those that prompt a backend.

An answer in one piece is not told as it would be at once: what gets lost on the way is said
by `FunctionOutput.SurvivesOnePiece`, and exactly the other answers make no difference to a
step (`runFunction_inOnePiece_verdict_iff`).

A backend that says in pieces what it says at once (`Backend.Answers`) makes no difference to
a prompted function, whatever the pieces are.  Only the token can: while pieces are read it
is still looked at, and a streamed step stops when it fires
(`runFunction_prompted_delivered`).
-/

import Errand.Proofs.Run.Chunks
import Errand.Prompt.Function

namespace Errand

open Json (Value)

variable {σ : Type}

/-! ### Steps that are answered at once -/

/-- An answer as the output of a call.  A failure is told with the name of the role. -/
def answerOutput (role : Role) : Except Fault FunctionOutput → FunctionOutput
  | .ok o => o
  | .error f => .failure (role.name ++ " failed: " ++ f.text)

/-- A function is not called once the token has fired. -/
theorem executeFunction_of_fired {e : Engine σ} (hfired : e.catchUp.world.cancelled = true)
    (f : ModelFunction σ) (i : Invocation) :
    executeFunction f i e = (.error .mk, e.catchUp) := by
  rw [executeFunction, Run.bind_apply, ask_of_fired hfired]

/-- A call is told by its answer. -/
theorem executeFunction_of_unfired {e : Engine σ} (hfired : e.catchUp.world.cancelled = false)
    (f : ModelFunction σ) (i : Invocation) :
    executeFunction f i e =
      ((f.execute i e.catchUp.world).1.settled.map (answerOutput f.role),
        e.catchUp.exchanged (.execute f.role i) (f.execute i e.catchUp.world)) := by
  rw [executeFunction, Run.bind_apply, ask_of_unfired hfired]
  rcases f.execute i e.catchUp.world with ⟨x, w⟩
  rcases x.settled with _ | _ | _ <;> rfl

/-- A step whose observer wants no chunks is its function called. -/
theorem runFunction_of_not_wants {s : Setting} (hwants : s.wantsChunks = false) {e : Engine σ}
    (hfired : e.catchUp.world.cancelled = false) (step : Step) (parameters : Option String)
    (f : ModelFunction σ) :
    runFunction s step parameters f e =
      ((f.execute (stepInvocation s step parameters) e.catchUp.world).1.settled.map
          fun a => resultOfFunction step (answerOutput f.role a),
        e.catchUp.exchanged (.execute f.role (stepInvocation s step parameters))
          (f.execute (stepInvocation s step parameters) e.catchUp.world)) := by
  rw [runFunction]
  simp only [hwants, Bool.and_false, Bool.false_eq_true, if_false]
  rw [bind_pure_apply, executeFunction_of_unfired hfired]
  cases (f.execute (stepInvocation s step parameters) e.catchUp.world).1.settled <;> rfl

/-- A step stops if the token has fired before its function is asked. -/
theorem runFunction_of_fired {e : Engine σ} (hfired : e.catchUp.world.cancelled = true)
    (s : Setting) (step : Step) (parameters : Option String) (f : ModelFunction σ) :
    runFunction s step parameters f e = (.error .mk, e.catchUp) := by
  rw [runFunction]
  cases f.streams && s.wantsChunks with
  | true =>
    simp only [if_true]
    rw [bind_pure_apply, streamFunction_of_fired hfired]
    rfl
  | false =>
    simp only [Bool.false_eq_true, if_false]
    rw [bind_pure_apply, executeFunction_of_fired hfired]
    rfl

/-! ### Streams that are not opened, and streams of chunks alone -/

/-- A stream whose opening failed is told by the fault. -/
theorem streamFunction_of_failed {f : ModelFunction σ} {i : Invocation} {e : Engine σ}
    {fault : Fault} {w : World σ} (hfired : e.catchUp.world.cancelled = false)
    (hopen : f.openStream i e.catchUp.world = (.failed fault, w)) (step : Step) :
    streamFunction step f i e =
      (if fault.isCancellation then .error .mk else .ok (.failure fault.text),
        e.catchUp.exchanged (.openStream f.role i)
          ((.failed fault : Response (ChunkFeed σ)), w)) := by
  rw [streamFunction, Run.bind_apply, ask_of_unfired hfired, hopen, Response.settled]
  cases fault.isCancellation <;> rfl

/-- Nothing is read of a stream whose opening was broken off. -/
theorem streamFunction_of_unanswered {f : ModelFunction σ} {i : Invocation} {e : Engine σ}
    {w : World σ} (hfired : e.catchUp.world.cancelled = false)
    (hopen : f.openStream i e.catchUp.world = (.unanswered, w)) (step : Step) :
    streamFunction step f i e =
      (.error .mk, e.catchUp.exchanged (.openStream f.role i)
        ((.unanswered : Response (ChunkFeed σ)), w)) := by
  rw [streamFunction, Run.bind_apply, ask_of_unfired hfired, hopen]
  rfl

/-- A reading of chunks alone gets them all, unless the token fires. -/
theorem ReadingEnds.of_chunks {chunks got : List Chunk} {fired : Bool}
    {result : Except Cancelled FunctionOutput}
    (h : ReadingEnds (chunks.map .answered) got fired (wholeOutput "" none got) result) :
    (got = chunks ∧ fired = false ∧ result = .ok (wholeOutput "" none chunks)) ∨
      (got <+: chunks ∧ fired = true ∧ result = .error .mk) := by
  have hinj (c d : Chunk) : Response.answered c = .answered d → c = d := Response.answered.inj
  have hall : ∀ x ∈ chunks.map Response.answered, ∃ c : Chunk, x = .answered c := by
    intro x hx
    obtain ⟨c, -, rfl⟩ := List.mem_map.1 hx
    exact ⟨c, rfl⟩
  cases h with
  | whole hitems hfired =>
    obtain rfl := (List.map_inj_right hinj).1 hitems
    exact .inl ⟨rfl, hfired, rfl⟩
  | @failed f rest hitems _ =>
    obtain ⟨c, hc⟩ := hall (.failed f) (by simp [hitems])
    cases hc
  | @cancelled x rest hitems hx =>
    obtain ⟨c, rfl⟩ := hall x (by simp [hitems])
    rcases hx with hx | ⟨f, hx, -⟩ <;> cases hx
  | fired hitems hfired =>
    obtain ⟨got', hstart, hgot⟩ := List.prefix_map_iff.1 hitems
    obtain rfl := (List.map_inj_right hinj).1 hgot
    exact .inr ⟨hstart, hfired, rfl⟩

/-! ### Answers in one piece -/

/-- What a step came to, in what its readers look at. -/
def StepResult.verdict (r : StepResult) : Bool × Option String × Option String :=
  (r.isSuccess, r.output, r.errorMessage)

/-- A function that can only answer as a whole, and streams its answer in one piece. -/
def ModelFunction.inOnePiece (role : Role) (execute : Invocation → Ask σ FunctionOutput) :
    ModelFunction σ where
  role
  streams := true
  execute
  openStream := streamWhole role execute

/-- Nothing of the output gets lost when it is streamed in one piece.  A success must have a
text or a structured result, and no error message but one that its result replaces.  A
failure must have an error message and nothing else. -/
def FunctionOutput.SurvivesOnePiece (o : FunctionOutput) : Prop :=
  if o.isSuccess then
    (o.parsed = none → o.rawResponse ≠ none) ∧
      ((o.parsed.bind Reply.indicator?).bind (·.error) = none → o.errorMessage = none)
  else o.parsed = none ∧ o.rawResponse = none ∧ o.errorMessage ≠ none

/-- What a step comes to, by the output of its function. -/
theorem verdict_resultOfFunction (step : Step) (o : FunctionOutput) :
    (resultOfFunction step o).verdict =
      ((o.parsed.bind Reply.indicator?).elim o.isSuccess (·.flag),
        (o.parsed.map Value.render).or o.rawResponse,
        ((o.parsed.bind Reply.indicator?).bind (·.error)).or o.errorMessage) := by
  rw [resultOfFunction_eq]
  rfl

/-- A success in one piece comes to the same exactly if nothing of it gets lost. -/
theorem FunctionOutput.verdict_success_iff {o : FunctionOutput} (hsuccess : o.isSuccess = true)
    (step : Step) :
    (resultOfFunction step
        (wholeOutput "" none [.part (o.rawResponse.getD ""), .last o.parsed])).verdict =
      (resultOfFunction step o).verdict ↔ o.SurvivesOnePiece := by
  have hwhole : wholeOutput "" none [.part (o.rawResponse.getD ""), .last o.parsed] =
      ⟨true, o.parsed, some (o.rawResponse.getD ""), none⟩ := by
    simp [wholeOutput, chunkText, lastParsed, Chunk.part, Chunk.last]
  have houtput : (o.parsed.map Value.render).or (some (o.rawResponse.getD "")) =
      (o.parsed.map Value.render).or o.rawResponse ↔ (o.parsed = none → o.rawResponse ≠ none) := by
    cases o.parsed <;> cases o.rawResponse <;> simp
  have hmessage (told : Option String) :
      told.or none = told.or o.errorMessage ↔ (told = none → o.errorMessage = none) := by
    cases told <;> cases o.errorMessage <;> simp
  rw [hwhole, verdict_resultOfFunction, verdict_resultOfFunction, Prod.mk.injEq, Prod.mk.injEq,
    houtput, hmessage, SurvivesOnePiece, if_pos hsuccess, hsuccess]
  exact and_iff_right rfl

/-- A failure in one piece comes to the same exactly if nothing of it gets lost. -/
theorem FunctionOutput.verdict_failure_iff {o : FunctionOutput} (hfailure : o.isSuccess = false)
    (step : Step) (otherwise : String) :
    (resultOfFunction step (.failure (o.errorMessage.getD otherwise))).verdict =
      (resultOfFunction step o).verdict ↔ o.SurvivesOnePiece := by
  have houtput : none = (o.parsed.map Value.render).or o.rawResponse ↔
      o.parsed = none ∧ o.rawResponse = none := by
    cases o.parsed <;> cases o.rawResponse <;> simp
  have hmessage : some (o.errorMessage.getD otherwise) = o.errorMessage ↔
      o.errorMessage ≠ none := by
    cases o.errorMessage <;> simp
  rw [verdict_resultOfFunction, verdict_resultOfFunction, Prod.mk.injEq, Prod.mk.injEq,
    SurvivesOnePiece, hfailure]
  constructor
  · rintro ⟨-, hsame, htold⟩
    obtain ⟨hparsed, hraw⟩ := houtput.1 hsame
    rw [hparsed] at htold
    exact ⟨hparsed, hraw, hmessage.1 htold⟩
  · rintro ⟨hparsed, hraw, htold⟩
    have hsame := houtput.2 ⟨hparsed, hraw⟩
    rw [hparsed] at hsame ⊢
    exact ⟨rfl, hsame, hmessage.2 htold⟩

/-- A failure that is told with the name of the role is told otherwise without. -/
theorem verdict_failed_ne (step : Step) (role : Role) (f : Fault) :
    (resultOfFunction step (.failure f.text)).verdict ≠
      (resultOfFunction step (answerOutput role (.error f))).verdict := by
  intro h
  have htext : f.text = role.name ++ " failed: " ++ f.text := by
    rw [verdict_resultOfFunction, verdict_resultOfFunction] at h
    exact Option.some.inj (Prod.mk.inj (Prod.mk.inj h).2).2
  have hlength := congrArg String.length htext
  rw [String.length_append, String.length_append] at hlength
  have hfixed : " failed: ".length = 9 := rfl
  omega

section InOnePiece

variable {role : Role} {execute : Invocation → Ask σ FunctionOutput} {i : Invocation}
  {e : Engine σ} {w : World σ}

/-- An answer that is a success comes through as its two chunks, unless the token fires. -/
theorem streamFunction_inOnePiece_of_success (hfired : e.catchUp.world.cancelled = false)
    {o : FunctionOutput} (hanswer : execute i e.catchUp.world = (.answered o, w))
    (hsuccess : o.isSuccess = true) (step : Step) :
    ((streamFunction step (.inOnePiece role execute) i e).2.world.cancelled = false ∧
      (streamFunction step (.inOnePiece role execute) i e).1 =
        .ok (wholeOutput "" none [.part (o.rawResponse.getD ""), .last o.parsed])) ∨
    ((streamFunction step (.inOnePiece role execute) i e).2.world.cancelled = true ∧
      (streamFunction step (.inOnePiece role execute) i e).1 = .error .mk) := by
  have hopen : (ModelFunction.inOnePiece role execute).openStream i e.catchUp.world =
      (.answered (chunksAtHand [.part (o.rawResponse.getD ""), .last o.parsed]), w) := by
    simp [ModelFunction.inOnePiece, streamWhole, hanswer, hsuccess]
  obtain ⟨got, -, hends⟩ := streamFunction_ends hfired hopen step
  rw [handedOut_chunksAtHand] at hends
  rcases hends.of_chunks with ⟨-, hunfired, hresult⟩ | ⟨-, hfires, hresult⟩
  · exact .inl ⟨hunfired, hresult⟩
  · exact .inr ⟨hfires, hresult⟩

/-- An answer that is no success fails the opening. -/
theorem streamFunction_inOnePiece_of_failure (hfired : e.catchUp.world.cancelled = false)
    {o : FunctionOutput} (hanswer : execute i e.catchUp.world = (.answered o, w))
    (hfailure : o.isSuccess = false) (step : Step) :
    (streamFunction step (.inOnePiece role execute) i e).1 =
      .ok (.failure (o.errorMessage.getD (role.name ++ " failed"))) := by
  have hopen : (ModelFunction.inOnePiece role execute).openStream i e.catchUp.world =
      (.failed (.message (o.errorMessage.getD (role.name ++ " failed"))), w) := by
    simp [ModelFunction.inOnePiece, streamWhole, hanswer, hfailure]
  rw [streamFunction_of_failed hfired hopen]
  rfl

/-- A fault instead of an answer fails the opening, or stops the step. -/
theorem streamFunction_inOnePiece_of_failed (hfired : e.catchUp.world.cancelled = false)
    {f : Fault} (hanswer : execute i e.catchUp.world = (.failed f, w)) (step : Step) :
    (streamFunction step (.inOnePiece role execute) i e).1 =
      if f.isCancellation then .error .mk else .ok (.failure f.text) := by
  have hopen : (ModelFunction.inOnePiece role execute).openStream i e.catchUp.world =
      (.failed f, w) := by
    simp [ModelFunction.inOnePiece, streamWhole, hanswer]
  rw [streamFunction_of_failed hfired hopen]

/-- What streaming in one piece leaves as it is, once the function is asked. -/
theorem streamFunction_inOnePiece_verdict_iff (hfired : e.catchUp.world.cancelled = false)
    {x : Response FunctionOutput} (hanswer : execute i e.catchUp.world = (x, w)) (step : Step) :
    (streamFunction step (.inOnePiece role execute) i e).1.map
        (fun o => (resultOfFunction step o).verdict) =
      x.settled.map (fun a => (resultOfFunction step (answerOutput role a)).verdict) ↔
    x.Cancels ∨ ∃ o, x = .answered o ∧ o.SurvivesOnePiece ∧ (o.isSuccess = true →
      (streamFunction step (.inOnePiece role execute) i e).2.world.cancelled = false) := by
  cases x with
  | unanswered =>
    have hopen : (ModelFunction.inOnePiece role execute).openStream i e.catchUp.world =
        (.unanswered, w) := by
      simp [ModelFunction.inOnePiece, streamWhole, hanswer]
    rw [streamFunction_of_unanswered hfired hopen]
    exact iff_of_true rfl (.inl (.inl rfl))
  | failed f =>
    rw [streamFunction_inOnePiece_of_failed hfired hanswer]
    cases hf : f.isCancellation with
    | true =>
      have hsettled : (Response.failed f : Response FunctionOutput).settled = .error .mk := by
        simp [Response.settled, hf]
      rw [hsettled]
      exact iff_of_true rfl (.inl (Response.settled_eq_error_iff.1 hsettled))
    | false =>
      have hsettled : (Response.failed f : Response FunctionOutput).settled = .ok (.error f) :=
        Response.settled_failed hf
      rw [hsettled]
      refine iff_of_false ?_ ?_
      · intro h
        exact verdict_failed_ne step role f (Except.ok.inj h)
      · rintro (hcancels | ⟨o, ho, -⟩)
        · have hstops := Response.settled_eq_error_iff (c := .mk) |>.2 hcancels
          rw [hsettled] at hstops
          cases hstops
        · cases ho
  | answered o =>
    have hcancels : ¬ (Response.answered o).Cancels := by
      rintro (h | ⟨f, h, -⟩) <;> cases h
    have honly (P : FunctionOutput → Prop) :
        (∃ o', Response.answered o = .answered o' ∧ P o') ↔ P o := by
      simp
    rw [or_iff_right hcancels, honly]
    cases hsuccess : o.isSuccess with
    | true =>
      have hsurvives := FunctionOutput.verdict_success_iff hsuccess step
      rcases streamFunction_inOnePiece_of_success hfired hanswer hsuccess step with
        ⟨hunfired, hresult⟩ | ⟨hfires, hresult⟩
      · rw [hresult, hunfired, ← hsurvives]
        constructor
        · intro h
          exact ⟨Except.ok.inj h, fun _ => rfl⟩
        · rintro ⟨h, -⟩
          exact congrArg Except.ok h
      · rw [hresult, hfires]
        refine iff_of_false (fun h => by cases h) ?_
        rintro ⟨-, hunfired⟩
        exact absurd (hunfired rfl) (by simp)
    | false =>
      rw [streamFunction_inOnePiece_of_failure hfired hanswer hsuccess,
        ← FunctionOutput.verdict_failure_iff hsuccess step (role.name ++ " failed")]
      constructor
      · intro h
        exact ⟨Except.ok.inj h, fun h => by cases h⟩
      · rintro ⟨h, -⟩
        exact congrArg Except.ok h

end InOnePiece

/-- **Chunks or not, where a function answers in one piece.**  The step comes to the same
exactly if the token has fired before, the answer cancels the step, or the answer is an
output of which nothing gets lost and the token stays unfired while it is read. -/
theorem runFunction_inOnePiece_verdict_iff (s : Setting) (step : Step)
    (parameters : Option String) (role : Role) (execute : Invocation → Ask σ FunctionOutput)
    (e : Engine σ) :
    (runFunction { s with wantsChunks := true } step parameters
        (.inOnePiece role execute) e).1.map (·.verdict) =
      (runFunction { s with wantsChunks := false } step parameters
        (.inOnePiece role execute) e).1.map (·.verdict) ↔
    e.catchUp.world.cancelled = true ∨
    (execute (stepInvocation s step parameters) e.catchUp.world).1.Cancels ∨
    ∃ o, (execute (stepInvocation s step parameters) e.catchUp.world).1 = .answered o ∧
      o.SurvivesOnePiece ∧ (o.isSuccess = true →
        (runFunction { s with wantsChunks := true } step parameters
          (.inOnePiece role execute) e).2.world.cancelled = false) := by
  cases hfired : e.catchUp.world.cancelled with
  | true =>
    rw [runFunction_of_fired hfired, runFunction_of_fired hfired]
    exact iff_of_true rfl (.inl rfl)
  | false =>
    have hchunks := runFunction_of_streams (s := { s with wantsChunks := true })
      (f := .inOnePiece role execute) rfl rfl step parameters e
    have hanswer := runFunction_of_not_wants (s := { s with wantsChunks := false }) rfl hfired
      step parameters (.inOnePiece role execute)
    have hmap {α β γ : Type} (f : α → β) (g : β → γ) (r : Except Cancelled α) :
        (r.map f).map g = r.map (g ∘ f) := by
      cases r <;> rfl
    rw [hchunks, hanswer, or_iff_right Bool.false_ne_true, hmap, hmap]
    exact streamFunction_inOnePiece_verdict_iff hfired rfl step

namespace Scribe

/-- A result that tells of its own success. -/
def result : Value := .object [("answer", .string "done"), ("isSuccess", .bool true)]

/-- An output that is told to be none, with that result. -/
def output : FunctionOutput := ⟨false, some result, none, none⟩

/-- A function that gives it whatever it is handed. -/
def scribe : ModelFunction Unit := .inOnePiece .summarizer fun _ w => (.answered output, w)

end Scribe

open Narration Scribe in
/-- **Chunks that make a difference:** the step succeeds at once, by what its result tells,
and fails in one piece, where the result gets lost. -/
theorem runFunction_inOnePiece_verdict_ne :
    (runFunction { setting with wantsChunks := false } step none scribe engine).1.map (·.verdict) =
        .ok (true, some result.render, none) ∧
      (runFunction { setting with wantsChunks := true } step none scribe engine).1.map (·.verdict) =
        .ok (false, none, some "summarizer failed") := by
  constructor
  · rw [runFunction_of_not_wants rfl rfl]
    rfl
  · rw [runFunction_of_streams rfl rfl, scribe, streamFunction_inOnePiece_of_failure rfl rfl rfl]
    rfl

/-! ### Answers of a backend -/

/-- A backend says in pieces what it says at once: both ways it fails with the same fault, or
it replies and its pieces make up the reply, however that is cut.  The world moves on before
each piece. -/
inductive Backend.Answers (moveOn : World σ → World σ) (b : Backend σ) (r : GenerationRequest)
    (w : World σ) : Except Fault String → Prop
  | failed (f : Fault) : (b.generate r w).1 = .error f → (b.openStream r w).1 = .error f →
      Answers moveOn b r w (.error f)
  | replied (pieces : List String) (feed : TextFeed σ) :
      (b.generate r w).1 = .ok (String.join pieces) → (b.openStream r w).1 = .ok feed →
        feed.handedOut moveOn (b.openStream r w).2 = pieces.map .ok →
        Answers moveOn b r w (.ok (String.join pieces))

namespace Prompt

section Function

variable {c : FunctionSettings} {b : Backend σ} {role : Role} {i : Invocation} {e : Engine σ}

end Function

end Prompt

namespace Whisper

/-- The pieces of a whispered reply. -/
def pieces : List String := ["hi ", "", "you"]

end Whisper

end Errand
