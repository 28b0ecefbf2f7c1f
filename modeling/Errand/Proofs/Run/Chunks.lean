/-
# What a step makes of a streamed reply

SPEC_FULL.md, section 4.3, on the chunk stream.

A streamed reply is read item by item.  Between two readings the world goes on, so what a
feed hands out is told with what happens in between (`Feed.handedOut`).

However the reading ends, the chunks that were got are the first items of the feed, and the
events are their texts, the empty ones left out (`readChunks_ends`, by induction on the
feed).  It ends with the whole reply, at the first item that is no chunk, or because the
token has fired.  Where the token stays unfired, the items alone say what the step comes to
(`ReadAs`): that is the main result (`runFunction_readAs`).
-/

import Errand.Proofs.Run.Law
import Errand.Schema.Check

namespace Errand

open Json (Value)

variable {σ ρ α : Type}

/-! ### What a feed hands out -/

namespace Feed

/-- What a feed hands out when it is read to its end.  Before each reading the world moves
on. -/
def handedOut (moveOn : World σ → World σ) : Feed σ ρ → World σ → List ρ
  | done, _ => []
  | item read rest, w =>
    let (a, v) := read (moveOn w)
    a :: handedOut moveOn (rest a) v

/-- What a feed hands out begins with its first item. -/
theorem handedOut_item (moveOn : World σ → World σ) (read : World σ → ρ × World σ)
    (rest : ρ → Feed σ ρ) (w : World σ) :
    (item read rest).handedOut moveOn w = (read (moveOn w)).1 ::
      (rest (read (moveOn w)).1).handedOut moveOn (read (moveOn w)).2 := rfl

/-- An item put in front is handed out first. -/
@[simp] theorem handedOut_cons (moveOn : World σ → World σ) (a : ρ) (f : Feed σ ρ)
    (w : World σ) : (cons a f).handedOut moveOn w = a :: f.handedOut moveOn (moveOn w) := rfl

/-- Items that are at hand are handed out whatever happens in between. -/
theorem handedOut_ofList (moveOn : World σ → World σ) (items : List ρ) (w : World σ) :
    (ofList (items.map fun a v => (a, v))).handedOut moveOn w = items := by
  induction items generalizing w with
  | nil => rfl
  | cons a items ih =>
    rw [List.map_cons, ofList, handedOut_item]
    exact congrArg (a :: ·) (ih (moveOn w))

end Feed

/-- Chunks that are at hand are handed out in order. -/
theorem handedOut_chunksAtHand (moveOn : World σ → World σ) (chunks : List Chunk)
    (w : World σ) : (chunksAtHand chunks).handedOut moveOn w = chunks.map .answered := by
  induction chunks generalizing w with
  | nil => rfl
  | cons c chunks ih =>
    rw [chunksAtHand, Feed.handedOut_cons, ih]
    rfl

/-! ### What a question comes to -/

/-- What a run makes of a response: a cancellation stops it, any other failure is handed
on. -/
def Response.settled : Response α → Except Cancelled (Except Fault α)
  | .answered a => .ok (.ok a)
  | .failed f => if f.isCancellation then .error .mk else .ok (.error f)
  | .unanswered => .error .mk

/-- The response was broken off, or is a fault with a cancellation somewhere in its
chain. -/
def Response.Cancels (x : Response α) : Prop :=
  x = .unanswered ∨ ∃ f, x = .failed f ∧ Fault.cancelled ∈ f.causes

/-- A failure that is no cancellation is settled as an error, -/
theorem Response.settled_failed {f : Fault} (h : f.isCancellation = false) :
    (Response.failed f : Response α).settled = .ok (.error f) := by
  simp [settled, h]

/-- and a cancellation alone stops the run. -/
theorem Response.settled_eq_error_iff {x : Response α} {c : Cancelled} :
    x.settled = .error c ↔ x.Cancels := by
  cases x with
  | answered a => simp [settled, Cancels]
  | unanswered => simp [settled, Cancels]
  | failed f =>
    have hcauses := f.isCancellation_iff
    cases hf : f.isCancellation <;> simp_all [settled, Cancels]

/-- The engine after a question was put and answered. -/
def Engine.exchanged (e : Engine σ) (request : Request) (answer : Response α × World σ) :
    Engine σ :=
  { e with
    world := answer.2
    journal := e.journal ++
      [⟨request, e.world.cancelled, answer.1.outline, answer.2.cancelled⟩] }

/-- Nothing is asked once the token has fired. -/
theorem ask_of_fired {e : Engine σ} (hfired : e.catchUp.world.cancelled = true)
    (request : Request) (question : Ask σ α) :
    Run.ask request question e = (.error .mk, e.catchUp) := by
  rw [Run.ask]
  exact if_pos hfired

/-- **A question that is put** settles as its answer does. -/
theorem ask_of_unfired {e : Engine σ} (hfired : e.catchUp.world.cancelled = false)
    (request : Request) (question : Ask σ α) :
    Run.ask request question e = ((question e.catchUp.world).1.settled,
      e.catchUp.exchanged request (question e.catchUp.world)) := by
  unfold Run.ask Engine.exchanged
  dsimp only
  rw [if_neg (by simp [hfired])]
  rcases question e.catchUp.world with ⟨_ | f | _, v⟩
  · rfl
  · simp only [Response.settled]
    split <;> rfl
  · rfl

/-- While the token has not fired, the world is what it has moved on to. -/
theorem Engine.world_catchUp {e : Engine σ} (h : e.catchUp.world.cancelled = false) :
    e.catchUp.world = e.meanwhile e.world := by
  have hfired : (e.world.cancelled || (e.meanwhile e.world).cancelled) = false := h
  have hboth := Bool.or_eq_false_iff.1 hfired
  simp [catchUp, hboth.1]

/-! ### Reading chunk by chunk -/

/-- The events that chunks of a step make: their texts, the empty ones left out. -/
def chunkEvents (step : Step) (chunks : List Chunk) : List Event :=
  (chunks.filter fun c => !c.text.isEmpty).map fun c => .chunk step.stepNumber c.text

/-- The text of chunks. -/
def chunkText (chunks : List Chunk) : String := String.join (chunks.map (·.text))

/-- The structured result of the last final chunk, or `before` if none is final. -/
def lastParsed (before : Option Value) (chunks : List Chunk) : Option Value :=
  ((chunks.filter (·.isFinal)).getLast?).elim before (·.parsed)

/-- The first chunk is told first, -/
theorem chunkEvents_cons (step : Step) (c : Chunk) (chunks : List Chunk) :
    chunkEvents step (c :: chunks) = chunkEvents step [c] ++ chunkEvents step chunks := by
  have happend := List.filter_append (p := fun c : Chunk => !c.text.isEmpty) [c] chunks
  rw [chunkEvents, ← List.singleton_append, happend, List.map_append]
  rfl

/-- its text comes first in the whole, -/
theorem chunkText_cons (c : Chunk) (chunks : List Chunk) :
    chunkText (c :: chunks) = c.text ++ chunkText chunks := String.join_cons

/-- its value counts unless a final one follows, -/
theorem lastParsed_cons (before : Option Value) (c : Chunk) (chunks : List Chunk) :
    lastParsed before (c :: chunks) =
      lastParsed (if c.isFinal then c.parsed else before) chunks := by
  unfold lastParsed
  cases hc : c.isFinal with
  | false => simp [hc]
  | true =>
    rw [List.filter_cons_of_pos hc, List.getLast?_cons]
    cases (chunks.filter (·.isFinal)).getLast? <;> rfl

/-- The output that a reply comes to whose chunks were all read, after what was read
before. -/
def wholeOutput (raw : String) (before : Option Value) (chunks : List Chunk) : FunctionOutput :=
  ⟨true, lastParsed before chunks, some (raw ++ chunkText chunks), none⟩

/-- and the output is put together from the rest accordingly. -/
theorem wholeOutput_cons (raw : String) (before : Option Value) (c : Chunk)
    (chunks : List Chunk) :
    wholeOutput raw before (c :: chunks) =
      wholeOutput (raw ++ c.text) (if c.isFinal then c.parsed else before) chunks := by
  rw [wholeOutput, wholeOutput, lastParsed_cons, chunkText_cons, String.append_assoc]

/-- How the reading of items ends of which the chunks `got` were got: with the whole, at a
fault, at a cancellation, or because the token has fired. -/
inductive ReadingEnds (items : List (Response Chunk)) (got : List Chunk) (fired : Bool)
    (whole : FunctionOutput) : Except Cancelled FunctionOutput → Prop
  | whole : items = got.map .answered → fired = false →
      ReadingEnds items got fired whole (.ok whole)
  | failed {f : Fault} {rest : List (Response Chunk)} :
      items = got.map .answered ++ .failed f :: rest → f.isCancellation = false →
        ReadingEnds items got fired whole (.ok (.failure ("stream failed: " ++ f.text)))
  | cancelled {x : Response Chunk} {rest : List (Response Chunk)} :
      items = got.map .answered ++ x :: rest → x.Cancels →
        ReadingEnds items got fired whole (.error .mk)
  | fired : got.map .answered <+: items → fired = true →
      ReadingEnds items got fired whole (.error .mk)

/-- One more chunk in front. -/
theorem ReadingEnds.cons {items : List (Response Chunk)} {got : List Chunk} {fired : Bool}
    {whole : FunctionOutput} {result : Except Cancelled FunctionOutput}
    (h : ReadingEnds items got fired whole result) (c : Chunk) :
    ReadingEnds (.answered c :: items) (c :: got) fired whole result := by
  cases h with
  | whole hitems hfired => exact .whole (by rw [hitems, List.map_cons]) hfired
  | failed hitems hf => exact .failed (by rw [hitems, List.map_cons, List.cons_append]) hf
  | cancelled hitems hx => exact .cancelled (by rw [hitems, List.map_cons, List.cons_append]) hx
  | fired hitems hfired => exact .fired ((List.prefix_cons_inj _).2 hitems) hfired

/-- The engine after a chunk was sent on, unless it is empty. -/
def Engine.sentChunk (e : Engine σ) (step : Step) (c : Chunk) : Engine σ :=
  { e with events := e.events ++ chunkEvents step [c] }

/-- Reading goes on after a chunk with what the chunk adds. -/
theorem readChunks_item_of_answered {step : Step} {role : Role}
    {read : World σ → Response Chunk × World σ} {rest : Response Chunk → ChunkFeed σ}
    {e : Engine σ} {c : Chunk} {v : World σ} (hfired : e.catchUp.world.cancelled = false)
    (hread : read e.catchUp.world = (.answered c, v)) (raw : String) (parsed : Option Value) :
    readChunks step role (.item read rest) raw parsed e =
      readChunks step role (rest (.answered c)) (raw ++ c.text)
        (if c.isFinal then c.parsed else parsed)
        ((e.catchUp.exchanged (.nextChunk role) (Response.answered c, v)).sentChunk step c) := by
  rw [readChunks, Run.bind_apply, ask_of_unfired hfired, hread]
  simp only [Response.settled]
  cases hc : c.text.isEmpty with
  | true => simp [Engine.sentChunk, chunkEvents, hc]
  | false => simp [Run.bind_apply, Run.send, Run.modify, Engine.sentChunk, chunkEvents, hc]

/-- **What reading a feed comes to,** by induction on the feed. -/
theorem readChunks_ends (step : Step) (role : Role) (feed : ChunkFeed σ) (raw : String)
    (parsed : Option Value) (e : Engine σ) :
    ∃ got, (readChunks step role feed raw parsed e).2.events =
        e.events ++ chunkEvents step got ∧
      ReadingEnds (feed.handedOut e.meanwhile e.world) got
        (readChunks step role feed raw parsed e).2.world.cancelled
        (wholeOutput raw parsed got) (readChunks step role feed raw parsed e).1 := by
  induction feed generalizing raw parsed e with
  | done =>
    refine ⟨[], ?_⟩
    rw [readChunks, Run.bind_apply]
    cases hfired : e.catchUp.world.cancelled with
    | true =>
      rw [ask_of_fired hfired]
      exact ⟨(List.append_nil _).symm, .fired List.nil_prefix hfired⟩
    | false =>
      have hwhole : wholeOutput raw parsed [] = ⟨true, parsed, some raw, none⟩ := by
        rw [wholeOutput, chunkText, List.map_nil, String.join_nil, String.append_empty]
        rfl
      rw [hwhole, ask_of_unfired hfired]
      exact ⟨(List.append_nil _).symm, .whole rfl hfired⟩
  | item read rest ih =>
    cases hfired : e.catchUp.world.cancelled with
    | true =>
      refine ⟨[], ?_⟩
      rw [readChunks, Run.bind_apply, ask_of_fired hfired]
      exact ⟨(List.append_nil _).symm, .fired List.nil_prefix hfired⟩
    | false =>
      have hworld := Engine.world_catchUp hfired
      rw [Feed.handedOut_item, ← hworld]
      obtain ⟨x, v, hread⟩ : ∃ x v, read e.catchUp.world = (x, v) := ⟨_, _, rfl⟩
      rw [hread]
      by_cases hchunk : ∃ c, x = .answered c
      · obtain ⟨c, rfl⟩ := hchunk
        obtain ⟨got, hevents, hends⟩ := ih (.answered c) (raw ++ c.text)
          (if c.isFinal then c.parsed else parsed)
          ((e.catchUp.exchanged (.nextChunk role) (Response.answered c, v)).sentChunk step c)
        rw [readChunks_item_of_answered hfired hread]
        refine ⟨c :: got, ?_, ?_⟩
        · rw [hevents, chunkEvents_cons, ← List.append_assoc]
          rfl
        · rw [wholeOutput_cons]
          exact hends.cons c
      · refine ⟨[], ?_⟩
        rw [readChunks, Run.bind_apply, ask_of_unfired hfired, hread]
        cases x with
        | answered c => exact absurd ⟨c, rfl⟩ hchunk
        | unanswered => exact ⟨(List.append_nil _).symm, .cancelled rfl (.inl rfl)⟩
        | failed f =>
          cases hf : f.isCancellation with
          | true =>
            simp only [Response.settled, hf]
            exact ⟨(List.append_nil _).symm,
              .cancelled rfl (.inr ⟨f, rfl, f.isCancellation_iff.1 hf⟩)⟩
          | false =>
            simp only [Response.settled, hf]
            exact ⟨(List.append_nil _).symm, .failed rfl hf⟩

/-! ### Steps with a streamed reply -/

/-- A result that is read off a run leaves the engine as the run does. -/
theorem bind_pure_apply {β : Type} (m : Run σ α) (f : α → β) (e : Engine σ) :
    (do return f (← m) : Run σ β) e = ((m e).1.map f, (m e).2) := by
  show (m >>= fun a => pure (f a)) e = _
  rw [Run.bind_apply]
  rcases m e with ⟨_ | a, e'⟩ <;> rfl

/-- A step whose function streams is its reply read chunk by chunk, if chunks are wanted. -/
theorem runFunction_of_streams {s : Setting} {f : ModelFunction σ} (hstreams : f.streams = true)
    (hwants : s.wantsChunks = true) (step : Step) (parameters : Option String) (e : Engine σ) :
    runFunction s step parameters f e =
      ((streamFunction step f (stepInvocation s step parameters) e).1.map (resultOfFunction step),
        (streamFunction step f (stepInvocation s step parameters) e).2) := by
  rw [runFunction]
  simp only [hstreams, hwants, Bool.and_self, if_true]
  exact bind_pure_apply _ _ e

/-- A stream that was opened is read. -/
theorem streamFunction_of_answered {f : ModelFunction σ} {i : Invocation} {e : Engine σ}
    {feed : ChunkFeed σ} {w : World σ} (hfired : e.catchUp.world.cancelled = false)
    (hopen : f.openStream i e.catchUp.world = (.answered feed, w)) (step : Step) :
    streamFunction step f i e = readChunks step f.role feed "" none
      (e.catchUp.exchanged (.openStream f.role i) (Response.answered feed, w)) := by
  rw [streamFunction, Run.bind_apply, ask_of_unfired hfired, hopen]
  rfl

/-- Nothing is opened once the token has fired. -/
theorem streamFunction_of_fired {e : Engine σ} (hfired : e.catchUp.world.cancelled = true)
    (f : ModelFunction σ) (i : Invocation) (step : Step) :
    streamFunction step f i e = (.error .mk, e.catchUp) := by
  rw [streamFunction, Run.bind_apply, ask_of_fired hfired]

/-- **What a streamed reply comes to that was opened:** its feed was read from the world that
the opening left. -/
theorem streamFunction_ends {f : ModelFunction σ} {i : Invocation} {e : Engine σ}
    {feed : ChunkFeed σ} {w : World σ} (hfired : e.catchUp.world.cancelled = false)
    (hopen : f.openStream i e.catchUp.world = (.answered feed, w)) (step : Step) :
    ∃ got, (streamFunction step f i e).2.events = e.events ++ chunkEvents step got ∧
      ReadingEnds (feed.handedOut e.meanwhile w) got
        (streamFunction step f i e).2.world.cancelled (wholeOutput "" none got)
        (streamFunction step f i e).1 := by
  rw [streamFunction_of_answered hfired hopen]
  exact readChunks_ends step f.role feed "" none _

/-- What a step comes to whose reply was read while the token stayed unfired: the items that
its stream hands out, the events that the step sends, and its result. -/
inductive ReadAs (step : Step) :
    List (Response Chunk) → List Event → Except Cancelled StepResult → Prop
  /-- All items are chunks.  The output is the structured result of the last final chunk, or
  else the text of all.  An indicator in the structured result tells of success, and else
  the step is one. -/
  | whole (chunks : List Chunk) (parsed : Option Value) (indicator : Option Reply.Indicator) :
      ((chunks.filter (·.isFinal)).getLast?).bind (·.parsed) = parsed →
        parsed.bind Reply.indicator? = indicator →
        ReadAs step (chunks.map .answered)
          ((chunks.filter (·.text ≠ "")).map fun c => .chunk step.stepNumber c.text)
          (.ok { StepResult.success step
              (some (parsed.elim (String.join (chunks.map (·.text))) Value.render)) with
            isSuccess := indicator.elim true (·.flag)
            errorMessage := indicator.bind (·.error) })
  /-- The first item that is no chunk is a failure.  The step has no output. -/
  | failed (chunks : List Chunk) (f : Fault) (rest : List (Response Chunk)) :
      Fault.cancelled ∉ f.causes →
        ReadAs step (chunks.map .answered ++ .failed f :: rest)
          ((chunks.filter (·.text ≠ "")).map fun c => .chunk step.stepNumber c.text)
          (.ok (.failure step ("stream failed: " ++ f.text)))
  /-- The first item that is no chunk is a cancellation.  So is the step. -/
  | cancelled (chunks : List Chunk) (x : Response Chunk) (rest : List (Response Chunk)) :
      x.Cancels →
        ReadAs step (chunks.map .answered ++ x :: rest)
          ((chunks.filter (·.text ≠ "")).map fun c => .chunk step.stepNumber c.text)
          (.error .mk)

/-- Every chunk that has text is told, and no other. -/
theorem chunkEvents_eq (step : Step) (chunks : List Chunk) : chunkEvents step chunks =
    (chunks.filter (·.text ≠ "")).map fun c => .chunk step.stepNumber c.text := by
  have htext (c : Chunk) : (!c.text.isEmpty) = decide (c.text ≠ "") := by
    rw [Bool.eq_iff_iff, Bool.not_eq_true', ← Bool.not_eq_true, String.isEmpty_iff,
      decide_eq_true_iff]
  rw [chunkEvents, funext htext]

/-- The value that counts is the last final chunk's. -/
theorem lastParsed_none (chunks : List Chunk) :
    lastParsed none chunks = ((chunks.filter (·.isFinal)).getLast?).bind (·.parsed) := by
  unfold lastParsed
  cases (chunks.filter (·.isFinal)).getLast? <;> rfl

/-- **The result of a step in one equation,** by the output of its function. -/
theorem resultOfFunction_eq (step : Step) (o : FunctionOutput) :
    resultOfFunction step o =
      { StepResult.success step ((o.parsed.map Value.render).or o.rawResponse) with
        isSuccess := (o.parsed.bind Reply.indicator?).elim o.isSuccess (·.flag)
        errorMessage := ((o.parsed.bind Reply.indicator?).bind (·.error)).or o.errorMessage } := by
  unfold resultOfFunction
  cases hparsed : o.parsed with
  | none => rfl
  | some v =>
    dsimp only [Option.bind_some]
    cases Reply.indicator? v <;> rfl

/-- The result of a step whose reply was read as a whole. -/
theorem resultOfFunction_wholeOutput (step : Step) (chunks : List Chunk) :
    resultOfFunction step (wholeOutput "" none chunks) =
      { StepResult.success step
          (some ((lastParsed none chunks).elim (chunkText chunks) Value.render)) with
        isSuccess := ((lastParsed none chunks).bind Reply.indicator?).elim true (·.flag)
        errorMessage := ((lastParsed none chunks).bind Reply.indicator?).bind (·.error) } := by
  have htext : ((lastParsed none chunks).map Value.render).or (some (chunkText chunks)) =
      some ((lastParsed none chunks).elim (chunkText chunks) Value.render) := by
    cases lastParsed none chunks <;> rfl
  rw [resultOfFunction_eq, wholeOutput, String.empty_append, htext, Option.or_none]

/-- The end of a reading, as the end of the step. -/
theorem ReadingEnds.readAs {items : List (Response Chunk)} {got : List Chunk}
    {result : Except Cancelled FunctionOutput}
    (h : ReadingEnds items got false (wholeOutput "" none got) result) (step : Step) :
    ReadAs step items (chunkEvents step got) (result.map (resultOfFunction step)) := by
  rw [chunkEvents_eq]
  cases h with
  | whole hitems _ =>
    rw [hitems, Except.map, resultOfFunction_wholeOutput]
    exact .whole got _ _ (lastParsed_none got).symm rfl
  | @failed f rest hitems hf =>
    rw [hitems]
    refine .failed got f rest fun hcause => ?_
    rw [f.isCancellation_iff.2 hcause] at hf
    cases hf
  | cancelled hitems hx =>
    rw [hitems]
    exact .cancelled got _ _ hx
  | fired _ hfired => cases hfired

/-- **A streamed reply, by its items.**  If the token is still unfired at the end, what a
stream hands out says what the step comes to: it sends the texts of the chunks before the
first item that is none, and its result is that of the whole reply, or of that item. -/
theorem runFunction_readAs {s : Setting} {step : Step} {parameters : Option String}
    {f : ModelFunction σ} {e : Engine σ} (hstreams : f.streams = true)
    (hwants : s.wantsChunks = true) {feed : ChunkFeed σ} {w : World σ}
    (hopen : f.openStream (stepInvocation s step parameters) e.catchUp.world =
      (.answered feed, w))
    (hunfired : (runFunction s step parameters f e).2.world.cancelled = false) :
    ∃ sent, (runFunction s step parameters f e).2.events = e.events ++ sent ∧
      ReadAs step (feed.handedOut e.meanwhile w) sent (runFunction s step parameters f e).1 := by
  rw [runFunction_of_streams hstreams hwants] at hunfired ⊢
  have hfired : e.catchUp.world.cancelled = false := by
    cases hfired : e.catchUp.world.cancelled with
    | false => rfl
    | true =>
      rw [streamFunction_of_fired hfired, hfired] at hunfired
      cases hunfired
  obtain ⟨got, hevents, hends⟩ := streamFunction_ends hfired hopen step
  rw [hunfired] at hends
  exact ⟨chunkEvents step got, hevents, hends.readAs step⟩

namespace Narration

/-- The items of a told story: its end says that it is none. -/
def items : List (Response Chunk) :=
  [.answered (.part "Once"), .answered (.part ""),
    .answered ⟨" upon", true, some (.object [("success", .bool false)])⟩]

/-- A function that tells it piece by piece. -/
def narrator : ModelFunction Unit where
  role := .summarizer
  streams := true
  execute _ := fun w => (.unanswered, w)
  openStream _ := fun w => (.answered (.ofList (items.map fun x v => (x, v))), w)

/-- An engine that has nothing registered. -/
def engine : Engine Unit := { world := ⟨(), 0, false⟩, registry := {} }

/-- A setting in which chunks are wanted. -/
def setting : Setting := { goal := "", dialect := .common, wantsChunks := true }

/-- The step that is told. -/
def step : Step := { stepNumber := 1, targetName := "summarizer" }

end Narration

open Narration in
/-- The hypotheses of `runFunction_readAs` are satisfiable: a story is told in two pieces,
and its end has the last word. -/
theorem runFunction_readAs_narration :
    narrator.streams = true ∧ setting.wantsChunks = true ∧
      (runFunction setting step none narrator engine).2.world.cancelled = false ∧
      (runFunction setting step none narrator engine).2.events =
        [.chunk 1 "Once", .chunk 1 " upon"] ∧
      ReadAs step items [.chunk 1 "Once", .chunk 1 " upon"]
        (runFunction setting step none narrator engine).1 := by
  have hstreams : narrator.streams = true := rfl
  have hwants : setting.wantsChunks = true := rfl
  have hunfired : (runFunction setting step none narrator engine).2.world.cancelled = false := by
    decide +kernel
  have hsent : (runFunction setting step none narrator engine).2.events =
      [.chunk 1 "Once", .chunk 1 " upon"] := by decide +kernel
  obtain ⟨sent, hevents, hread⟩ := runFunction_readAs hstreams hwants rfl hunfired
  rw [hsent, show engine.events = [] from rfl, List.nil_append] at hevents
  rw [Feed.handedOut_ofList, ← hevents] at hread
  exact ⟨hstreams, hwants, hunfired, hsent, hread⟩

end Errand
