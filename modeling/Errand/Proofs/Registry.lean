/-
# Registries and what was asked of them

SPEC_FULL.md, section 11.2 (Registry).

A registry is asked one thing after the other (`Registry.Request`): to register, to look up,
to resolve, to list, to tell its counts.  `history` is the record of what was asked and
answered, `after` the registry that is left.

What a look-up should find is read off that record (`Meant`): of the tools with the name, the
one registered last, else of those that have it in other ASCII case; of the functions with the
role, the one registered last.  What is counted is read off it as well: how often something was
found since it was registered last.  `Tells` says that a registry and a record agree on both.
One request preserves it (`Tells.perform`), because all that a request can do to a registry is
to register one item or to count one use of what it found (`Request.Effect`); so it holds
after any list of requests (`tells_after`).

A name in another case is only clear if the tools it could mean share one name
(`Unambiguous`): with several, the order in which they are kept would decide.
-/

import Mathlib.Data.List.DropRight
import Mathlib.Data.List.Find
import Mathlib.Data.List.Induction
import Errand.Proofs.Run.RoleCalls

namespace Errand

variable {σ : Type}

/-! ### Lists with keys -/

section Keyed

variable {α κ : Type} [DecidableEq κ] (key : α → κ)

/-- What was put in last is found under its key, and under other keys the same as before. -/
theorem find?_replaceOrAdd (x : α) (l : List α) (k : κ) :
    (replaceOrAdd (key · == key x) x l).find? (key · == k) =
      if key x = k then some x else l.find? (key · == k) := by
  induction l with
  | nil => by_cases h : key x = k <;> simp [replaceOrAdd, h]
  | cons y l ih =>
    rw [replaceOrAdd]
    by_cases hy : key y = key x
    · rw [if_pos (beq_iff_eq.2 hy)]
      by_cases h : key x = k <;> simp [hy, h]
    · rw [if_neg (by simpa using hy)]
      by_cases h : key y = k
      · have hx : key x ≠ k := fun hx => hy (h.trans hx.symm)
        rw [if_neg hx, List.find?_cons_of_pos (by simpa using h),
          List.find?_cons_of_pos (by simpa using h)]
      · rw [List.find?_cons_of_neg (by simpa using h),
          List.find?_cons_of_neg (by simpa using h), ih]

/-- Counting changes no entry but the one that is counted. -/
theorem find?_countUse (l : List (Entry α)) (k k' : κ) :
    (countUse (key · == k) l).find? (key ·.item == k') =
      (l.find? (key ·.item == k')).map fun e =>
        if k = k' then { e with uses := e.uses + 1 } else e := by
  induction l with
  | nil => rfl
  | cons e l ih =>
    rw [countUse]
    by_cases he : key e.item = k
    · rw [if_pos (beq_iff_eq.2 he)]
      by_cases h : k = k'
      · simp [he, h]
      · -- The entries after the counted one are as they were.
        have hid : (fun e : Entry α =>
            if k = k' then { e with uses := e.uses + 1 } else e) = id := by
          funext e
          exact if_neg h
        rw [hid, Option.map_id_fun, id, List.find?_cons_of_neg (by simp [he, h]),
          List.find?_cons_of_neg (by simp [he, h])]
    · rw [if_neg (by simpa using he)]
      by_cases h : key e.item = k'
      · have hk : k ≠ k' := fun hk => he (h.trans hk.symm)
        rw [List.find?_cons_of_pos (by simpa using h), List.find?_cons_of_pos (by simpa using h),
          Option.map_some, if_neg hk]
      · rw [List.find?_cons_of_neg (by simpa using h),
          List.find?_cons_of_neg (by simpa using h), ih]

/-- What is found by a test of keys is the first with its key. -/
theorem find?_key_of_find? {p : κ → Bool} {l : List α} {x : α} (h : l.find? (p <| key ·) = some x) :
    l.find? (key · == key x) = some x := by
  obtain ⟨hx, as, bs, rfl, has⟩ := List.find?_eq_some_iff_append.1 h
  refine List.find?_eq_some_iff_append.2 ⟨by simp, as, bs, rfl, fun a ha => ?_⟩
  have hother : key a ≠ key x := by
    intro heq
    have := has a ha
    rw [heq, hx] at this
    exact absurd this (by decide)
  simpa using hother

/-- A test that one key alone passes finds what that key finds. -/
theorem find?_of_only {p : κ → Bool} {l : List α} {k : κ} (hk : p k = true)
    (honly : ∀ x ∈ l, p (key x) = true → key x = k) :
    l.find? (p <| key ·) = l.find? (key · == k) := by
  refine List.find?_congr fun x hx => ?_
  by_cases hxk : key x = k
  · simp [hxk, hk]
  · have hpx : p (key x) = false := by
      rw [Bool.eq_false_iff]
      exact fun hpx => hxk (honly x hx hpx)
    simp [hxk, hpx]

/-- **A test of keys that one key passes at most** finds the same in two lists that are alike
key by key. -/
theorem find?_eq_of_keys {l m : List α} (hkeys : ∀ k, l.find? (key · == k) = m.find? (key · == k))
    {p : κ → Bool} (hone : ∀ x ∈ m, ∀ y ∈ m, p (key x) = true → p (key y) = true → key x = key y) :
    l.find? (p <| key ·) = m.find? (p <| key ·) := by
  have hmem : ∀ x ∈ l, ∃ y ∈ m, key y = key x := by
    intro x hx
    have hfound : (m.find? (key · == key x)).isSome = true := by
      rw [← hkeys, List.find?_isSome]
      exact ⟨x, hx, by simp⟩
    obtain ⟨y, hy, hyx⟩ := List.find?_isSome.1 hfound
    exact ⟨y, hy, beq_iff_eq.1 hyx⟩
  by_cases hsome : ∃ y ∈ m, p (key y) = true
  · obtain ⟨y, hy, hpy⟩ := hsome
    have honly : ∀ x ∈ l, p (key x) = true → key x = key y := by
      intro x hx hpx
      obtain ⟨z, hz, hzx⟩ := hmem x hx
      rw [← hzx] at hpx ⊢
      exact hone z hz y hy hpx hpy
    rw [find?_of_only key hpy honly, hkeys,
      find?_of_only key hpy fun x hx hpx => hone x hx y hy hpx hpy]
  · have hright : m.find? (p <| key ·) = none :=
      List.find?_eq_none.2 fun y hy hpy => hsome ⟨y, hy, hpy⟩
    have hleft : l.find? (p <| key ·) = none := by
      refine List.find?_eq_none.2 fun x hx hpx => ?_
      obtain ⟨y, hy, hyx⟩ := hmem x hx
      exact hsome ⟨y, hy, hyx ▸ hpx⟩
    rw [hleft, hright]

end Keyed

namespace Registry

/-! ### Requests -/

/-- What a registry can be asked. -/
inductive Request (σ : Type) where
  | registerTool (t : Tool σ)
  | registerFunction (f : ModelFunction σ)
  | lookupTool (name : String)
  | lookupFunction (role : Role)
  | resolve (name : String)
  | listCatalog
  | listTools
  | listRoles
  | tellToolUses (name : String)
  | tellFunctionUses (role : Role)

/-- What a registry answers. -/
inductive Answer (σ : Type) where
  | registered
  | target (found : Option (Target σ))
  | catalog (c : Catalog)
  | names (ns : List String)
  | roles (rs : List Role)
  | uses (n : UInt64)

/-- A request and its answer. -/
structure Exchange (σ : Type) where
  request : Request σ
  answer : Answer σ

/-- The answer to a request, and the registry after it. -/
def perform (r : Registry σ) : Request σ → Answer σ × Registry σ
  | .registerTool t => (.registered, r.registerTool t)
  | .registerFunction f => (.registered, r.registerFunction f)
  | .lookupTool name => (.target ((r.lookupTool name).1.map .tool), (r.lookupTool name).2)
  | .lookupFunction role =>
    (.target ((r.lookupFunction role).1.map .function), (r.lookupFunction role).2)
  | .resolve name => (.target (r.resolve name).1, (r.resolve name).2)
  | .listCatalog => (.catalog r.catalog, r)
  | .listTools => (.names r.toolNames, r)
  | .listRoles => (.roles r.roles, r)
  | .tellToolUses name => (.uses (r.toolUsage name), r)
  | .tellFunctionUses role => (.uses (r.functionUsage role), r)

/-- A registry that was asked one thing more, with the record of all it was asked. -/
def ask (x : List (Exchange σ) × Registry σ) (q : Request σ) : List (Exchange σ) × Registry σ :=
  (x.1 ++ [⟨q, (x.2.perform q).1⟩], (x.2.perform q).2)

/-- What was asked and answered, from an empty registry on. -/
def history (qs : List (Request σ)) : List (Exchange σ) := (qs.foldl ask ([], {})).1

/-- The registry that is left, from an empty one on. -/
def after (qs : List (Request σ)) : Registry σ := (qs.foldl ask ([], {})).2

/-- One request more is asked of the registry that the others left. -/
@[simp] theorem after_concat (qs : List (Request σ)) (q : Request σ) :
    after (qs ++ [q]) = ((after qs).perform q).2 := by
  simp [after, ask]

/-- It is recorded last, with its answer. -/
@[simp] theorem history_concat (qs : List (Request σ)) (q : Request σ) :
    history (qs ++ [q]) = history qs ++ [⟨q, ((after qs).perform q).1⟩] := by
  simp [history, after, ask]

/-- The tool that is registered by a request. -/
def Request.tool? : Request σ → Option (Tool σ)
  | .registerTool t => some t
  | _ => none

/-- The function that is registered by a request. -/
def Request.function? : Request σ → Option (ModelFunction σ)
  | .registerFunction f => some f
  | _ => none

/-- The name that a request looks for among the tools. -/
def Request.name? : Request σ → Option String
  | .lookupTool name => some name
  | .resolve name => Text.trimmed? name
  | _ => none

/-- What an answer says was found. -/
def Answer.found? : Answer σ → Option (Target σ)
  | .target found => found
  | _ => none

end Registry

/-- Whether a target is the tool of this name. -/
def Target.isTool (name : String) (target : Target σ) : Bool :=
  match target with
  | .tool t => t.name == name
  | .function _ => false

/-- Whether a target is the function of this role. -/
def Target.isFunction (role : Role) (target : Target σ) : Bool :=
  match target with
  | .tool _ => false
  | .function f => f.role == role

namespace Registry

/-! ### What a record says -/

/-- The tools that were registered, first to last. -/
def toolsRegistered (log : List (Exchange σ)) : List (Tool σ) := log.filterMap (·.request.tool?)

/-- The functions that were registered, first to last. -/
def functionsRegistered (log : List (Exchange σ)) : List (ModelFunction σ) :=
  log.filterMap (·.request.function?)

/-- The tool that was registered last under such a name. -/
def lastTool? (log : List (Exchange σ)) (p : String → Bool) : Option (Tool σ) :=
  (toolsRegistered log).reverse.find? (p ·.name)

/-- The function that was registered last for a role. -/
def lastFunction? (log : List (Exchange σ)) (role : Role) : Option (ModelFunction σ) :=
  (functionsRegistered log).reverse.find? (·.role == role)

/-- The tool that was registered last under a name, else under a name that differs from it in
the case of ASCII letters. -/
def namedTool? (log : List (Exchange σ)) (name : String) : Option (Tool σ) :=
  (lastTool? log (· == name)).or (lastTool? log (Text.equalIgnoringCase · name))

/-- What a look-up should find: the tool of the name; for a target name that no tool has, the
function of the role it spells; and for a blank one nothing. -/
def meant? (log : List (Exchange σ)) : Request σ → Option (Target σ)
  | .lookupTool name => (namedTool? log name).map .tool
  | .lookupFunction role => (lastFunction? log role).map .function
  | .resolve name => (Text.trimmed? name).bind fun name =>
      ((namedTool? log name).map .tool).or
        (((Role.ofName? name).bind (lastFunction? log)).map .function)
  | _ => none

/-- A tool was registered under just this name, or all whose names differ from it in case at
most share one name. -/
def Unambiguous (log : List (Exchange σ)) (name : String) : Prop :=
  (∃ t ∈ toolsRegistered log, t.name = name) ∨
    ∀ t ∈ toolsRegistered log, ∀ u ∈ toolsRegistered log,
      Text.equalIgnoringCase t.name name = true → Text.equalIgnoringCase u.name name = true →
        t.name = u.name

/-- How often the tool of a name was found since a tool was last registered under it. -/
def timesToolFound (log : List (Exchange σ)) (name : String) : Nat :=
  (log.rtakeWhile fun x => !x.request.tool?.any (·.name == name)).countP fun x =>
    x.answer.found?.any (·.isTool name)

/-- How often the function of a role was found since one was last registered for it. -/
def timesFunctionFound (log : List (Exchange σ)) (role : Role) : Nat :=
  (log.rtakeWhile fun x => !x.request.function?.any (·.role == role)).countP fun x =>
    x.answer.found?.any (·.isFunction role)

section Record

variable (log : List (Exchange σ)) (x : Exchange σ)

/-- The tool registered last is that of the last request, if it registers one with the name, -/
theorem lastTool?_concat (p : String → Bool) : lastTool? (log ++ [x]) p =
    (x.request.tool?.filter (p ·.name)).or (lastTool? log p) := by
  rw [lastTool?, toolsRegistered, List.filterMap_append]
  cases h : x.request.tool? with
  | none => simp [h, lastTool?, toolsRegistered]
  | some t => cases hp : p t.name <;> simp [h, hp, Option.filter, lastTool?, toolsRegistered]

/-- and likewise for the functions. -/
theorem lastFunction?_concat (role : Role) : lastFunction? (log ++ [x]) role =
    (x.request.function?.filter (·.role == role)).or (lastFunction? log role) := by
  rw [lastFunction?, functionsRegistered, List.filterMap_append]
  cases h : x.request.function? with
  | none => simp [h, lastFunction?, functionsRegistered]
  | some f =>
    by_cases hf : f.role = role <;>
      simp [h, hf, Option.filter, lastFunction?, functionsRegistered]

/-- A tool that is registered again starts over, and one that is found counts one more. -/
theorem timesToolFound_concat (name : String) : timesToolFound (log ++ [x]) name =
    if x.request.tool?.any (·.name == name) then 0
    else timesToolFound log name + if x.answer.found?.any (·.isTool name) then 1 else 0 := by
  rw [timesToolFound, List.rtakeWhile_concat]
  cases x.request.tool?.any (·.name == name) with
  | true => rfl
  | false => simp [timesToolFound, List.countP_cons]

/-- So do functions. -/
theorem timesFunctionFound_concat (role : Role) : timesFunctionFound (log ++ [x]) role =
    if x.request.function?.any (·.role == role) then 0
    else timesFunctionFound log role +
      if x.answer.found?.any (·.isFunction role) then 1 else 0 := by
  rw [timesFunctionFound, List.rtakeWhile_concat]
  cases x.request.function?.any (·.role == role) with
  | true => rfl
  | false => simp [timesFunctionFound, List.countP_cons]

end Record

/-! ### What one request does -/

/-- The tool with just this name. -/
def tool? (r : Registry σ) (name : String) : Option (Tool σ) :=
  (r.tools.find? (·.item.name == name)).map (·.item)

/-- All that looking something up can do: nothing, or count one use of what was found, which
is what has its own name or role. -/
inductive Counts (r : Registry σ) : Option (Target σ) → Registry σ → Prop
  | nothing : Counts r none r
  | tool {t : Tool σ} (h : r.tool? t.name = some t) : Counts r (some (.tool t)) (r.countTool t.name)
  | function {f : ModelFunction σ} (h : r.findFunction? f.role = some f) :
    Counts r (some (.function f)) (r.countFunction f.role)

/-- All that a request can do. -/
inductive Effect (r : Registry σ) : Request σ → Answer σ → Registry σ → Prop
  | registerTool (t : Tool σ) : Effect r (.registerTool t) .registered (r.registerTool t)
  | registerFunction (f : ModelFunction σ) :
    Effect r (.registerFunction f) .registered (r.registerFunction f)
  | lookup {q : Request σ} {a : Answer σ} {r' : Registry σ} (htool : q.tool? = none)
    (hfunction : q.function? = none) (h : Counts r a.found? r') : Effect r q a r'

section Effects

variable {r r' : Registry σ}

/-- A tool that was found, in whatever case, is the one with its own name. -/
theorem tool?_of_findTool? {name : String} {t : Tool σ} (h : r.findTool? name = some t) :
    r.tool? t.name = some t := by
  obtain ⟨e, he, rfl⟩ := Option.map_eq_some_iff.1 h
  have hself : r.tools.find? (·.item.name == e.item.name) = some e := by
    rcases Option.or_eq_some_iff.1 he with hexact | ⟨-, hcase⟩
    · exact find?_key_of_find? (fun e : Entry (Tool σ) => e.item.name) (p := (· == name)) hexact
    · exact find?_key_of_find? (fun e : Entry (Tool σ) => e.item.name)
        (p := (Text.equalIgnoringCase · name)) hcase
  rw [tool?, hself, Option.map_some]

/-- What is found for a role has it. -/
theorem findFunction?_role {role : Role} {f : ModelFunction σ}
    (h : r.findFunction? role = some f) : f.role = role := by
  obtain ⟨e, he, rfl⟩ := Option.map_eq_some_iff.1 h
  simpa using List.find?_some he

/-- A look-up of a tool counts what it found and nothing else, -/
theorem counts_lookupTool (r : Registry σ) (name : String) :
    Counts r ((r.lookupTool name).1.map .tool) (r.lookupTool name).2 := by
  unfold lookupTool
  split
  · next h => exact .tool (tool?_of_findTool? h)
  · exact .nothing

/-- so does one of a function, -/
theorem counts_lookupFunction (r : Registry σ) (role : Role) :
    Counts r ((r.lookupFunction role).1.map .function) (r.lookupFunction role).2 := by
  unfold lookupFunction
  split
  · next f h =>
    obtain rfl := findFunction?_role h
    exact .function h
  · exact .nothing

/-- A look-up in vain leaves the registry as it is. -/
theorem Counts.eq_of_none (h : Counts r none r') : r' = r := by
  cases h
  rfl

/-- and so does a resolution, whichever of the two it found. -/
theorem counts_resolve (r : Registry σ) (name : String) :
    Counts r (r.resolve name).1 (r.resolve name).2 := by
  unfold resolve
  split
  · exact .nothing
  · next name _ =>
    have htool := counts_lookupTool r name
    split
    · next heq =>
      rw [heq] at htool
      exact htool
    · next r₁ heq =>
      rw [heq] at htool
      obtain rfl := htool.eq_of_none
      split
      · exact .nothing
      · next role _ =>
        have hfunction := counts_lookupFunction r₁ role
        split <;> next heq' =>
          rw [heq'] at hfunction
          exact hfunction

/-- **All that a request can do** is to register something or to look something up. -/
theorem effect_perform (r : Registry σ) (q : Request σ) :
    Effect r q (r.perform q).1 (r.perform q).2 := by
  cases q with
  | registerTool t => exact .registerTool t
  | registerFunction f => exact .registerFunction f
  | lookupTool name => exact .lookup rfl rfl (counts_lookupTool r name)
  | lookupFunction role => exact .lookup rfl rfl (counts_lookupFunction r role)
  | resolve name =>
    have hcounts := counts_resolve r name
    rw [perform]
    -- Nothing but its two parts matters, so it is not opened again.
    generalize r.resolve name = x at hcounts ⊢
    exact .lookup rfl rfl hcounts
  | listCatalog => exact .lookup rfl rfl .nothing
  | listTools => exact .lookup rfl rfl .nothing
  | listRoles => exact .lookup rfl rfl .nothing
  | tellToolUses name => exact .lookup rfl rfl .nothing
  | tellFunctionUses role => exact .lookup rfl rfl .nothing

end Effects

/-! ### What a registry keeps -/

section Kept

variable (r : Registry σ) (t : Tool σ) (f : ModelFunction σ) (name name' : String)
  (role role' : Role)

/-- The tool that was registered is found under its name, and no other is touched. -/
theorem find?_registerTool : (r.registerTool t).tools.find? (·.item.name == name) =
    if t.name = name then some { item := t } else r.tools.find? (·.item.name == name) :=
  find?_replaceOrAdd (·.item.name) { item := t } r.tools name

/-- So it is with a function and its role. -/
theorem find?_registerFunction : (r.registerFunction f).functions.find? (·.item.role == role) =
    if f.role = role then some { item := f } else r.functions.find? (·.item.role == role) :=
  find?_replaceOrAdd (·.item.role) { item := f } r.functions role

theorem tool?_registerTool :
    (r.registerTool t).tool? name = if t.name = name then some t else r.tool? name := by
  rw [tool?, find?_registerTool]
  split <;> rfl

/-- A tool that is registered has not been found yet. -/
theorem toolUses_registerTool :
    (r.registerTool t).toolUses name = if t.name = name then 0 else r.toolUses name := by
  rw [toolUses, find?_registerTool]
  split <;> rfl

theorem findFunction?_registerFunction : (r.registerFunction f).findFunction? role =
    if f.role = role then some f else r.findFunction? role := by
  rw [findFunction?, find?_registerFunction]
  split <;> rfl

/-- Neither has a function. -/
theorem functionUses_registerFunction : (r.registerFunction f).functionUses role =
    if f.role = role then 0 else r.functionUses role := by
  rw [functionUses, find?_registerFunction]
  split <;> rfl

/-- Whether a tool is found does not hang on the counts, -/
theorem tool?_eq : r.tool? name = (r.tools.map (·.item)).find? (·.name == name) :=
  map_item_find? (fun t : Tool σ => t.name == name) r.tools

/-- and nor does it with a function. -/
theorem findFunction?_eq :
    r.findFunction? role = (r.functions.map (·.item)).find? (·.role == role) :=
  map_item_find? (fun f : ModelFunction σ => f.role == role) r.functions

/-- So counting moves nothing, -/
theorem tool?_countTool : (r.countTool name).tool? name' = r.tool? name' := by
  rw [tool?_eq, tool?_eq, countTool, map_item_countUse]

/-- neither among tools nor among functions. -/
theorem findFunction?_countFunction :
    (r.countFunction role).findFunction? role' = r.findFunction? role' := by
  rw [findFunction?_eq, findFunction?_eq, countFunction, map_item_countUse]

variable {r t f name role}

/-- The tool that is counted has one use more, -/
theorem toolUses_countTool (h : r.tool? name = some t) : (r.countTool name).toolUses name' =
    r.toolUses name' + if name = name' then 1 else 0 := by
  obtain ⟨e, he, -⟩ := Option.map_eq_some_iff.1 h
  rw [toolUses, countTool, find?_countUse fun t : Tool σ => t.name]
  by_cases hname : name = name'
  · subst hname
    simp [toolUses, he]
  · simp [toolUses, hname]

/-- and so has the function that is. -/
theorem functionUses_countFunction (h : r.findFunction? role = some f) :
    (r.countFunction role).functionUses role' =
      r.functionUses role' + if role = role' then 1 else 0 := by
  obtain ⟨e, he, -⟩ := Option.map_eq_some_iff.1 h
  rw [functionUses, countFunction, find?_countUse fun f : ModelFunction σ => f.role]
  by_cases hrole : role = role'
  · subst hrole
    simp [functionUses, he]
  · simp [functionUses, hrole]

end Kept

/-- What a look-up leaves behind: one use more of what was found, and of nothing else. -/
structure Counted (found : Option (Target σ)) (r r' : Registry σ) : Prop where
  toolUses (name : String) :
    r'.toolUses name = r.toolUses name + if found.any (·.isTool name) then 1 else 0
  functionUses (role : Role) :
    r'.functionUses role = r.functionUses role + if found.any (·.isFunction role) then 1 else 0
  unchanged : found = none → r' = r

/-- A registry agrees with a record: it keeps what was registered last, and has counted how
often that was found. -/
structure Tells (log : List (Exchange σ)) (r : Registry σ) : Prop where
  tool (name : String) : r.tool? name = lastTool? log (· == name)
  function (role : Role) : r.findFunction? role = lastFunction? log role
  toolUses (name : String) : r.toolUses name = timesToolFound log name
  functionUses (role : Role) : r.functionUses role = timesFunctionFound log role

section Kept

variable {r r' : Registry σ} {log : List (Exchange σ)} {found : Option (Target σ)}

/-- **A look-up counts one use of what it found,** and no other. -/
theorem Counts.counted (h : Counts r found r') : Counted found r r' := by
  cases h with
  | nothing => exact ⟨fun _ => rfl, fun _ => rfl, fun _ => rfl⟩
  | @tool t h =>
    refine ⟨fun name => ?_, fun _ => rfl, fun hnone => by simp at hnone⟩
    rw [toolUses_countTool name h]
    simp [Target.isTool]
  | @function f h =>
    refine ⟨fun _ => rfl, fun role => ?_, fun hnone => by simp at hnone⟩
    rw [functionUses_countFunction role h]
    simp [Target.isFunction]

/-- A tool that was found is registered under its name, -/
theorem Counts.tool?_self {t : Tool σ} (h : Counts r (some (.tool t)) r') :
    r.tool? t.name = some t := by
  cases h with
  | tool h => exact h

/-- and a function under its role. -/
theorem Counts.findFunction?_self {f : ModelFunction σ} (h : Counts r (some (.function f)) r') :
    r.findFunction? f.role = some f := by
  cases h with
  | function h => exact h

/-- Counting leaves everything where it is. -/
theorem Counts.tool? (h : Counts r found r') (name : String) : r'.tool? name = r.tool? name := by
  cases h with
  | nothing => rfl
  | tool => exact tool?_countTool r _ name
  | function => rfl

theorem Counts.findFunction? (h : Counts r found r') (role : Role) :
    r'.findFunction? role = r.findFunction? role := by
  cases h with
  | nothing => rfl
  | tool => rfl
  | function => exact findFunction?_countFunction r _ role

/-- An empty registry agrees with an empty record. -/
theorem tells_nil : Tells ([] : List (Exchange σ)) {} :=
  ⟨fun _ => rfl, fun _ => rfl, fun _ => rfl, fun _ => rfl⟩

/-- **A request preserves that a registry agrees with the record.** -/
theorem Tells.perform (h : Tells log r) (q : Request σ) :
    Tells (log ++ [⟨q, (r.perform q).1⟩]) (r.perform q).2 := by
  have heffect := effect_perform r q
  generalize (r.perform q).1 = a, (r.perform q).2 = r' at heffect
  cases heffect with
  | registerTool t =>
    exact {
      tool name := by
        rw [tool?_registerTool, lastTool?_concat, h.tool]
        by_cases ht : t.name = name <;> simp [Request.tool?, Option.filter, ht]
      function role := by
        rw [lastFunction?_concat, ← h.function]
        rfl
      toolUses name := by
        rw [toolUses_registerTool, timesToolFound_concat, h.toolUses]
        by_cases ht : t.name = name <;> simp [Request.tool?, Answer.found?, ht]
      functionUses role := by
        rw [timesFunctionFound_concat, ← h.functionUses]
        rfl }
  | registerFunction f =>
    exact {
      tool name := by
        rw [lastTool?_concat, ← h.tool]
        rfl
      function role := by
        rw [findFunction?_registerFunction, lastFunction?_concat, h.function]
        by_cases hf : f.role = role <;> simp [Request.function?, Option.filter, hf]
      toolUses name := by
        rw [timesToolFound_concat, ← h.toolUses]
        rfl
      functionUses role := by
        rw [functionUses_registerFunction, timesFunctionFound_concat, h.functionUses]
        by_cases hf : f.role = role <;> simp [Request.function?, Answer.found?, hf] }
  | lookup htool hfunction hcounts =>
    exact {
      tool name := by
        rw [hcounts.tool?, lastTool?_concat, h.tool, htool]
        rfl
      function role := by
        rw [hcounts.findFunction?, lastFunction?_concat, h.function, hfunction]
        rfl
      toolUses name := by
        rw [hcounts.counted.toolUses, timesToolFound_concat, h.toolUses, htool]
        rfl
      functionUses role := by
        rw [hcounts.counted.functionUses, timesFunctionFound_concat, h.functionUses, hfunction]
        rfl }

/-- **A registry agrees with the record of all that it was asked.** -/
theorem tells_after (qs : List (Request σ)) : Tells (history qs) (after qs) := by
  induction qs using List.reverseRecOn with
  | nil => exact tells_nil
  | append_singleton qs q ih =>
    rw [history_concat, after_concat]
    exact ih.perform q

/-! ### What is found -/

/-- A name is looked for as it stands, and then in any case. -/
theorem findTool?_eq (r : Registry σ) (name : String) :
    r.findTool? name = (r.tool? name).or
      ((r.tools.map (·.item)).find? (Text.equalIgnoringCase ·.name name)) := by
  rw [Registry.findTool?, Option.map_or, tool?, ← map_item_find?]

/-- **A name that is clear means the tool registered last.** -/
theorem Tells.findTool? (h : Tells log r) {name : String} (hclear : Unambiguous log name) :
    r.findTool? name = namedTool? log name := by
  rw [findTool?_eq, namedTool?, h.tool]
  rcases hclear with ⟨t, ht, hname⟩ | hone
  · have hsome : (lastTool? log (· == name)).isSome = true := by
      rw [lastTool?, List.find?_isSome]
      exact ⟨t, List.mem_reverse.2 ht, by simpa using hname⟩
    rw [Option.or_of_isSome hsome, Option.or_of_isSome hsome]
  · have hkeys : ∀ k : String, (r.tools.map (·.item)).find? (·.name == k) =
        (toolsRegistered log).reverse.find? (·.name == k) := fun k => by
      rw [← tool?_eq, h.tool, lastTool?]
    have hcase := find?_eq_of_keys (fun t : Tool σ => t.name) hkeys
      (p := (Text.equalIgnoringCase · name)) fun t ht u hu =>
        hone t (List.mem_reverse.1 ht) u (List.mem_reverse.1 hu)
    rw [hcase]
    rfl

/-- **What is found is what is meant,** as far as the name looked for is clear. -/
theorem Tells.found?_perform (h : Tells log r) {q : Request σ}
    (hclear : ∀ name, q.name? = some name → Unambiguous log name) :
    (r.perform q).1.found? = meant? log q := by
  have hfunction : r.findFunction? = lastFunction? log := funext h.function
  cases q with
  | lookupTool name =>
    have hfind := h.findTool? (hclear name rfl)
    rw [meant?, ← hfind, ← lookupTool_fst]
    rfl
  | lookupFunction role =>
    rw [meant?, ← hfunction, ← lookupFunction_fst]
    rfl
  | resolve name =>
    have hfound : (r.perform (.resolve name)).1.found? = (r.resolve name).1 := rfl
    rw [hfound, resolve_fst, meant?, hfunction]
    cases htrim : Text.trimmed? name with
    | none => rfl
    | some trimmed => rw [Option.bind_some, Option.bind_some, h.findTool? (hclear trimmed htrim)]
  | _ => rfl

/-- Only a look-up finds anything. -/
theorem counts_of_found {q : Request σ} {target : Target σ}
    (hfound : (r.perform q).1.found? = some target) :
    Counts r (some target) (r.perform q).2 := by
  have heffect := effect_perform r q
  generalize (r.perform q).1 = a, (r.perform q).2 = r' at heffect hfound ⊢
  cases heffect with
  | registerTool => simp [Answer.found?] at hfound
  | registerFunction => simp [Answer.found?] at hfound
  | lookup _ _ hcounts => exact hfound ▸ hcounts

/-- What is found is what was registered last under its own name. -/
theorem Tells.lastTool?_of_found (h : Tells log r) {q : Request σ} {t : Tool σ}
    (hfound : (r.perform q).1.found? = some (.tool t)) :
    lastTool? log (· == t.name) = some t := by
  rw [← h.tool]
  exact (counts_of_found hfound).tool?_self

/-- What is found is what was registered last for its own role. -/
theorem Tells.lastFunction?_of_found (h : Tells log r) {q : Request σ} {f : ModelFunction σ}
    (hfound : (r.perform q).1.found? = some (.function f)) :
    lastFunction? log f.role = some f := by
  rw [← h.function]
  exact (counts_of_found hfound).findFunction?_self

/-- A request that registers nothing counts one use of what it found, if it found anything. -/
theorem counted_perform {q : Request σ} (htool : q.tool? = none) (hfunction : q.function? = none) :
    Counted (r.perform q).1.found? r (r.perform q).2 := by
  have heffect := effect_perform r q
  generalize (r.perform q).1 = a, (r.perform q).2 = r' at heffect ⊢
  cases heffect with
  | registerTool => simp [Request.tool?] at htool
  | registerFunction => simp [Request.function?] at hfunction
  | lookup _ _ hcounts => exact hcounts.counted

/-- A count as it is told is the count itself, as far as a word can hold it. -/
theorem toNat_ofUses {uses times : Nat} (h : uses = times) :
    (UInt64.ofNat uses).toNat = times % UInt64.size := by
  rw [h]
  exact UInt64.toNat_ofNat'

/-- **A registry and all that it was ever asked.**  Whatever was asked so far, what is looked up
next under a clear name is what the record says the name means; what is found is what was
registered last under its own name or role; every count is how often that was found since, and
is told modulo the size of a word; and a request that registers nothing adds one to the count of
what it found, and to no other, and leaves the registry as it is if it found nothing. -/
theorem after_tells (qs : List (Request σ)) :
    (∀ q, (∀ name, q.name? = some name → Unambiguous (history qs) name) →
      ((after qs).perform q).1.found? = meant? (history qs) q) ∧
    (∀ q t, ((after qs).perform q).1.found? = some (.tool t) →
      lastTool? (history qs) (· == t.name) = some t) ∧
    (∀ q f, ((after qs).perform q).1.found? = some (.function f) →
      lastFunction? (history qs) f.role = some f) ∧
    (∀ name, (after qs).toolUses name = timesToolFound (history qs) name) ∧
    (∀ role, (after qs).functionUses role = timesFunctionFound (history qs) role) ∧
    (∀ name, ((after qs).toolUsage name).toNat =
      timesToolFound (history qs) name % UInt64.size) ∧
    (∀ role, ((after qs).functionUsage role).toNat =
      timesFunctionFound (history qs) role % UInt64.size) ∧
    ∀ q, q.tool? = none → q.function? = none →
      Counted ((after qs).perform q).1.found? (after qs) ((after qs).perform q).2 := by
  have htells := tells_after qs
  exact ⟨fun q hclear => htells.found?_perform hclear, fun q t => htells.lastTool?_of_found,
    fun q f => htells.lastFunction?_of_found, htells.toolUses, htells.functionUses,
    fun name => toNat_ofUses (htells.toolUses name),
    fun role => toNat_ofUses (htells.functionUses role),
    fun q htool hfunction => counted_perform htool hfunction⟩

end Kept

/-! ### A registry at work -/

section Library

/-- A tool that does nothing. -/
def idle (name description : String) : Tool Unit where
  name := name
  contract := { description := description }
  run _ w := (.answered .empty, w)

/-- A function that says nothing. -/
def mute (role : Role) : ModelFunction Unit where
  role := role
  streams := false
  execute _ w := (.answered (.failure "mute"), w)
  openStream _ w := (.answered .done, w)

/-- A tool that is found once and then replaced, and look-ups in other case, in vain, and of a
role. -/
def errands : List (Request Unit) :=
  [.registerTool (idle "ReadFile" "old"), .registerFunction (mute .summarizer),
    .resolve "ReadFile", .registerTool (idle "ReadFile" "new"), .resolve " readfile ",
    .lookupTool "WriteFile", .listCatalog, .resolve "Summarizer", .lookupTool "readFILE"]

/-- The new tool is what another spelling finds; it was found twice since it replaced the old
one. -/
theorem after_tells_errands :
    (∀ name, (Request.resolve "READFILE" : Request Unit).name? = some name →
      Unambiguous (history errands) name) ∧
    (((after errands).perform (.resolve "READFILE")).1.found?.bind Target.tool?).map
      (·.contract.description) = some "new" ∧
    (after errands).toolUses "ReadFile" = 2 ∧ (after errands).functionUses .summarizer = 1 ∧
    ((after errands).perform (.resolve "READFILE")).2.toolUses "ReadFile" = 3 := by
  have hclear : ∀ name, (Request.resolve "READFILE" : Request Unit).name? = some name →
      Unambiguous (history errands) name := by
    intro name hname
    have hread : name = "READFILE" := by
      have htrim : (Request.resolve "READFILE" : Request Unit).name? = some "READFILE" := by
        decide +kernel
      exact (Option.some.inj (hname.symm.trans htrim))
    subst hread
    refine .inr ?_
    decide +kernel
  obtain ⟨hfound, -, -, htool, hfunction, -, -, hcounts⟩ := after_tells errands
  have hmeant := hfound (.resolve "READFILE") hclear
  have hcounted := (hcounts (.resolve "READFILE") rfl rfl).toolUses "ReadFile"
  refine ⟨hclear, ?_, ?_, ?_, ?_⟩
  · rw [hmeant]
    decide +kernel
  · rw [htool]
    decide +kernel
  · rw [hfunction]
    decide +kernel
  · rw [hcounted, hmeant, htool]
    decide +kernel

end Library
end Registry
end Errand
