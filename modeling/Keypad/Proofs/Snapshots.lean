/-
# `Keypad.Proofs.Snapshots` — the calculator that never replays

An engine keeps what was entered and computes everything anew for each question.
Another calculator would keep what it has computed: a stack of states, one for
every entry that had an effect, on which an entry puts the state it leads to and
undoing takes one off (`Snapshots`).

To look at, the two are one.  `trace_eq_snapshots` says so for every session at
the keypad, of entries, of undoing and of clearing: after each of them both give
the same evaluation and the same answer to whether a key waits, and undoing
returns the same.

The invariant is `Stacked`: the states on the stack are those at the ends of the
beginnings of the engine's program.  It needs the bindings to be what they were
when the states were computed; clearing is what changes them here, and clearing
empties the stack.
-/
import Keypad.Proofs.Session

namespace Keypad

/-! ## What is seen -/

/-- What is seen after a call: where the calculation stands, whether a key waits,
and what the call returned. -/
structure Observation where
  evaluation : Evaluation
  isPending : Bool
  returned : Option Evaluation
  deriving DecidableEq

namespace Engine

def observe (e : Engine) (returned : Option Evaluation) : Drawing Observation := do
  return ⟨← e.evaluate, ← e.isPending, returned⟩

def trace (e : Engine) : List Call → Drawing (List Observation)
  | [] => pure []
  | call :: calls => do
    let outcome ← e.call call
    let seen ← outcome.engine.observe outcome.result
    return seen :: (← outcome.engine.trace calls)

end Engine

/-! ## Snapshots -/

/-- A calculator that keeps the states it went through, the latest first. -/
structure Snapshots where
  format : NumberFormat
  bindings : Bindings
  states : List Replay

namespace Snapshots

def state (s : Snapshots) : Replay := s.states.headD .blank

/-- The calculator ready for a press: emptied, if an operand comes while no key
waits. -/
def makeRoom (s : Snapshots) (token : Token) : Snapshots :=
  if token.kind? = some .operand ∧ s.state.isPending = false then { s with states := [] } else s

theorem makeRoom_eq_self (s : Snapshots) {token : Token} (h : token.kind? ≠ some .operand) :
    s.makeRoom token = s := if_neg fun begins => h begins.1

/-- A press acts once on the latest state, and leaves no trace if it has no
effect. -/
def enter (s : Snapshots) (token : Token) : Snapshots :=
  let room := s.makeRoom token
  match (token.effect? s.format s.bindings).bind room.state.enter with
  | some next => { room with states := next :: room.states }
  | none => room

theorem enter_of_some (s : Snapshots) {token : Token} {entry : Entry} {next : Replay}
    (known : token.effect? s.format s.bindings = some entry)
    (effect : (s.makeRoom token).state.enter entry = some next) :
    s.enter token = { s.makeRoom token with states := next :: (s.makeRoom token).states } := by
  simp only [enter, known, Option.bind_some, effect]

theorem enter_of_none (s : Snapshots) {token : Token}
    (none : (token.effect? s.format s.bindings).bind (s.makeRoom token).state.enter = none) :
    s.enter token = s.makeRoom token := by
  simp only [enter, none]

/-- Undoing takes one state off, if there is one. -/
def undo (s : Snapshots) : Option Evaluation × Snapshots :=
  match s.states with
  | [] => (none, s)
  | _ :: earlier =>
    (some (earlier.headD .blank).evaluation, { s with states := earlier })

def clear (s : Snapshots) : Snapshots := { s with states := [], bindings := ∅ }

/-- What a call returns, and the calculator after it.  It knows the calls that are
made at the keypad and passes over all others. -/
def call (s : Snapshots) : Call → Option Evaluation × Snapshots
  | .enter token => (none, s.enter token)
  | .undo => s.undo
  | .clear => (none, s.clear)
  | .setVariable _ _ | .evaluateUsing _ | .evaluateWith _ | .plot _ _ | .setFormat _ => (none, s)

def observe (s : Snapshots) (returned : Option Evaluation) : Observation :=
  ⟨s.state.evaluation, s.state.isPending, returned⟩

def trace (s : Snapshots) : List Call → List Observation
  | [] => []
  | call :: calls =>
    (s.call call).2.observe (s.call call).1 :: (s.call call).2.trace calls

/-! ## The two side by side -/

/-- The states are those at the ends of the beginnings of a program. -/
inductive Stacked (format : NumberFormat) (bindings : Bindings) : List Token → List Replay → Prop
  | nil : Stacked format bindings [] []
  | append {program : List Token} {states : List Replay} (token : Token) :
      Stacked format bindings program states →
      Stacked format bindings (program ++ [token])
        (.ofProgram format bindings (program ++ [token]) :: states)

theorem Stacked.headD_eq {format : NumberFormat} {bindings : Bindings} {program : List Token}
    {states : List Replay} (h : Stacked format bindings program states) :
    states.headD .blank = .ofProgram format bindings program := by
  cases h <;> rfl

theorem Stacked.eq_nil_or_append {format : NumberFormat} {bindings : Bindings}
    {program : List Token} {states : List Replay} (h : Stacked format bindings program states) :
    (program = [] ∧ states = []) ∨
    ∃ p token earlier, program = p ++ [token] ∧
      states = .ofProgram format bindings (p ++ [token]) :: earlier ∧
      Stacked format bindings p earlier := by
  cases h with
  | nil => exact .inl ⟨rfl, rfl⟩
  | append token below => exact .inr ⟨_, token, _, rfl, rfl, below⟩

/-- An engine and a calculator with snapshots stand at the same point. -/
structure Matches (e : Engine) (s : Snapshots) : Prop where
  certain : .ran ∉ e.program
  format : s.format = e.format
  bindings : s.bindings = e.bindings
  stacked : Stacked e.format e.bindings e.program s.states

namespace Matches

variable {e : Engine} {s : Snapshots}

theorem effect?_eq (h : Matches e s) (token : Token) :
    token.effect? s.format s.bindings = token.effect? e.format e.bindings := by
  rw [h.format, h.bindings]

theorem state_eq (h : Matches e s) : s.state = .ofProgram e.format e.bindings e.program :=
  h.stacked.headD_eq

theorem isPending_eq (h : Matches e s) :
    s.state.isPending = (Phase.ofProgram e.program).isPending := by
  rw [h.state_eq, ← Replay.phase_ofProgram e.format e.bindings h.certain, Replay.isPending_phase]

theorem observe_eq (h : Matches e s) (returned : Option Evaluation) :
    e.observe returned = pure (s.observe returned) := by
  rw [Engine.observe, Engine.evaluate, Engine.evaluateWith_eq_pure h.certain,
    Engine.isPending_eq_pure h.certain, observe, h.isPending_eq, h.state_eq]
  rfl

/-- Both sides make room for an operand in the same way. -/
theorem makeRoom (h : Matches e s) {token : Token} (operand : token.kind? = some .operand) :
    Matches (e.withProgram (kept e.program)) (s.makeRoom token) := by
  rw [Snapshots.makeRoom, kept, ← h.isPending_eq]
  cases waits : s.state.isPending with
  | true =>
      rw [if_pos rfl, if_neg (fun begins => Bool.noConfusion begins.2)]
      exact h
  | false =>
      rw [if_neg Bool.false_ne_true, if_pos ⟨operand, rfl⟩]
      exact ⟨List.not_mem_nil, h.format, h.bindings, .nil⟩

/-- A press with an effect is recorded, and leaves a snapshot. -/
theorem push (h : Matches e s) {token : Token} (certain : token ≠ .ran) {entry : Entry}
    (known : token.effect? e.format e.bindings = some entry) {next : Replay}
    (effect : s.state.enter entry = some next) :
    Matches (e.withProgram (e.program ++ [token])) { s with states := next :: s.states } where
  certain := fun mem => (List.mem_append.mp mem).elim h.certain
    fun same => certain (List.mem_singleton.mp same).symm
  format := h.format
  bindings := h.bindings
  stacked := by
    have reached : .ofProgram e.format e.bindings (e.program ++ [token]) = next := by
      rw [Replay.ofProgram_append_singleton, Replay.press_of_entry known, ← h.state_eq,
        Replay.step, effect]
      rfl
    exact reached ▸ h.stacked.append token

theorem enter_operand (h : Matches e s) {token : Token} (certain : token ≠ .ran) {entry : Entry}
    (known : token.effect? e.format e.bindings = some entry) (operand : entry.kind = .operand) :
    Matches (e.withProgram (record e.program token)) (s.enter token) := by
  have kind : token.kind? = some .operand := operand ▸ Token.kind?_of_effect? certain known
  have known' : token.effect? s.format s.bindings = some entry := (h.effect?_eq token).trans known
  cases entry with
  | operand x text =>
      rw [record_operand kind, s.enter_of_some known' rfl]
      exact (h.makeRoom kind).push certain known rfl
  | unary _ | binary _ | equals => cases operand

theorem enter_other (h : Matches e s) {token : Token} (certain : token ≠ .ran) {entry : Entry}
    (known : token.effect? e.format e.bindings = some entry) (other : entry.kind ≠ .operand) :
    Matches (e.withProgram (record e.program token)) (s.enter token) := by
  have kind : token.kind? = some entry.kind := Token.kind?_of_effect? certain known
  have known' : token.effect? s.format s.bindings = some entry := (h.effect?_eq token).trans known
  have room : s.makeRoom token = s :=
    s.makeRoom_eq_self fun operand => other (Option.some.inj (kind.symm.trans operand))
  -- The trial of the engine is the step of the calculator.
  have trial : ((Phase.ofProgram e.program).next entry.kind).isSome
      = (s.state.enter entry).isSome := by
    rw [Replay.isSome_enter, h.state_eq, Replay.phase_ofProgram e.format e.bindings h.certain]
  rw [record_of_next kind other, trial]
  cases effect : s.state.enter entry with
  | none =>
      rw [s.enter_of_none (by rw [known', room, Option.bind_some, effect]), room]
      exact h
  | some next =>
      rw [s.enter_of_some known' (room.symm ▸ effect), room]
      exact h.push certain known effect

theorem enter (h : Matches e s) {token : Token} (certain : token ≠ .ran) :
    Matches (e.withProgram (record e.program token)) (s.enter token) := by
  cases known : token.effect? e.format e.bindings with
  | none =>
      have kind : token.kind? = none := by
        rw [← Token.map_kind_effect? e.format e.bindings certain, known]
        rfl
      have room : s.makeRoom token = s := s.makeRoom_eq_self (by rw [kind]; nofun)
      rw [record, kind, s.enter_of_none (by rw [h.effect?_eq, known]; rfl), room]
      exact h
  | some entry =>
      by_cases operand : entry.kind = .operand
      · exact h.enter_operand certain known operand
      · exact h.enter_other certain known operand

theorem undo (h : Matches e s) :
    ∃ outcome : Outcome (Option Evaluation), e.undo = pure outcome ∧
      outcome.result = s.undo.1 ∧ Matches outcome.engine s.undo.2 := by
  rcases h.stacked.eq_nil_or_append with
    ⟨program, states⟩ | ⟨p, token, earlier, program, states, below⟩
  · rw [Snapshots.undo, states]
    exact ⟨_, Engine.undo_of_nil program, rfl, h⟩
  · have certain : .ran ∉ p := fun mem =>
      h.certain (program ▸ List.mem_append_left [token] mem)
    rw [Snapshots.undo, states]
    exact ⟨_, Engine.undo_eq_pure program certain,
      congrArg (fun r => some (Replay.evaluation r)) below.headD_eq.symm,
      certain, h.format, h.bindings, below⟩

theorem clear (h : Matches e s) : Matches e.clear s.clear :=
  ⟨List.not_mem_nil, h.format, rfl, .nil⟩

theorem call (h : Matches e s) {c : Call} (keyed : c.Keyed) (drawless : c ≠ .enter .ran) :
    ∃ outcome : Outcome (Option Evaluation), e.call c = pure outcome ∧
      outcome.result = (s.call c).1 ∧ Matches outcome.engine (s.call c).2 := by
  cases c with
  | enter token =>
      have other : token ≠ .ran := fun same => drawless (congrArg Call.enter same)
      rw [Engine.call, Engine.entered_eq_pure h.certain other]
      exact ⟨_, rfl, rfl, h.enter other⟩
  | undo => exact h.undo
  | clear => exact ⟨_, rfl, rfl, h.clear⟩
  | setVariable _ _ | evaluateUsing _ | evaluateWith _ | plot _ _ | setFormat _ => cases keyed

theorem trace_eq {calls : List Call} (keyed : ∀ c ∈ calls, c.Keyed) :
    ∀ {e : Engine} {s : Snapshots}, Matches e s → .enter .ran ∉ calls →
      e.trace calls = pure (s.trace calls) := by
  induction calls with
  | nil => intro e s _ _; rfl
  | cons c calls ih =>
      intro e s h certain
      rw [List.mem_cons, not_or] at certain
      obtain ⟨here, later⟩ := List.forall_mem_cons.mp keyed
      obtain ⟨outcome, called, returned, next⟩ := h.call here (Ne.symm certain.1)
      rw [Engine.trace, called, pure_bind, returned, next.observe_eq, pure_bind,
        ih later next certain.2]
      rfl

end Matches

end Snapshots

/-- Whatever is entered, undone and cleared: the engine, which replays, is seen to
do what the calculator with snapshots does, which never replays. -/
theorem trace_eq_snapshots (format : NumberFormat) (bindings : Bindings) {calls : List Call}
    (keyed : ∀ c ∈ calls, c.Keyed) (certain : .enter .ran ∉ calls) :
    (Engine.fresh bindings format).trace calls
      = pure ((Snapshots.mk format bindings []).trace calls) :=
  Snapshots.Matches.trace_eq keyed ⟨List.not_mem_nil, rfl, rfl, .nil⟩ certain

/-- After `7 +`, a key that has nothing to act on, and more undoing than there is
to undo. -/
theorem trace_eq_snapshots_undone :
    ∃ calls : List Call,
      calls = [.enter (.operand (.value 7)), .enter (.operation "+"), .enter (.operation "√"),
        .undo, .undo, .undo] ∧
      (∀ c ∈ calls, c.Keyed) ∧ .enter .ran ∉ calls ∧
      (Engine.fresh ∅ FixedPoint.standard.toNumberFormat).trace calls = pure
        [⟨⟨some 7, false, "7"⟩, false, none⟩, ⟨⟨some 7, true, "7+"⟩, true, none⟩,
          ⟨⟨some 7, true, "7+"⟩, true, none⟩,
          ⟨⟨some 7, false, "7"⟩, false, some ⟨some 7, false, "7"⟩⟩,
          ⟨⟨none, false, ""⟩, false, some ⟨none, false, ""⟩⟩,
          ⟨⟨none, false, ""⟩, false, none⟩] := by
  let calls : List Call := [.enter (.operand (.value 7)), .enter (.operation "+"),
    .enter (.operation "√"), .undo, .undo, .undo]
  have keyed : ∀ c ∈ calls, c.Keyed := by simp [calls, Call.Keyed]
  have certain : .enter .ran ∉ calls := by simp [calls, Token.ran, Key.symbol]
  refine ⟨calls, rfl, keyed, certain, ?_⟩
  exact (trace_eq_snapshots FixedPoint.standard.toNumberFormat ∅ keyed certain).trans
    (congrArg pure (by decide +kernel))

end Keypad
