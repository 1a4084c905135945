/-
# `Keypad.Proofs.Session` — everything that can be done to an engine

Between two presses an engine may be asked where it stands, drawn as a curve,
given other bindings or another format.  A `Call` is one of all these things, and
a session is a row of calls.  What is said of some calls only, such as those that
are made at the keypad (`Call.Keyed`), is said of sessions in which there are no
others.  An engine is `Reached` if some session leads to it from a new one.

The numbers that `Ran` draws on the way matter to nothing that stays: what a
press leaves and what it reports follow from the program alone
(`Engine.entered_apply`), and a session leads to the same engine whatever was
drawn (`Engine.callAll_apply`).  Where `Ran` is not pressed, nothing is drawn in
any call (`Engine.call_eq_pure`).
-/
import Keypad.Curve
import Keypad.Proofs.Chance

namespace Keypad

/-! ## What a press reports -/

/-- What is reported when room is made for an operand. -/
def roomReport (program : List Token) : List Event :=
  if (Phase.ofProgram program).isPending || program.isEmpty then []
  else [.startedOver program.length]

/-- What is reported when a key is pressed that enters no operand. -/
def trialReport (program : List Token) (symbol : String) (kind : Kind) : List Event :=
  if ((Phase.ofProgram program).next kind).isSome then [.appendedOperation symbol]
  else [.missingOperand symbol]

/-- What is reported of a press. -/
def report (program : List Token) : Token → List Event
  | .operand literal => roomReport program ++ [.appendedOperand literal]
  | .operation symbol => match (Token.operation symbol).kind? with
    | none => [.unknownKey symbol]
    | some .operand => roomReport program ++ [.appendedOperation symbol]
    | some kind => trialReport program symbol kind

/-- Whether a press is recorded. -/
def accepts (program : List Token) (token : Token) : Bool :=
  (token.kind?.bind (Phase.ofProgram program).next).isSome

def Event.appends : Event → Bool
  | .appendedOperand _ | .appendedOperation _ => true
  | _ => false

theorem report_symbol_operand (program : List Token) {key : Key} (h : key.kind = .operand) :
    report program (.operation key.symbol)
      = roomReport program ++ [.appendedOperation key.symbol] := by
  simp only [report, Token.kind?_symbol, h]

theorem report_symbol_other (program : List Token) {key : Key} (h : key.kind ≠ .operand) :
    report program (.operation key.symbol) = trialReport program key.symbol key.kind := by
  rw [report, Token.kind?_symbol]
  cases kind : key.kind with
  | operand => exact absurd kind h
  | unary | binary | equals => rfl

theorem any_appends_roomReport (program : List Token) :
    (roomReport program).any Event.appends = false := by
  rw [roomReport]
  split <;> rfl

theorem any_appends_trialReport (program : List Token) (symbol : String) (kind : Kind) :
    (trialReport program symbol kind).any Event.appends
      = ((Phase.ofProgram program).next kind).isSome := by
  rw [trialReport]
  cases ((Phase.ofProgram program).next kind).isSome <;> rfl

/-- A press that is recorded is reported as appended, and no other is. -/
theorem any_appends_report (program : List Token) :
    ∀ token : Token, (report program token).any Event.appends = accepts program token
  | .operand literal => by
      have always := Phase.isSome_next_operand (Phase.ofProgram program)
      rw [report, List.any_append, any_appends_roomReport]
      exact always.symm
  | .operation symbol => by
      cases known : Key.ofSymbol? symbol with
      | none => simp [report, accepts, Token.kind?_unknown known, Event.appends]
      | some key =>
          obtain rfl := Key.ofSymbol?_eq_some.mp known
          rw [accepts, Token.kind?_symbol, Option.bind_some]
          by_cases operand : key.kind = .operand
          · rw [report_symbol_operand program operand, List.any_append, any_appends_roomReport,
              operand, Phase.isSome_next_operand]
            rfl
          · rw [report_symbol_other program operand, any_appends_trialReport]

namespace Engine

/-- A press, with what it reports. -/
def entered (e : Engine) : Token → Drawing (Outcome Unit)
  | .operand literal => e.enterLiteral literal
  | .operation symbol => e.press symbol

theorem enter_eq_entered (e : Engine) (token : Token) :
    e.enter token = do return (← e.entered token).engine := by
  cases token <;> rfl

theorem makeRoom_outcome (e : Engine) (draws : Draws) :
    (e.makeRoom draws).1 = ⟨(), e.withProgram (kept e.program), roomReport e.program⟩ := by
  have made : (e.makeRoom draws).1
      = if (e.isPending draws).1 then ⟨(), e, []⟩ else e.startOver := rfl
  obtain ⟨program, bindings, format⟩ := e
  rw [made, isPending_apply, kept, startOver, roomReport]
  cases (Phase.ofProgram program).isPending <;> cases program <;> rfl

/-- What is reported of the trial of a key, made on an engine in which there is
room. -/
theorem trial_events (e : Engine) (key : Key) (draws draws' : Draws)
    (events events' : List Event) :
    (if ((e.replay draws).1.enter (key.entry draws').1).isSome then
        (⟨(), e.append (.operation key.symbol), events⟩ : Outcome Unit)
      else ⟨(), e, events'⟩).events
    = if ((Phase.ofProgram e.program).next key.kind).isSome then events else events' := by
  have phase : (e.replay draws).1.phase = Phase.ofProgram e.program :=
    e.phase_replayWith e.bindings draws
  rw [Replay.isSome_enter, Key.kind_entry, phase]
  split <;> rfl

theorem events_pressKey (e : Engine) (key : Key) (draws : Draws) :
    (e.pressKey key draws).1.events = report e.program (.operation key.symbol) := by
  unfold pressKey
  cases enters : entersOperand key with
  | true =>
      have operand := (entersOperand_iff key).mp enters
      refine (trial_events (e.makeRoom draws).1.engine key (e.makeRoom draws).2 _ _ _).trans ?_
      rw [report_symbol_operand e.program operand, operand,
        if_pos (Phase.isSome_next_operand _)]
      exact congrArg (·.events ++ [.appendedOperation key.symbol]) (e.makeRoom_outcome draws)
  | false =>
      have other : key.kind ≠ .operand :=
        fun operand => Bool.noConfusion (enters.symm.trans ((entersOperand_iff key).mpr operand))
      rw [report_symbol_other e.program other]
      exact trial_events e key draws (e.replay draws).2 _ _

/-- What a press leaves and what it reports are a matter of the program alone. -/
theorem entered_apply (e : Engine) (draws : Draws) (token : Token) :
    (e.entered token draws).1
      = ⟨(), e.withProgram (record e.program token), report e.program token⟩ := by
  have left : (e.entered token draws).1.engine = e.withProgram (record e.program token) := by
    have entered := e.enter_apply draws token
    rw [enter_eq_entered] at entered
    exact entered
  have reported : (e.entered token draws).1.events = report e.program token := by
    cases token with
    | operand literal =>
        show (e.makeRoom draws).1.events ++ [.appendedOperand literal] = _
        rw [makeRoom_outcome]
        rfl
    | operation symbol =>
        show (e.press symbol draws).1.events = _
        rw [press]
        cases known : Key.ofSymbol? symbol with
        | none =>
            rw [report, Token.kind?_unknown known]
            rfl
        | some key =>
            rw [← Key.ofSymbol?_eq_some.mp known]
            exact e.events_pressKey key draws
  rw [← left, ← reported]

theorem entered_eq_pure {e : Engine} (certain : .ran ∉ e.program) {token : Token}
    (drawless : token ≠ .ran) :
    e.entered token
      = pure ⟨(), e.withProgram (record e.program token), report e.program token⟩ := by
  funext draws
  have supply := congrArg Prod.snd (congrFun (enter_eq_pure certain drawless) draws)
  rw [enter_eq_entered] at supply
  exact Prod.ext (e.entered_apply draws token) supply

end Engine

/-! ## Calls -/

/-- What can be done to an engine. -/
inductive Call where
  | enter (token : Token)
  | undo
  | clear
  | setVariable (name : String) (x : Float)
  | evaluateUsing (bindings : Bindings)
  | evaluateWith (bindings : Bindings)
  | plot (name : String) (xs : List Float)
  | setFormat (format : NumberFormat)

/-- A press, or taking back one entry or all of them. -/
def Call.Keyed : Call → Prop
  | .enter _ | .undo | .clear => True
  | .setVariable _ _ | .evaluateUsing _ | .evaluateWith _ | .plot _ _ | .setFormat _ => False

/-- What a call makes of an engine. -/
def Call.engine (e : Engine) : Call → Engine
  | .enter token => e.withProgram (record e.program token)
  | .undo => e.withProgram e.program.dropLast
  | .clear => e.clear
  | .setVariable name x => e.setVariable name x
  | .evaluateUsing bindings => { e with bindings := bindings }
  | .evaluateWith _ | .plot _ _ => e
  | .setFormat format => e.setFormat format

namespace Engine

/-- A call, with the evaluation that it returns, if it returns one, and with what it
reports. -/
def call (e : Engine) : Call → Drawing (Outcome (Option Evaluation))
  | .enter token => do
    let outcome ← e.entered token
    return ⟨none, outcome.engine, outcome.events⟩
  | .undo => e.undo
  | .clear => pure ⟨none, e.clear, []⟩
  | .setVariable name x => pure ⟨none, e.setVariable name x, []⟩
  | .evaluateUsing bindings => do
    let outcome ← e.evaluateUsing bindings
    return ⟨some outcome.result, outcome.engine, outcome.events⟩
  | .evaluateWith bindings => do
    return ⟨some (← e.evaluateWith bindings), e, []⟩
  | .plot name xs => do
    return ⟨none, e, plotEvents (← e.plot name xs)⟩
  | .setFormat format => pure ⟨none, e.setFormat format, []⟩

/-- A row of calls, with all that they report. -/
def session (e : Engine) : List Call → Drawing (Outcome Unit)
  | [] => pure ⟨(), e, []⟩
  | call :: calls => do
    let outcome ← e.call call
    let rest ← outcome.engine.session calls
    return ⟨(), rest.engine, outcome.events ++ rest.events⟩

/-- The engine after a row of calls. -/
def callAll (e : Engine) (calls : List Call) : Drawing Engine := do
  return (← e.session calls).engine

theorem callAll_cons (e : Engine) (c : Call) (calls : List Call) :
    e.callAll (c :: calls) = e.call c >>= fun outcome => outcome.engine.callAll calls := rfl

/-- An engine to which some session leads from a new one. -/
def Reached (e : Engine) : Prop :=
  ∃ (format : NumberFormat) (calls : List Call) (draws : Draws),
    ((withFormat format).callAll calls draws).1 = e

/-- There is nothing to undo, or the last entry goes. -/
theorem undo_cases (e : Engine) (draws : Draws) :
    (e.program = [] ∧ (e.undo draws).1 = ⟨none, e, []⟩) ∨
    ∃ earlier token, e.program = earlier ++ [token] ∧
      (e.undo draws).1 = ⟨some ((e.withProgram earlier).evaluate draws).1, e.withProgram earlier,
        [.undone token]⟩ := by
  rw [undo]
  cases last : e.program.getLast? with
  | none => exact .inl ⟨List.getLast?_eq_none_iff.mp last, rfl⟩
  | some token =>
      obtain ⟨earlier, program⟩ := List.getLast?_eq_some_iff.mp last
      refine .inr ⟨earlier, token, program, ?_⟩
      rw [program, List.dropLast_concat]
      rfl

theorem undo_apply (e : Engine) (draws : Draws) :
    (e.undo draws).1.engine = e.withProgram e.program.dropLast := by
  rcases e.undo_cases draws with ⟨none, undone⟩ | ⟨earlier, token, program, undone⟩
  · rw [undone, none]
    exact congrArg (Engine.mk · e.bindings e.format) none
  · rw [undone, program, List.dropLast_concat]

theorem engine_call (e : Engine) (c : Call) (draws : Draws) :
    (e.call c draws).1.engine = c.engine e := by
  cases c with
  | enter token => exact congrArg Outcome.engine (e.entered_apply draws token)
  | undo => exact e.undo_apply draws
  | clear | setVariable _ _ | evaluateUsing _ | evaluateWith _ | plot _ _ | setFormat _ => rfl

/-- A session leads to the same engine, whatever is drawn on the way. -/
theorem callAll_apply (calls : List Call) :
    ∀ (e : Engine) (draws : Draws), (e.callAll calls draws).1 = calls.foldl Call.engine e := by
  induction calls with
  | nil => intro e draws; rfl
  | cons c calls ih =>
      intro e draws
      show ((e.call c draws).1.engine.callAll calls (e.call c draws).2).1 = _
      rw [ih, engine_call, List.foldl_cons]

/-! ### Calls where nothing is drawn -/

section Certain

variable {e : Engine}

theorem certain_call (certain : .ran ∉ e.program) {c : Call} (drawless : c ≠ .enter .ran) :
    .ran ∉ (c.engine e).program := by
  cases c with
  | enter token =>
      exact Replay.not_mem_record certain fun same => drawless (congrArg Call.enter same)
  | undo => exact fun mem => certain (List.dropLast_subset _ mem)
  | clear => exact List.not_mem_nil
  | setVariable _ _ | evaluateUsing _ | evaluateWith _ | plot _ _ | setFormat _ => exact certain

theorem undo_of_nil (nothing : e.program = []) : e.undo = pure ⟨none, e, []⟩ := by
  rw [undo, nothing]
  rfl

/-- Undoing leaves the program without its last token, and says where that
stands. -/
theorem undo_eq_pure {program : List Token} {token : Token} (h : e.program = program ++ [token])
    (certain : .ran ∉ program) :
    e.undo = pure ⟨some (Replay.ofProgram e.format e.bindings program).evaluation,
      e.withProgram program, [.undone token]⟩ := by
  rw [undo, h, List.getLast?_concat, List.dropLast_concat]
  show (e.withProgram program).evaluate >>= _ = _
  rw [evaluate, evaluateWith_eq_pure certain]
  rfl

theorem exists_plotFrom_eq_pure (certain : .ran ∉ e.program) (name : String) (xs : List Float) :
    ∀ bindings : Bindings, ∃ points, e.plotFrom name bindings xs = pure points := by
  induction xs with
  | nil => exact fun _ => ⟨[], rfl⟩
  | cons x xs ih =>
      intro bindings
      obtain ⟨points, drawn⟩ := ih (bindings.insert name x)
      rw [plotFrom, height, evaluateWith_eq_pure certain, drawn]
      exact ⟨_, rfl⟩

/-- No call draws anything where `Ran` is neither in the program nor pressed. -/
theorem call_eq_pure (certain : .ran ∉ e.program) {c : Call} (drawless : c ≠ .enter .ran) :
    ∃ outcome : Outcome (Option Evaluation), e.call c = pure outcome ∧
      outcome.engine = c.engine e := by
  obtain ⟨outcome, called⟩ : ∃ outcome, e.call c = pure outcome := by
    cases c with
    | enter token =>
        have other : token ≠ .ran := fun same => drawless (congrArg Call.enter same)
        rw [call, entered_eq_pure certain other]
        exact ⟨_, rfl⟩
    | undo =>
        rcases List.eq_nil_or_concat e.program with nothing | ⟨earlier, last, program⟩
        · exact ⟨_, undo_of_nil nothing⟩
        · rw [List.concat_eq_append] at program
          exact ⟨_, undo_eq_pure program fun mem =>
            certain (program ▸ List.mem_append_left [last] mem)⟩
    | evaluateUsing bindings =>
        have rebound : .ran ∉ ({ e with bindings := bindings } : Engine).program := certain
        rw [call, evaluateUsing, evaluate, evaluateWith_eq_pure rebound]
        exact ⟨_, rfl⟩
    | evaluateWith bindings =>
        rw [call, evaluateWith_eq_pure certain]
        exact ⟨_, rfl⟩
    | plot name xs =>
        obtain ⟨points, drawn⟩ := exists_plotFrom_eq_pure certain name xs e.bindings
        rw [call, plot, drawn]
        exact ⟨_, rfl⟩
    | clear | setVariable _ _ | setFormat _ => exact ⟨_, rfl⟩
  refine ⟨outcome, called, ?_⟩
  rw [← engine_call e c ⟨fun _ => 0, 0⟩, called]
  rfl

end Certain

end Engine

end Keypad
