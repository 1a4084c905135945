/-
# `Keypad.Proofs.Interchange` — an operand is the number that it stands for

There are four ways to enter an operand, and the engine takes them along two different
ways: numbers and variables as operands, constants and draws as keys.  Once the program
is replayed nothing is left of the difference.  Put in the place of

| operand | the number |
| :-- | :-- |
| a variable | that it is bound to, zero if it is not |
| a constant | of the constant |
| the `n`th draw | that is drawn `n`th |

and the program comes to the same (`Token.ground`, `ground`).  This is so for programs of
every sort, also for those that no keypad could make: a draw that is reset before anything
is done with it still takes a number of the supply, and the draws after it take the next
ones.

Two replays are compared that agree in their numbers (`SameNumbers`) and differ in what
there is to read.  Agreeing in their numbers they are in the same phase, so every further
key is accepted by both or by neither (`Engine.ground_interchangeable`).
-/
import Keypad.Proofs.Independence
import Keypad.Proofs.Operand

namespace Keypad

/-! ## Numbers in the place of operands -/

/-- A token with the number that it stands for in its place, if it is an operand.  A draw
stands for `drawn`. -/
def Token.ground (bindings : Bindings) (drawn : Float) : Token → Token
  | .operand literal => .operand (.value (literal.number bindings))
  | .operation symbol => match Key.ofSymbol? symbol with
    | some (.constant c) => .operand (.value c.value)
    | some .draw => .operand (.value drawn)
    | _ => .operation symbol

/-- How often a program draws. -/
def drawCount (program : List Token) : Nat := program.countP fun token => decide (token = .ran)

/-- The supply after so many draws. -/
def Draws.skip (draws : Draws) (count : Nat) : Draws :=
  { draws with drawn := draws.drawn + count }

/-- A program with numbers in the place of its operands.  Before the token in place `i`
there were as many draws as there are in the `i` tokens before it. -/
def ground (bindings : Bindings) (draws : Draws) (program : List Token) : List Token :=
  program.mapIdx fun i token =>
    token.ground bindings (draws.number (draws.drawn + drawCount (program.take i)))

/-! ## One token -/

theorem Draws.skip_skip (draws : Draws) (m n : Nat) :
    (draws.skip m).skip n = draws.skip (m + n) := by
  rw [skip, skip, skip, Nat.add_assoc]

theorem drawCount_cons (token : Token) (program : List Token) :
    drawCount (token :: program) = drawCount [token] + drawCount program := by
  rw [drawCount, ← List.singleton_append, List.countP_append]
  rfl

theorem drawCount_of_ne {token : Token} (certain : token ≠ .ran) : drawCount [token] = 0 := by
  rw [drawCount, List.countP_eq_zero]
  intro t mem
  rw [List.mem_singleton.mp mem, decide_eq_true_iff]
  exact certain

/-- A token draws once if it is the key that draws, and not at all otherwise. -/
theorem Token.supply_entry (format : NumberFormat) (bindings : Bindings) (draws : Draws)
    (token : Token) : (token.entry format bindings draws).2 = draws.skip (drawCount [token]) := by
  by_cases certain : token = .ran
  · subst certain
    rfl
  · rw [Token.entry_eq_pure format bindings certain, drawCount_of_ne certain]
    rfl

/-- No draw is left in the place of an operand. -/
theorem Token.ground_ne_ran (bindings : Bindings) (drawn : Float) :
    ∀ token : Token, token.ground bindings drawn ≠ .ran
  | .operand literal => Token.noConfusion
  | .operation symbol => by
      rw [ground]
      cases known : Key.ofSymbol? symbol with
      | none =>
          rintro same
          rw [Token.operation.inj same, Key.ofSymbol?_symbol] at known
          cases known
      | some key =>
          cases key with
          | constant _ | draw => exact Token.noConfusion
          | unary _ | binary _ | equals =>
              rintro same
              rw [Token.operation.inj same, Key.ofSymbol?_symbol] at known
              cases known

/-- A token and the number in its place are the same to reckon with. -/
theorem Token.numeric_ground (format format' : NumberFormat) (bindings bindings' : Bindings)
    (draws draws' : Draws) (token : Token) :
    ((token.ground bindings (draws.number draws.drawn)).entry format' bindings' draws').1.map
        Entry.numeric
      = (token.entry format bindings draws).1.map Entry.numeric := by
  cases token with
  | operand literal => cases literal <;> rfl
  | operation symbol =>
      cases known : Key.ofSymbol? symbol with
      | none =>
          simp only [ground, Token.entry, known]
          rfl
      | some key =>
          cases key with
          | constant _ | draw | unary _ | binary _ | equals =>
              simp only [ground, Token.entry, known]
              rfl

/-! ## A program -/

section Program

variable (format format' : NumberFormat) (bindings bindings' : Bindings)

theorem ground_cons (draws : Draws) (token : Token) (program : List Token) :
    ground bindings draws (token :: program)
      = token.ground bindings (draws.number draws.drawn)
        :: ground bindings (draws.skip (drawCount [token])) program := by
  have place (i : Nat) : draws.drawn + drawCount ((token :: program).take (i + 1))
      = draws.drawn + drawCount [token] + drawCount (program.take i) := by
    rw [List.take_succ_cons, drawCount_cons, Nat.add_assoc]
  rw [ground, List.mapIdx_cons]
  simp only [place]
  rfl

theorem drawCount_ground (program : List Token) :
    ∀ draws : Draws, drawCount (ground bindings draws program) = 0 := by
  induction program with
  | nil => intro draws; rfl
  | cons token program ih =>
      intro draws
      rw [ground_cons, drawCount_cons, ih, drawCount_of_ne (token.ground_ne_ran bindings _)]

/-- A replay draws once for every token that draws, whatever comes of the number. -/
theorem supply_entries (program : List Token) :
    ∀ draws : Draws,
      (entries format bindings program draws).2 = draws.skip (drawCount program) := by
  induction program with
  | nil => intro draws; rfl
  | cons token program ih =>
      intro draws
      show (entries format bindings program (token.entry format bindings draws).2).2 = _
      rw [ih, Token.supply_entry, Draws.skip_skip, ← drawCount_cons]

theorem map_numeric_ground (program : List Token) :
    ∀ draws draws' : Draws,
      (entries format' bindings' (ground bindings draws program) draws').1.map Entry.numeric
        = (entries format bindings program draws).1.map Entry.numeric := by
  induction program with
  | nil => intro draws draws'; rfl
  | cons token program ih =>
      intro draws draws'
      have head := token.numeric_ground format format' bindings bindings' draws draws'
      generalize grounded : token.ground bindings (draws.number draws.drawn) = token' at head
      have tail := ih (token.entry format bindings draws).2
        (token'.entry format' bindings' draws').2
      rw [Token.supply_entry format] at tail
      rw [ground_cons, grounded]
      show ((token'.entry format' bindings' draws').1.toList ++ (entries format' bindings'
          (ground bindings (draws.skip (drawCount [token])) program)
          (token'.entry format' bindings' draws').2).1).map _
        = ((token.entry format bindings draws).1.toList
          ++ (entries format bindings program (token.entry format bindings draws).2).1).map _
      rw [List.map_append, List.map_append, tail, ← Token.supply_entry format bindings,
        ← Option.toList_map, head, Option.toList_map]

end Program

/-! ## An engine -/

theorem SameNumbers.phase_eq {r s : Replay} (h : SameNumbers r s) : r.phase = s.phase := by
  rw [Replay.phase, Replay.phase, h.accumulator, h.pending]

/-- The phase goes on from key to key, although a new expression drops the program. -/
theorem phase_record (program : List Token) (token : Token) :
    Phase.ofProgram (record program token) = (Phase.ofProgram program).press token := by
  cases known : token.kind? with
  | none =>
      rw [record, Phase.press, known]
      rfl
  | some kind =>
      by_cases operand : kind = .operand
      · rw [operand] at known
        rw [record_operand known, Phase.ofProgram_append_singleton, Phase.press, Phase.press, known,
          kept]
        cases phase : Phase.ofProgram program with
        | empty | value => rfl
        | waiting | second => simp only [Phase.isPending, if_true, phase]
      · rw [record_of_next known operand, Phase.press, known, Option.map_some, Phase.step]
        split
        case isTrue => rw [Phase.ofProgram_append_singleton, Phase.press, known]; rfl
        case isFalse none => rw [Option.not_isSome_iff_eq_none.mp none]; rfl

namespace Engine

/-- Whether each key of a row is accepted when they are entered one after another. -/
def tryAll (e : Engine) : List Token → Drawing (List Bool)
  | [] => pure []
  | key :: keys => do
    let outcome ← e.entered key
    return outcome.events.any Event.appends :: (← outcome.engine.tryAll keys)

/-- What is accepted is a matter of the phase. -/
theorem tryAll_eq_of_phase_eq (keys : List Token) :
    ∀ {a b : Engine}, Phase.ofProgram a.program = Phase.ofProgram b.program →
      ∀ draws draws' : Draws, (a.tryAll keys draws).1 = (b.tryAll keys draws').1 := by
  induction keys with
  | nil => intro a b _ draws draws'; rfl
  | cons key keys ih =>
      intro a b same draws draws'
      have first : (a.entered key draws).1.events.any Event.appends
          = (b.entered key draws').1.events.any Event.appends := by
        rw [entered_apply, entered_apply, any_appends_report, any_appends_report, accepts, accepts,
          same]
      have next : Phase.ofProgram (a.entered key draws).1.engine.program
          = Phase.ofProgram (b.entered key draws').1.engine.program := by
        rw [entered_apply, entered_apply]
        show Phase.ofProgram (record a.program key) = Phase.ofProgram (record b.program key)
        rw [phase_record, phase_record, same]
      show (a.entered key draws).1.events.any Event.appends
          :: ((a.entered key draws).1.engine.tryAll keys (a.entered key draws).2).1
        = (b.entered key draws').1.events.any Event.appends
          :: ((b.entered key draws').1.engine.tryAll keys (b.entered key draws').2).1
      rw [first, ih next (a.entered key draws).2 (b.entered key draws').2]

theorem sameNumbers_ground (e : Engine) (bindings : Bindings) (draws : Draws)
    (format' : NumberFormat) (bindings' : Bindings) (draws' : Draws) :
    SameNumbers (Engine.replay ⟨ground bindings draws e.program, bindings', format'⟩ draws').1
      (e.replayWith bindings draws).1 :=
  Replay.run_related SameNumbers.step _ ⟨rfl, rfl⟩
    (map_numeric_ground e.format format' bindings bindings' e.program draws draws')

/-- All kinds of operands are interchangeable with the numbers that they stand for.  An
evaluation takes one number of the supply for every draw of the program.  With those
numbers, and with those of the variables and constants, in the place of the operands the
program has the same result and is pending alike, whatever variables are bound to, and
nothing is drawn any more.  And the same keys are accepted afterwards, one after another. -/
theorem ground_interchangeable (e : Engine) (bindings : Bindings) (draws : Draws)
    (format' : NumberFormat) (bindings' : Bindings) :
    let grounded : Engine := ⟨ground bindings draws e.program, bindings', format'⟩
    (e.evaluateWith bindings draws).2 = draws.skip (drawCount e.program) ∧
    (∀ draws' : Draws,
      (grounded.evaluate draws').1.result = (e.evaluateWith bindings draws).1.result ∧
      (grounded.evaluate draws').1.isPending = (e.evaluateWith bindings draws).1.isPending ∧
      (grounded.evaluate draws').2 = draws') ∧
    ∀ (keys : List Token) (draws' draws'' : Draws),
      (e.tryAll keys draws').1 = (grounded.tryAll keys draws'').1 := by
  intro grounded
  have same (draws' : Draws) :
      SameNumbers (grounded.replay draws').1 (e.replayWith bindings draws).1 :=
    e.sameNumbers_ground bindings draws format' bindings' draws'
  refine ⟨supply_entries e.format bindings e.program draws, fun draws' => ⟨?_, ?_, ?_⟩,
    fun keys draws' draws'' => tryAll_eq_of_phase_eq keys ?_ draws' draws''⟩
  · exact (same draws').result_eq
  · show (grounded.replay draws').1.isPending = (e.replayWith bindings draws).1.isPending
    rw [← Replay.isPending_phase, (same draws').phase_eq, Replay.isPending_phase]
  · show (entries format' bindings' (ground bindings draws e.program) draws').2 = draws'
    rw [supply_entries, drawCount_ground]
    rfl
  · rw [← e.phase_replayWith bindings draws, ← (same draws).phase_eq]
    exact grounded.phase_replayWith bindings' draws

end Engine

end Keypad
