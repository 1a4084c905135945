/-
# `Keypad.Proofs.Recording` — what becomes of the program when a key is pressed

An engine decides what to record by replaying its program with the numbers,
bindings and draws of the moment.  The decision depends on none of them: the
program after a press is a function of the program before (`record`), and that
is all that a press changes (`Engine.enter_apply`).

A press is described by the token it is recorded as, if it is recorded: an
operand, or the symbol of what was pressed.  `Engine.enter` presses one key and
`Engine.enterAll` one after another.
-/
import Keypad.Engine
import Keypad.Proofs.Phase

namespace Keypad

/-! ## The program alone -/

/-- What is left of a program when an operand comes: all of it while a binary
key waits, and nothing otherwise. -/
def kept (program : List Token) : List Token :=
  if (Phase.ofProgram program).isPending then program else []

def record (program : List Token) (token : Token) : List Token :=
  match token.kind? with
  | none => program
  | some .operand => kept program ++ [token]
  | some kind =>
    if ((Phase.ofProgram program).next kind).isSome then program ++ [token] else program

def recordAll (program keys : List Token) : List Token := keys.foldl record program

@[simp] theorem recordAll_nil (program : List Token) : recordAll program [] = program := rfl

@[simp] theorem recordAll_cons (program keys : List Token) (token : Token) :
    recordAll program (token :: keys) = recordAll (record program token) keys := rfl

theorem recordAll_append_singleton (program keys : List Token) (token : Token) :
    recordAll program (keys ++ [token]) = record (recordAll program keys) token :=
  List.foldl_append

theorem record_operand {program : List Token} {token : Token} (h : token.kind? = some .operand) :
    record program token = kept program ++ [token] := by
  simp only [record, h]

theorem record_of_next {program : List Token} {token : Token} {kind : Kind}
    (h : token.kind? = some kind) (hk : kind ≠ .operand) :
    record program token =
      if ((Phase.ofProgram program).next kind).isSome then program ++ [token] else program := by
  cases kind with
  | operand => exact absurd rfl hk
  | unary | binary | equals => simp only [record, h]

theorem mem_of_mem_kept {program : List Token} {t : Token} (h : t ∈ kept program) :
    t ∈ program := by
  unfold kept at h
  split at h
  · exact h
  · exact absurd h List.not_mem_nil

/-- A program grows by the presses of keys that exist. -/
theorem mem_of_mem_record {program : List Token} {token t : Token}
    (h : t ∈ record program token) : t ∈ program ∨ (t = token ∧ token.kind?.isSome) := by
  cases kind : token.kind? with
  | none =>
      rw [record, kind] at h
      exact .inl h
  | some k =>
      have added {p : List Token} (h : t ∈ p ++ [token]) : t ∈ p ∨ (t = token ∧ true) :=
        (List.mem_append.mp h).imp_right fun h => ⟨List.mem_singleton.mp h, rfl⟩
      by_cases operand : k = .operand
      · rw [record_operand (operand ▸ kind)] at h
        exact (added h).imp_left mem_of_mem_kept
      · rw [record_of_next kind operand] at h
        split at h
        · exact added h
        · exact .inl h

theorem mem_of_mem_recordAll {t : Token} (keys : List Token) :
    ∀ {program : List Token}, t ∈ recordAll program keys →
      t ∈ program ∨ (t ∈ keys ∧ t.kind?.isSome) := by
  induction keys with
  | nil => intro program h; exact .inl h
  | cons token keys ih =>
      intro program h
      rcases ih h with h | ⟨h, known⟩
      · rcases mem_of_mem_record h with h | ⟨rfl, known⟩
        · exact .inl h
        · exact .inr ⟨List.mem_cons_self, known⟩
      · exact .inr ⟨List.mem_cons_of_mem token h, known⟩

/-! ## The engine -/

namespace Engine

/-- An engine into which nothing was entered yet. -/
def fresh (bindings : Bindings) (format : NumberFormat) : Engine := ⟨[], bindings, format⟩

def withProgram (e : Engine) (program : List Token) : Engine := { e with program := program }

/-- Presses the key that is recorded as a given token. -/
def enter (e : Engine) : Token → Drawing Engine
  | .operand literal => do return (← e.enterLiteral literal).engine
  | .operation symbol => do return (← e.press symbol).engine

def enterAll (e : Engine) (keys : List Token) : Drawing Engine := keys.foldlM enter e

@[simp] theorem enterAll_cons (e : Engine) (token : Token) (keys : List Token) :
    e.enterAll (token :: keys) = e.enter token >>= fun e' => e'.enterAll keys := rfl

theorem phase_replayWith (e : Engine) (bindings : Bindings) (draws : Draws) :
    (e.replayWith bindings draws).1.phase = Phase.ofProgram e.program := by
  show (Replay.blank.run (entries e.format bindings e.program draws).1).phase = _
  rw [Replay.phase_run, map_kind_entries, Replay.phase_blank, Phase.foldl_step_filterMap_kind?,
    Phase.ofProgram]

theorem isPending_apply (e : Engine) (draws : Draws) :
    (e.isPending draws).1 = (Phase.ofProgram e.program).isPending := by
  show (e.replayWith e.bindings draws).1.isPending = _
  rw [← Replay.isPending_phase, phase_replayWith]

theorem makeRoom_apply (e : Engine) (draws : Draws) :
    (e.makeRoom draws).1.engine = e.withProgram (kept e.program) := by
  have made : (e.makeRoom draws).1
      = if (e.isPending draws).1 then ⟨(), e, []⟩ else e.startOver := rfl
  obtain ⟨program, bindings, format⟩ := e
  rw [made, isPending_apply, kept, startOver]
  split
  · rfl
  · cases program <;> rfl

theorem enterLiteral_apply (e : Engine) (literal : Literal) (draws : Draws) :
    (e.enterLiteral literal draws).1.engine
      = e.withProgram (record e.program (.operand literal)) := by
  show (e.makeRoom draws).1.engine.append (.operand literal) = _
  rw [makeRoom_apply]
  rfl

/-- The trial of a key, made on an engine in which there is room, is decided by
the phase of the program. -/
theorem trial_apply (e : Engine) (key : Key) (draws draws' : Draws) (events events' : List Event) :
    (if ((e.replay draws).1.enter (key.entry draws').1).isSome then
        (⟨(), e.append (.operation key.symbol), events⟩ : Outcome Unit)
      else ⟨(), e, events'⟩).engine
    = if ((Phase.ofProgram e.program).next key.kind).isSome then
        e.append (.operation key.symbol)
      else e := by
  have phase : (e.replay draws).1.phase = Phase.ofProgram e.program :=
    e.phase_replayWith e.bindings draws
  rw [Replay.isSome_enter, Key.kind_entry, phase]
  split <;> rfl

theorem entersOperand_iff : ∀ key : Key, entersOperand key = true ↔ key.kind = .operand
  | .constant _ | .draw => ⟨fun _ => rfl, fun _ => rfl⟩
  | .unary _ | .binary _ | .equals => ⟨nofun, nofun⟩

theorem pressKey_apply (e : Engine) (key : Key) (draws : Draws) :
    (e.pressKey key draws).1.engine
      = e.withProgram (record e.program (.operation key.symbol)) := by
  have kind := Token.kind?_symbol key
  unfold pressKey
  cases enters : entersOperand key with
  | true =>
      have operand := (entersOperand_iff key).mp enters
      -- The trial always succeeds: it is made on what room was made in.
      refine (trial_apply (e.makeRoom draws).1.engine key (e.makeRoom draws).2 _ _ _).trans ?_
      rw [operand, if_pos (Phase.isSome_next_operand _), makeRoom_apply,
        record_operand (kind.trans (congrArg some operand))]
      rfl
  | false =>
      have other : key.kind ≠ .operand :=
        fun operand => Bool.noConfusion (enters.symm.trans ((entersOperand_iff key).mpr operand))
      refine (trial_apply e key draws (e.replay draws).2 _ _).trans ?_
      rw [record_of_next kind other]
      split <;> rfl

/-- What a press changes is the program, and how is a matter of the program
alone. -/
theorem enter_apply (e : Engine) (draws : Draws) :
    ∀ token : Token, (e.enter token draws).1 = e.withProgram (record e.program token)
  | .operand literal => e.enterLiteral_apply literal draws
  | .operation symbol => by
      show (e.press symbol draws).1.engine = _
      rw [press]
      cases known : Key.ofSymbol? symbol with
      | none =>
          rw [record, Token.kind?_unknown known]
          rfl
      | some key =>
          rw [← Key.ofSymbol?_eq_some.mp known]
          exact e.pressKey_apply key draws

theorem enterAll_apply (keys : List Token) :
    ∀ (e : Engine) (draws : Draws),
      (e.enterAll keys draws).1 = e.withProgram (recordAll e.program keys) := by
  induction keys with
  | nil => intro e draws; rfl
  | cons token keys ih =>
      intro e draws
      show ((e.enter token draws).1.enterAll keys (e.enter token draws).2).1 = _
      rw [ih, enter_apply]
      rfl

end Engine

end Keypad
