/-
# `Keypad.Proofs.Undoing` — what taking back an entry brings back

An engine keeps no history beside its program.  Undoing drops the last token, and
what can be brought back is what is left of the program then.  For a key on what
was entered so far, and for the operand that a binary key waits for, that is the
program as it was: undoing them brings back the evaluation before the press.  An
operand that begins a new expression drops the program when it comes, and undoing
it brings back an empty one.

`undo_entered` says that there is no third case, and that the two differ: where a
program was dropped, something stood before that does not stand again.
-/
import Keypad.Proofs.Automaton

namespace Keypad

/-- Whether a press begins a new expression in the place of another: an operand
that comes while no key waits, when something was entered before. -/
def Begins (program : List Token) (token : Token) : Prop :=
  token.kind? = some .operand ∧ (Phase.ofProgram program).isPending = false ∧ program ≠ []

instance decBegins (program : List Token) (token : Token) : Decidable (Begins program token) :=
  inferInstanceAs (Decidable (_ ∧ _ ∧ _))

theorem kept_of_begins {program : List Token} {token : Token} (h : Begins program token) :
    kept program = [] := by
  rw [kept, h.2.1]
  rfl

theorem kept_of_not_begins {program : List Token} {token : Token} (h : ¬ Begins program token)
    (operand : token.kind? = some .operand) : kept program = program := by
  rw [kept]
  split
  case isTrue => rfl
  case isFalse waits =>
    by_cases nothing : program = []
    · exact nothing.symm
    · exact absurd ⟨operand, Bool.eq_false_iff.mpr waits, nothing⟩ h

/-- What is recorded of a press that is accepted: the token, after all that was
there unless a new expression begins. -/
theorem record_of_accepts {program : List Token} {token : Token} (h : accepts program token) :
    record program token = (if Begins program token then [] else program) ++ [token] := by
  cases known : token.kind? with
  | none =>
      rw [accepts, known] at h
      cases h
  | some kind =>
      by_cases operand : kind = .operand
      · rw [operand] at known
        rw [record_operand known]
        split
        case isTrue begins => rw [kept_of_begins begins]
        case isFalse continues => rw [kept_of_not_begins continues known]
      · have continues : ¬ Begins program token :=
          fun begins => operand (Option.some.inj (known.symm.trans begins.1))
        rw [accepts, known, Option.bind_some] at h
        rw [record_of_next known operand, if_pos h, if_neg continues]

/-- A reached program with something in it, on which no key waits, has a number
that stands. -/
theorem Path.isSome_result {program : List Token} {phase : Phase} (h : Path program phase)
    {r : Replay} (reaches : r.phase = phase) (waits : phase.isPending = false)
    (entered : program ≠ []) : r.evaluation.result.isSome := by
  obtain ⟨accumulator, pending, fragments⟩ := r
  cases pending with
  | some _ => cases accumulator <;> cases reaches <;> cases waits
  | none =>
      cases accumulator with
      | some _ => rfl
      | none => exact absurd reaches.symm (h.ne_empty entered)

namespace Engine

variable {e : Engine}

/-- Undoing an entry right after it was accepted gives the evaluation before the
entry, unless the entry began a new expression: then what stood before is lost,
and undoing gives the evaluation of an empty program. -/
theorem undo_entered (reached : e.Reached) (certain : .ran ∉ e.program) {token : Token}
    (drawless : token ≠ .ran) :
    ∃ (before : Evaluation) (outcome : Outcome Unit),
      e.evaluate = pure before ∧ e.entered token = pure outcome ∧
      (outcome.events.any Event.appends →
        ∃ undone : Outcome (Option Evaluation), outcome.engine.undo = pure undone ∧
          if token.kind? = some .operand ∧ before.isPending = false ∧ e.program ≠ [] then
            undone.result = some ⟨none, false, ""⟩ ∧ before.result.isSome
          else undone.result = some before) := by
  let state := Replay.ofProgram e.format e.bindings e.program
  have phase : state.phase = Phase.ofProgram e.program :=
    Replay.phase_ofProgram e.format e.bindings certain
  have pending : state.evaluation.isPending = (Phase.ofProgram e.program).isPending := by
    rw [← phase, Replay.isPending_phase]
    rfl
  refine ⟨state.evaluation, _, evaluateWith_eq_pure certain e.bindings,
    entered_eq_pure certain drawless, ?_⟩
  intro appended
  rw [any_appends_report] at appended
  rw [record_of_accepts appended, pending]
  show ∃ undone, _ ∧ if Begins e.program token then _ else _
  by_cases begins : Begins e.program token
  · rw [if_pos begins]
    refine ⟨_, undo_eq_pure rfl List.not_mem_nil, ?_⟩
    rw [if_pos begins]
    obtain ⟨phase', path⟩ := reached.path
    have stands : state.evaluation.result.isSome :=
      path.isSome_result (phase.trans path.phase_eq) (path.phase_eq ▸ begins.2.1) begins.2.2
    exact ⟨rfl, stands⟩
  · rw [if_neg begins]
    refine ⟨_, undo_eq_pure rfl certain, ?_⟩
    rw [if_neg begins]
    rfl

/-- After `3 +` the variable `x` comes and is taken back: `3 +` stands again. -/
theorem undo_entered_second :
    ∃ (e : Engine) (before : Evaluation) (outcome : Outcome Unit)
        (undone : Outcome (Option Evaluation)),
      e.Reached ∧ .ran ∉ e.program ∧ e.program = [.operand (.value 3), .operation "+"] ∧
      before = ⟨some 3, true, "3+"⟩ ∧ e.evaluate = pure before ∧
      e.entered (.operand (.named "x")) = pure outcome ∧ outcome.events.any Event.appends ∧
      outcome.engine.undo = pure undone ∧ undone.result = some before := by
  let e := (fresh ∅ FixedPoint.standard.toNumberFormat).withProgram
    [.operand (.value 3), .operation "+"]
  have recorded : recordAll [] [.operand (.value 3), .operation "+"]
      = [.operand (.value 3), .operation "+"] := by
    decide
  have reached : e.Reached :=
    ⟨FixedPoint.standard.toNumberFormat, [.enter (.operand (.value 3)), .enter (.operation "+")],
      ⟨fun _ => 0, 0⟩, (callAll_apply _ _ _).trans (congrArg (withProgram _) recorded)⟩
  have certain : .ran ∉ e.program := by simp [e, withProgram, Token.ran, Key.symbol]
  have drawless : Token.operand (.named "x") ≠ .ran := Token.noConfusion
  obtain ⟨before, outcome, evaluated, entered, undoing⟩ := undo_entered reached certain drawless
  have stood : before = ⟨some 3, true, "3+"⟩ := by
    have same := congrArg Prod.fst (congrFun evaluated ⟨fun _ => 0, 0⟩)
    exact same.symm.trans (by decide +kernel)
  have appended : outcome.events.any Event.appends := by
    have same := congrArg Prod.fst (congrFun entered ⟨fun _ => 0, 0⟩)
    rw [entered_apply] at same
    rw [← show _ = outcome from same, any_appends_report]
    decide
  obtain ⟨undone, undo, returned⟩ := undoing appended
  rw [if_neg (by simp [stood])] at returned
  exact ⟨e, before, outcome, undone, reached, certain, rfl, stood, evaluated, entered, appended,
    undo, returned⟩

/-- After `7` the operand `9` begins a new expression, and taking it back does not
bring `7` back. -/
theorem undo_of_begun_expression :
    ∃ (e : Engine) (before : Evaluation) (outcome : Outcome Unit)
        (undone : Outcome (Option Evaluation)),
      e.Reached ∧ .ran ∉ e.program ∧ e.program = [.operand (.value 7)] ∧
      e.evaluate = pure before ∧
      e.entered (.operand (.value 9)) = pure outcome ∧ outcome.events.any Event.appends ∧
      outcome.engine.undo = pure undone ∧
      before = ⟨some 7, false, "7"⟩ ∧ undone.result = some ⟨none, false, ""⟩ := by
  let e := (fresh ∅ FixedPoint.standard.toNumberFormat).withProgram [.operand (.value 7)]
  have reached : e.Reached :=
    ⟨FixedPoint.standard.toNumberFormat, [.enter (.operand (.value 7))], ⟨fun _ => 0, 0⟩, rfl⟩
  have certain : .ran ∉ e.program := by simp [e, withProgram, Token.ran]
  have evaluated : e.evaluate = pure ⟨some 7, false, "7"⟩ :=
    (evaluateWith_eq_pure certain e.bindings).trans (congrArg pure (by decide +kernel))
  have appended : accepts e.program (.operand (.value 9)) := by decide
  exact ⟨e, _, _, _, reached, certain, rfl, evaluated,
    entered_eq_pure certain Token.noConfusion, (any_appends_report _ _).trans appended,
    undo_eq_pure rfl List.not_mem_nil, rfl, rfl⟩

end Engine

end Keypad
