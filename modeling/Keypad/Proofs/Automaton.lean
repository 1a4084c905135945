/-
# `Keypad.Proofs.Automaton` — the programs that a keypad can produce

Not every list of tokens is the program of a calculation.  Those that are can be
read off an automaton with four states, which are the phases:

    empty ──operand──▶ value ──binary──▶ waiting ──operand──▶ second
                       ▲  ╰─unary─╯         ▲                 │ │ ╰─unary, operand─╯
                       │                    ╰─────binary──────╯ │
                       ╰───────────────────equals───────────────╯

One move is missing that a replay knows: an operand in `value`, which would begin
a new expression.  There the engine drops the program, so such an operand is
always the first of its program.

The main statement, `reached_iff_path`, says that the programs of the engines
that can be reached are exactly the paths of the automaton from `empty`.  So of a
reached program every token has an effect when it is replayed, no operand after
the first one resets the replay, and pressing the tokens one after another gives
the program again (`Path.sound`).  The invariant is the path itself: a press
prolongs it or begins another, and undoing shortens it.
-/
import Keypad.Proofs.Session

namespace Keypad

/-! ## The automaton -/

/-- The moves of the automaton. -/
inductive Move : Phase → Kind → Phase → Prop
  | enter : Move .empty .operand .value
  | wrap : Move .value .unary .value
  | join : Move .value .binary .waiting
  | enterSecond : Move .waiting .operand .second
  | replaceSecond : Move .second .operand .second
  | wrapSecond : Move .second .unary .second
  | chain : Move .second .binary .waiting
  | close : Move .second .equals .value

namespace Move

variable {phase phase' : Phase} {kind : Kind}

theorem next_eq (h : Move phase kind phase') : phase.next kind = some phase' := by
  cases h <;> rfl

/-- What a replay knows and the automaton does not: beginning a new expression. -/
theorem of_next (h : phase.next kind = some phase')
    (continues : ¬ (phase = .value ∧ kind = .operand)) : Move phase kind phase' := by
  cases phase <;> cases kind <;> cases h
  case value.operand => exact absurd ⟨rfl, rfl⟩ continues
  case empty.operand => exact .enter
  case value.unary => exact .wrap
  case value.binary => exact .join
  case waiting.operand => exact .enterSecond
  case second.operand => exact .replaceSecond
  case second.unary => exact .wrapSecond
  case second.binary => exact .chain
  case second.equals => exact .close

/-- After the first operand, an operand comes only while a key waits. -/
theorem isPending_of_operand (h : Move phase .operand phase') (begun : phase ≠ .empty) :
    phase.isPending := by
  cases h with
  | enter => exact absurd rfl begun
  | enterSecond | replaceSecond => rfl

theorem ne_empty (h : Move phase kind phase') : phase' ≠ .empty := by
  cases h <;> exact Phase.noConfusion

end Move

/-- The automaton goes from `empty` to a state, along the tokens of a program. -/
inductive Path : List Token → Phase → Prop
  | nil : Path [] .empty
  | append {program : List Token} {phase phase' : Phase} {token : Token} {kind : Kind} :
      Path program phase → token.kind? = some kind → Move phase kind phase' →
      Path (program ++ [token]) phase'

namespace Path

variable {program : List Token} {phase : Phase}

theorem phase_eq (h : Path program phase) : Phase.ofProgram program = phase := by
  induction h with
  | nil => rfl
  | append _ known move ih =>
      rw [Phase.ofProgram_append_singleton, ih, Phase.press, known, Option.map_some, Phase.step,
        move.next_eq]
      rfl

theorem eq_nil_or_append (h : Path program phase) :
    (program = [] ∧ phase = .empty) ∨
    ∃ earlier token phase' kind, program = earlier ++ [token] ∧ Path earlier phase' ∧
      token.kind? = some kind ∧ Move phase' kind phase := by
  cases h with
  | nil => exact .inl ⟨rfl, rfl⟩
  | append below known move => exact .inr ⟨_, _, _, _, rfl, below, known, move⟩

/-- A path with something on it has left `empty`. -/
theorem ne_empty (h : Path program phase) (some : program ≠ []) : phase ≠ .empty := by
  cases h with
  | nil => exact absurd rfl some
  | append _ _ move => exact move.ne_empty

theorem dropLast (h : Path program phase) : ∃ phase', Path program.dropLast phase' := by
  cases h with
  | nil => exact ⟨.empty, .nil⟩
  | append below _ _ =>
      rw [List.dropLast_concat]
      exact ⟨_, below⟩

/-- A path can be cut anywhere, and goes on with a move. -/
theorem cut (h : Path program phase) :
    ∀ {before after : List Token} {token : Token}, program = before ++ token :: after →
      ∃ phase' kind phase'', Path before phase' ∧ token.kind? = some kind ∧
        Move phase' kind phase'' := by
  induction h with
  | nil =>
      intro before after token same
      exact absurd same.symm (List.append_ne_nil_of_right_ne_nil before (List.cons_ne_nil _ _))
  | @append earlier _ _ last _ below known move ih =>
      intro before after token same
      rcases List.eq_nil_or_concat after with rfl | ⟨after', last', rfl⟩
      · obtain ⟨rfl, same'⟩ := List.append_inj' same rfl
        cases same'
        exact ⟨_, _, _, below, known, move⟩
      · rw [List.concat_eq_append, ← List.cons_append, ← List.append_assoc] at same
        exact ih (List.append_inj' same rfl).1

/-! ## What is done to an engine keeps to the paths -/

/-- An operand, pressed at the end of a path, begins a new one or prolongs it. -/
theorem kept_append (h : Path program phase) {token : Token}
    (operand : token.kind? = some .operand) :
    ∃ phase', Path (kept program ++ [token]) phase' := by
  rw [kept, h.phase_eq]
  cases waits : phase.isPending with
  | false => exact ⟨_, Path.nil.append operand .enter⟩
  | true =>
      cases phase with
      | empty | value => cases waits
      | waiting => exact ⟨_, h.append operand .enterSecond⟩
      | second => exact ⟨_, h.append operand .replaceSecond⟩

theorem record (h : Path program phase) (token : Token) :
    ∃ phase', Path (record program token) phase' := by
  cases known : token.kind? with
  | none =>
      rw [Keypad.record, known]
      exact ⟨phase, h⟩
  | some kind =>
      by_cases operand : kind = .operand
      · rw [operand] at known
        rw [record_operand known]
        exact h.kept_append known
      · rw [record_of_next known operand, h.phase_eq]
        cases next : phase.next kind with
        | none => exact ⟨phase, h⟩
        | some phase' =>
            have move : Move phase kind phase' := .of_next next fun begins => operand begins.2
            exact ⟨phase', h.append known move⟩

theorem recordAll (keys : List Token) :
    ∀ {program : List Token} {phase : Phase}, Path program phase →
      ∃ phase', Path (recordAll program keys) phase' := by
  induction keys with
  | nil => intro program phase h; exact ⟨phase, h⟩
  | cons token keys ih =>
      intro program phase h
      obtain ⟨phase', next⟩ := h.record token
      exact ih next

theorem call {e : Engine} (h : Path e.program phase) :
    ∀ c : Call, ∃ phase', Path (c.engine e).program phase'
  | .enter token => h.record token
  | .undo => h.dropLast
  | .clear => ⟨.empty, .nil⟩
  | .setVariable _ _ | .evaluateUsing _ | .evaluateWith _ | .plot _ _ | .setFormat _ => ⟨phase, h⟩

theorem callAll (calls : List Call) :
    ∀ {e : Engine} {phase : Phase}, Path e.program phase →
      ∃ phase', Path (calls.foldl Call.engine e).program phase' := by
  induction calls with
  | nil => intro e phase h; exact ⟨phase, h⟩
  | cons c calls ih =>
      intro e phase h
      obtain ⟨phase', next⟩ := h.call c
      exact ih next

/-! ## The tokens of a path, pressed one after another -/

/-- At the end of a path a move is recorded as it is. -/
theorem record_eq_append (h : Path program phase) {token : Token} {kind : Kind} {phase' : Phase}
    (known : token.kind? = some kind) (move : Move phase kind phase') :
    Keypad.record program token = program ++ [token] := by
  by_cases operand : kind = .operand
  · rw [operand] at known move
    rw [record_operand known, kept, h.phase_eq]
    split
    · rfl
    · rcases h.eq_nil_or_append with ⟨rfl, -⟩ | ⟨earlier, last, _, _, rfl, -, -, before⟩
      · rfl
      · exact absurd (move.isPending_of_operand before.ne_empty) ‹_›
  · rw [record_of_next known operand, h.phase_eq, move.next_eq]
    rfl

theorem recordAll_eq (h : Path program phase) : Keypad.recordAll [] program = program := by
  induction h with
  | nil => rfl
  | append below known move ih =>
      rw [recordAll_append_singleton, ih]
      exact below.record_eq_append known move

/-- The paths are the programs that stay what they are when they are entered
again. -/
theorem exists_iff_recordAll_eq : (∃ phase, Path program phase) ↔
    Keypad.recordAll [] program = program := by
  constructor
  · rintro ⟨phase, h⟩
    exact h.recordAll_eq
  · intro same
    exact same ▸ Path.recordAll program .nil

instance decExists (program : List Token) : Decidable (∃ phase, Path program phase) :=
  decidable_of_iff _ exists_iff_recordAll_eq.symm

end Path

theorem Engine.Reached.path {e : Engine} (h : e.Reached) : ∃ phase, Path e.program phase := by
  obtain ⟨format, calls, draws, rfl⟩ := h
  rw [callAll_apply]
  exact Path.callAll calls .nil

/-! ## The programs of a keypad -/

/-- The state of a replay of a program, with what is left of the numbers to draw. -/
def replayed (format : NumberFormat) (bindings : Bindings) (program : List Token) :
    Drawing Replay := do
  return Replay.blank.run (← entries format bindings program)

theorem phase_replayed (format : NumberFormat) (bindings : Bindings) (program : List Token)
    (draws : Draws) : (replayed format bindings program draws).1.phase = .ofProgram program :=
  (Engine.fresh bindings format |>.withProgram program).phase_replayWith bindings draws

/-- What a path says of its program, however it is read: every token has an effect
where it stands; no operand after the first finds nothing waiting, which would
reset the replay; and pressing the tokens in their order on a new engine gives
the program again. -/
structure Sound (program : List Token) : Prop where
  effective : ∀ {before after : List Token} {token : Token}, program = before ++ token :: after →
    ∀ (format : NumberFormat) (bindings : Bindings) (draws : Draws),
      let state := replayed format bindings before draws
      ∃ entry : Entry, (token.entry format bindings state.2).1 = some entry ∧
        (state.1.enter entry).isSome
  continues : ∀ {before after : List Token} {token : Token}, program = before ++ token :: after →
    before ≠ [] → token.kind? = some .operand →
    ∀ (format : NumberFormat) (bindings : Bindings) (draws : Draws),
      (replayed format bindings before draws).1.isPending
  rebuilt : ∀ (format : NumberFormat) (bindings : Bindings) (draws : Draws),
    ((Engine.fresh bindings format).enterAll program draws).1.program = program

theorem Path.sound {program : List Token} {phase : Phase} (h : Path program phase) :
    Sound program where
  effective := by
    intro before after token same format bindings draws state
    obtain ⟨phase', kind, phase'', below, known, move⟩ := h.cut same
    have kinds := Token.map_kind_entry format bindings state.2 token
    rw [known, Option.map_eq_some_iff] at kinds
    obtain ⟨entry, entered, rfl⟩ := kinds
    refine ⟨entry, entered, ?_⟩
    rw [Replay.isSome_enter, phase_replayed, below.phase_eq, move.next_eq]
    rfl
  continues := by
    intro before after token same begun operand format bindings draws
    obtain ⟨phase', kind, phase'', below, known, move⟩ := h.cut same
    obtain rfl : kind = .operand := Option.some.inj (known.symm.trans operand)
    rw [← Replay.isPending_phase, phase_replayed, below.phase_eq]
    exact move.isPending_of_operand (below.ne_empty begun)
  rebuilt := by
    intro format bindings draws
    rw [Engine.enterAll_apply]
    exact h.recordAll_eq

theorem Engine.callAll_enter (keys : List Token) :
    ∀ e : Engine, e.callAll (keys.map .enter) = e.enterAll keys := by
  induction keys with
  | nil => intro e; rfl
  | cons token keys ih =>
      intro e
      rw [enterAll_cons, enter_eq_entered]
      funext draws
      exact congrFun (ih _) _

/-- The programs of the engines that can be reached are the paths of the
automaton, and of each of them all that a path says is true. -/
theorem reached_iff_path (program : List Token) :
    ((∃ e : Engine, e.Reached ∧ e.program = program) ↔ ∃ phase, Path program phase) ∧
    ∀ e : Engine, e.Reached → e.program = program → Sound program := by
  refine ⟨⟨?_, ?_⟩, ?_⟩
  · rintro ⟨e, reached, rfl⟩
    exact reached.path
  · rintro ⟨phase, path⟩
    let format := FixedPoint.standard.toNumberFormat
    let draws : Draws := ⟨fun _ => 0, 0⟩
    refine ⟨_, ⟨format, program.map .enter, draws, rfl⟩, ?_⟩
    rw [Engine.callAll_enter]
    exact path.sound.rebuilt format ∅ draws
  · rintro e reached rfl
    obtain ⟨phase, path⟩ := reached.path
    exact path.sound

/-- `3 + x 5 √ =` is the program of an engine, although `5` comes in the place of
`x`; `7 + ×` is the program of none. -/
theorem reached_iff_path_replaced :
    (∃ program : List Token,
      program = [.operand (.value 3), .operation "+", .operand (.named "x"), .operand (.value 5),
        .operation "√", .operation "="] ∧
      (∃ e : Engine, e.Reached ∧ e.program = program) ∧ Sound program) ∧
    ¬ ∃ e : Engine, e.Reached ∧
      e.program = [.operand (.value 7), .operation "+", .operation "×"] := by
  constructor
  · obtain ⟨e, reached, same⟩ := (reached_iff_path [.operand (.value 3), .operation "+",
      .operand (.named "x"), .operand (.value 5), .operation "√", .operation "="]).1.mpr (by decide)
    exact ⟨_, rfl, ⟨e, reached, same⟩, (reached_iff_path _).2 e reached same⟩
  · intro entered
    exact absurd ((reached_iff_path _).1.mp entered) (by decide)

end Keypad
