/-
# `Keypad.Proofs.Phase` — what a key needs to have an effect

Whether an entry has an effect depends on what is there to act on and never on a
number.  Four phases tell all that matters:

| phase | a binary key waits | the accumulator holds a number |
| :-- | :-- | :-- |
| `empty` | no | no |
| `value` | no | yes |
| `waiting` | yes | no |
| `second` | yes | yes |

and of an entry only its kind matters (`Phase.next`).  The phase of a replay
follows the kinds of its entries (`Replay.phase_run`), and those are known from
the tokens alone: under all bindings, all formats and all draws the same
(`map_kind_entries`).  So a program has a phase of its own (`Phase.ofProgram`).
-/
import Keypad.Evaluation

namespace Keypad

/-! ## Kinds of entries -/

/-- What sort of thing an entry is. -/
inductive Kind where
  | operand
  | unary
  | binary
  | equals
  deriving DecidableEq, Repr

def Entry.kind : Entry → Kind
  | .operand _ _ => .operand
  | .unary _ => .unary
  | .binary _ => .binary
  | .equals => .equals

def Key.kind : Key → Kind
  | .constant _ | .draw => .operand
  | .unary _ => .unary
  | .binary _ => .binary
  | .equals => .equals

/-- The kind of what a token amounts to; none, if it is the symbol of no key. -/
def Token.kind? : Token → Option Kind
  | .operand _ => some .operand
  | .operation symbol => (Key.ofSymbol? symbol).map Key.kind

theorem Token.kind?_symbol (key : Key) : (Token.operation key.symbol).kind? = some key.kind := by
  rw [kind?, Key.ofSymbol?_symbol]
  rfl

theorem Token.kind?_unknown {symbol : String} (h : Key.ofSymbol? symbol = none) :
    (Token.operation symbol).kind? = none := by
  rw [kind?, h]
  rfl

theorem Key.kind_entry (key : Key) (draws : Draws) : (key.entry draws).1.kind = key.kind := by
  cases key <;> rfl

theorem Token.map_kind_entry (format : NumberFormat) (bindings : Bindings) (draws : Draws) :
    ∀ token : Token, (token.entry format bindings draws).1.map Entry.kind = token.kind?
  | .operand (.value _) => rfl
  | .operand (.named _) => rfl
  | .operation symbol => by
      simp only [Token.entry, Token.kind?]
      cases Key.ofSymbol? symbol with
      | none => rfl
      | some key => exact congrArg some (Key.kind_entry key draws)

/-- The kinds of the entries of a program do not depend on how the program is
read. -/
theorem map_kind_entries (format : NumberFormat) (bindings : Bindings) :
    ∀ (program : List Token) (draws : Draws),
      (entries format bindings program draws).1.map Entry.kind = program.filterMap Token.kind?
  | [], _ => rfl
  | token :: program, draws => by
      have head := Token.map_kind_entry format bindings draws token
      have tail := map_kind_entries format bindings program (token.entry format bindings draws).2
      show ((token.entry format bindings draws).1.toList
        ++ (entries format bindings program (token.entry format bindings draws).2).1).map
          Entry.kind = _
      rw [List.map_append, tail, List.filterMap_cons, ← head]
      cases (token.entry format bindings draws).1 <;> rfl

/-! ## Phases -/

/-- What there is to act on. -/
inductive Phase where
  | empty
  | value
  | waiting
  | second
  deriving DecidableEq, Repr

namespace Phase

/-- The phase after an entry of some kind, if such an entry has an effect. -/
def next : Phase → Kind → Option Phase
  | .empty, .operand | .value, .operand => some .value
  | .waiting, .operand | .second, .operand => some .second
  | .value, .unary => some .value
  | .second, .unary => some .second
  | .value, .binary | .second, .binary => some .waiting
  | .second, .equals => some .value
  | _, _ => none

def step (phase : Phase) (kind : Kind) : Phase := (phase.next kind).getD phase

def isPending : Phase → Bool
  | .empty | .value => false
  | .waiting | .second => true

def press (phase : Phase) (token : Token) : Phase :=
  (token.kind?.map phase.step).getD phase

def ofProgram (program : List Token) : Phase := program.foldl press .empty

/-- An operand can always be entered. -/
theorem isSome_next_operand (phase : Phase) : (phase.next .operand).isSome := by
  cases phase <;> rfl

theorem foldl_step_filterMap_kind? (program : List Token) :
    ∀ phase : Phase,
      (program.filterMap Token.kind?).foldl step phase = program.foldl press phase := by
  induction program with
  | nil => intro phase; rfl
  | cons token program ih =>
      intro phase
      rw [List.foldl_cons, press, List.filterMap_cons]
      cases token.kind? <;> exact ih _

theorem ofProgram_append_singleton (program : List Token) (token : Token) :
    ofProgram (program ++ [token]) = (ofProgram program).press token := List.foldl_append

end Phase

/-! ## The phase of a replay -/

namespace Replay

/-- What there is to act on in a state of a replay. -/
def phase (r : Replay) : Phase :=
  match r.pending, r.accumulator with
  | none, none => .empty
  | none, some _ => .value
  | some _, none => .waiting
  | some _, some _ => .second

@[simp] theorem phase_blank : blank.phase = .empty := rfl

theorem isPending_phase (r : Replay) : r.phase.isPending = r.isPending := by
  obtain ⟨accumulator, pending, fragments⟩ := r
  cases accumulator <;> cases pending <;> rfl

/-- An entry has an effect exactly if the phase lets one of its kind have one,
and leads to the phase that follows. -/
theorem map_phase_enter (r : Replay) (entry : Entry) :
    (r.enter entry).map phase = r.phase.next entry.kind := by
  obtain ⟨accumulator, pending, fragments⟩ := r
  cases entry <;> cases accumulator <;> cases pending <;> rfl

theorem isSome_enter (r : Replay) (entry : Entry) :
    (r.enter entry).isSome = (r.phase.next entry.kind).isSome := by
  rw [← map_phase_enter, Option.isSome_map]

theorem phase_step (r : Replay) (entry : Entry) :
    (r.step entry).phase = r.phase.step entry.kind := by
  rw [step, Phase.step, ← map_phase_enter]
  cases r.enter entry <;> rfl

theorem phase_run (r : Replay) (es : List Entry) :
    (r.run es).phase = (es.map Entry.kind).foldl Phase.step r.phase := by
  induction es generalizing r with
  | nil => rfl
  | cons entry es ih =>
      rw [run_cons, ih, phase_step]
      rfl

end Replay

end Keypad
