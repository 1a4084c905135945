/-
# `Keypad.Proofs.Emptiness` — five ways to see that nothing was entered

Whether anything was entered can be asked in five ways, and each is answered from
something else:

| question | answered from |
| :-- | :-- |
| is there an entry? | the program |
| is there a result? | the accumulator, or the number of a waiting key |
| is there a description? | the fragments, put together |
| is there a line for the history? | the description |
| is there anything to take back? | the program |

They have the phase in common.  A program that was entered is a path, and a path that is
not empty has left the phase `empty` (`Path.program_eq_nil_iff`); out of that phase a
number is held (`Replay.result_eq_none_iff`); and there are fragments, in the shape that
the phase has (`Account.Shaped`).  But fragments may be empty texts, and then there is
nothing to read.  Two things keep them from it: the everyday format never writes nothing
of a number, whatever its settings (`FixedPoint.format_ne_empty`), and variables have
names.

`Engine.nothing_entered` is the main statement.  A program that is given and not entered
need not agree: that of a lone `√` has an entry and no result.
-/
import Keypad.Proofs.Automaton
import Keypad.Proofs.Fragments
import Keypad.Proofs.Independence
import Keypad.Proofs.Symmetry

namespace Keypad

open Calculation (spelled spelled_append spelled_cons)

/-! ## The everyday format -/

/-- Whatever the settings, there is something to read of every number. -/
theorem FixedPoint.format_ne_empty (s : FixedPoint) (x : Float) : s.format x ≠ "" := by
  cases nan : x.isNaN with
  | true =>
      rw [s.format_of_isNaN nan]
      decide
  | false =>
      cases finite : x.isFinite with
      | false =>
          rw [s.format_of_infinite finite nan]
          split <;> decide
      | true =>
          rw [s.format_of_finite finite]
          intro empty
          have no_text : (s.display x).text s.decimalSeparator = [] := by
            simpa using congrArg String.toList empty
          have no_digit := (List.append_eq_nil_iff.mp no_text).2
          exact (s.wellFormed_display x).unsigned_ne_nil s.decimalSeparator no_digit

/-! ## The phase, seen from the result and from the description -/

theorem Replay.result_eq_none_iff (r : Replay) : r.result = none ↔ r.phase = .empty := by
  obtain ⟨accumulator, pending, fragments⟩ := r
  cases accumulator <;> cases pending <;> simp [result, phase]

theorem Key.symbol_ne_empty (key : Key) : key.symbol ≠ "" := by
  have tried : ∀ key ∈ Key.all, key.symbol ≠ "" := by decide
  exact tried key key.mem_all

namespace Piece

/-- One piece with something to read in it is enough. -/
theorem spelled_ne_empty {pieces : List Piece} {piece : Piece} (mem : piece ∈ pieces)
    (some : piece.text ≠ "") : spelled (pieces.map text) ≠ "" := by
  obtain ⟨latest, earlier, rfl⟩ := List.append_of_mem mem
  rw [List.map_append, List.map_cons, spelled_append, spelled_cons]
  intro empty
  have below := (String.append_eq_empty_iff.mp empty).1
  exact some (String.append_eq_empty_iff.mp below).2

theorem spelled_ne_empty_of_binary (b : Binary) (operands row : List Piece) :
    spelled ((operands ++ .binary b :: row).map text) ≠ "" :=
  spelled_ne_empty (List.mem_append_right operands List.mem_cons_self)
    (Key.symbol_ne_empty (.binary b))

/-- In a row there is something to read. -/
theorem Row.spelled_ne_empty {row : List Piece} (h : Row (· ≠ "") row) :
    spelled (row.map text) ≠ "" := by
  cases h with
  | operand some => exact Piece.spelled_ne_empty List.mem_cons_self some
  | @wrapped u row _ =>
      have closed : closing ∈ wrapAll u row := List.mem_cons_self
      exact Piece.spelled_ne_empty closed (by decide)
  | @extended b operands row _ _ _ => exact spelled_ne_empty_of_binary b operands row

end Piece

/-- Where every operand has something to read, so has every phase but `empty`. -/
theorem Account.Shaped.description_eq_empty_iff {a : Account} (h : Shaped (· ≠ "") a) :
    a.replay.description = "" ↔ a.replay.phase = .empty := by
  show spelled a.replay.fragments = "" ↔ _
  cases h with
  | empty => exact iff_of_true rfl rfl
  | value x shape => exact iff_of_false shape.spelled_ne_empty Phase.noConfusion
  | @waiting w row _ _ =>
      have shown := Piece.spelled_ne_empty_of_binary w.operation [] row
      exact iff_of_false shown Phase.noConfusion
  | @second x w latest operands row _ _ _ =>
      have shown := Piece.spelled_ne_empty_of_binary w.operation (latest :: operands) row
      exact iff_of_false shown Phase.noConfusion

theorem Evaluation.line_eq_empty_iff (e : Evaluation) : e.line = "" ↔ e.description = "" := by
  rw [line]
  by_cases empty : e.description = ""
  · rw [if_pos (String.isEmpty_iff.mpr empty)]
    exact iff_of_true rfl empty
  · rw [if_neg (mt String.isEmpty_iff.mp empty)]
    refine iff_of_false ?_ empty
    intro joined
    exact empty (String.append_eq_empty_iff.mp joined).1

/-! ## Everyday use -/

/-- What is done to an engine in everyday use.  Variables have names, and the format is
the everyday one, in any of its settings. -/
def Call.Everyday : Call → Prop
  | .enter token => token ≠ .operand (.named "")
  | .setFormat format => ∃ s : FixedPoint, format = s.toNumberFormat
  | .undo | .clear | .setVariable _ _ | .evaluateUsing _ | .evaluateWith _ | .plot _ _ => True

namespace Engine

variable {e : Engine}

/-- An engine to which everyday use leads from a new one. -/
def Everyday (e : Engine) : Prop :=
  ∃ (s : FixedPoint) (calls : List Call) (draws : Draws), (∀ c ∈ calls, c.Everyday) ∧
    ((withFormat s.toNumberFormat).callAll calls draws).1 = e

theorem Everyday.reached (h : e.Everyday) : e.Reached := by
  obtain ⟨s, calls, draws, _, made⟩ := h
  exact ⟨s.toNumberFormat, calls, draws, made⟩

/-- Everything that is entered can be read. -/
structure Readable (e : Engine) : Prop where
  numbers : ∀ x : Float, e.format.format x ≠ ""
  names : .operand (.named "") ∉ e.program

namespace Readable

theorem call (h : e.Readable) : ∀ {c : Call}, c.Everyday → (c.engine e).Readable
  | .enter token, named => by
      refine ⟨h.numbers, fun mem => ?_⟩
      cases mem_of_mem_record mem with
      | inl earlier => exact h.names earlier
      | inr entered => exact named entered.1.symm
  | .setFormat _, ⟨s, rfl⟩ => ⟨s.format_ne_empty, h.names⟩
  | .undo, _ => ⟨h.numbers, fun mem => h.names (List.dropLast_subset _ mem)⟩
  | .clear, _ => ⟨h.numbers, List.not_mem_nil⟩
  | .setVariable _ _, _ | .evaluateUsing _, _ | .evaluateWith _, _ | .plot _ _, _ =>
      ⟨h.numbers, h.names⟩

theorem callAll {calls : List Call} (everyday : ∀ c ∈ calls, c.Everyday) :
    ∀ {e : Engine}, e.Readable → (calls.foldl Call.engine e).Readable := by
  induction calls with
  | nil => exact id
  | cons c calls ih =>
      intro e h
      obtain ⟨first, others⟩ := List.forall_mem_cons.mp everyday
      exact ih others (h.call first)

theorem text_ne_empty (h : e.Readable) {literal : Literal}
    (mem : .operand literal ∈ e.program) : literal.text e.format ≠ "" := by
  cases literal with
  | value x => exact h.numbers x
  | named name =>
      intro empty
      have unnamed : name = "" := empty
      exact h.names (unnamed ▸ mem)

/-- Of a program that can be read there is something to read, unless nothing was
entered. -/
theorem description_eq_empty_iff (h : e.Readable) (bindings : Bindings) (draws : Draws) :
    (e.replayWith bindings draws).1.description = "" ↔ Phase.ofProgram e.program = .empty := by
  let a := Account.blank.run (entries e.format bindings e.program draws).1
  have known : ∀ x text, .operand x text ∈ (entries e.format bindings e.program draws).1 →
      text ≠ "" := by
    intro x text mem
    cases operand_mem_entries e.program mem with
    | inl entered =>
        obtain ⟨literal, recorded, rfl⟩ := entered
        exact h.text_ne_empty recorded
    | inr symbol =>
        obtain ⟨key, rfl⟩ := symbol
        exact key.symbol_ne_empty
  have shaped : a.Shaped (· ≠ "") := Account.Shaped.empty.run known
  have same : a.replay = (e.replayWith bindings draws).1 := Account.replay_run _ _
  rw [← e.phase_replayWith bindings draws, ← same]
  exact shaped.description_eq_empty_iff

end Readable

theorem Everyday.readable (h : e.Everyday) : e.Readable := by
  obtain ⟨s, calls, draws, everyday, rfl⟩ := h
  rw [callAll_apply]
  exact Readable.callAll everyday ⟨s.format_ne_empty, List.not_mem_nil⟩

end Engine

/-! ## Five views of nothing -/

theorem Path.program_eq_nil_iff {program : List Token} {phase : Phase} (h : Path program phase) :
    program = [] ↔ Phase.ofProgram program = .empty := by
  constructor
  · rintro rfl
    rfl
  · intro empty
    by_contra some
    exact h.ne_empty some (h.phase_eq ▸ empty)

namespace Engine

theorem undo_eq_none_iff (e : Engine) (draws : Draws) :
    (e.undo draws).1.result = none ↔ e.program = [] := by
  rcases e.undo_cases draws with ⟨none, undone⟩ | ⟨earlier, token, program, undone⟩
  · rw [undone]
    exact iff_of_true rfl none
  · have some : e.program ≠ [] :=
      program ▸ List.append_ne_nil_of_right_ne_nil earlier (List.cons_ne_nil token [])
    rw [undone]
    exact iff_of_false (Option.some_ne_none _) some

/-- Of an engine in everyday use the program is empty if and only if there is no result,
if and only if there is no description, if and only if there is no line for a history,
if and only if there is nothing to take back; and it can be drawn if and only if there
is a result and nothing is waited for.  This is so under any bindings and whatever is
drawn. -/
theorem nothing_entered {e : Engine} (h : e.Everyday) (bindings : Bindings)
    (draws draws' : Draws) :
    [e.program = [],
      (e.evaluateWith bindings draws).1.result = none,
      (e.evaluateWith bindings draws).1.description = "",
      (e.evaluateWith bindings draws).1.line = "",
      (e.undo draws').1.result = none].TFAE ∧
    ((e.isPlottable draws').1 = true ↔
      (e.evaluateWith bindings draws).1.result.isSome = true ∧
        (e.evaluateWith bindings draws).1.isPending = false) := by
  obtain ⟨phase, path⟩ := h.reached.path
  -- Result, description and waiting are those of the phase, under any bindings.
  have result : (e.evaluateWith bindings draws).1.result = none
      ↔ Phase.ofProgram e.program = .empty := by
    rw [← e.phase_replayWith bindings draws]
    exact Replay.result_eq_none_iff _
  have described : (e.evaluateWith bindings draws).1.description = ""
      ↔ Phase.ofProgram e.program = .empty :=
    h.readable.description_eq_empty_iff bindings draws
  have pending : (e.evaluateWith bindings draws).1.isPending
      = (Phase.ofProgram e.program).isPending := by
    rw [← e.phase_replayWith bindings draws]
    exact (Replay.isPending_phase _).symm
  constructor
  · tfae_have 1 ↔ 2 := path.program_eq_nil_iff.trans result.symm
    tfae_have 2 ↔ 3 := result.trans described.symm
    tfae_have 3 ↔ 4 := (Evaluation.line_eq_empty_iff _).symm
    tfae_have 5 ↔ 1 := e.undo_eq_none_iff draws'
    tfae_finish
  · rw [isPlottable_apply, pending, Bool.and_eq_true, Bool.not_eq_true', Bool.not_eq_true',
      List.isEmpty_eq_false_iff, Option.isSome_iff_ne_none, ne_eq, ne_eq, result,
      path.program_eq_nil_iff]

/-- After `0.25 +` there is something to see in every way, and nothing to draw. -/
theorem nothing_entered_waiting :
    ∃ e : Engine, e.Everyday ∧ e.program = [.operand (.value 0.25), .operation "+"] ∧
      ∀ (bindings : Bindings) (draws : Draws),
        (e.evaluateWith bindings draws).1.line ≠ "" ∧ (e.undo draws).1.result ≠ none ∧
        (e.isPlottable draws).1 = false := by
  let s : FixedPoint := ⟨6, 0, 0, '.'⟩
  let calls : List Call := [.enter (.operand (.value 0.25)), .enter (.operation "+")]
  let e : Engine := calls.foldl Call.engine (withFormat s.toNumberFormat)
  have entered : e.program = [.operand (.value 0.25), .operation "+"] := by decide +kernel
  have named : ∀ c ∈ calls, c.Everyday := by simp [calls, Call.Everyday]
  have everyday : e.Everyday := ⟨s, calls, ⟨fun _ => 0, 0⟩, named, callAll_apply _ _ _⟩
  refine ⟨e, everyday, entered, fun bindings draws => ?_⟩
  obtain ⟨views, drawn⟩ := nothing_entered everyday bindings draws draws
  have some : e.program ≠ [] := entered ▸ List.cons_ne_nil _ _
  have waits : (e.evaluateWith bindings draws).1.isPending = true := rfl
  refine ⟨fun empty => some ((views.out 3 0).mp empty),
    fun empty => some ((views.out 4 0).mp empty), ?_⟩
  rw [Bool.eq_false_iff, ne_eq, drawn, waits]
  exact fun both => nomatch both.2

/-- A program that was given need not be one that was entered: here is an entry, and no
result. -/
example : ((new.withProgram [.operation "√"]).evaluate ⟨fun _ => 0, 0⟩).1.result = none := by
  decide +kernel

end Engine

end Keypad
