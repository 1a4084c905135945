/-
# `Keypad.Proofs.Parentheses` — every description closes what it opens

The opening and the closing of a pair around a whole expression are two fragments, far
apart, and a pair around a second operand is in one.  With the shape of the fragments
known (`Keypad.Proofs.Fragments`) this needs no more than that three things keep a text
balanced: a balanced text behind it, a pair around it, and a symbol, which has no
parenthesis in it.  An operand may bring its own, for the name of a variable can be any
text, and so can what a number is written as.

To count the parentheses the shape is not needed.  Each entry in effect adds to the
fragments what its text has, or a pair, and only an operand that begins a new expression
takes any away (`Account.countIn_step`).

`Replay.fragments_wellFormed` is the main statement of both modules.
-/
import Mathlib
import Keypad.Proofs.Fragments

namespace Keypad

open Calculation (spelled spelled_cons spelled_wrapAll)

/-! ## Balanced parentheses -/

/-- How deep in parentheses a reader is after a character.  A parenthesis that was not
opened cannot be closed. -/
def depthAfter (depth : Nat) (c : Char) : Option Nat :=
  if c = '(' then some (depth + 1)
  else if c = ')' then (if depth = 0 then none else some (depth - 1))
  else some depth

/-- Every parenthesis is opened before it is closed, and closed in the end. -/
def Balanced (text : String) : Prop := text.toList.foldlM depthAfter 0 = some 0

instance (text : String) : Decidable (Balanced text) := inferInstanceAs (Decidable (_ = _))

theorem depthAfter_add {depth after : Nat} {c : Char} (h : depthAfter depth c = some after)
    (outer : Nat) : depthAfter (depth + outer) c = some (after + outer) := by
  simp only [depthAfter] at h ⊢
  split at h
  case isTrue opens =>
      obtain rfl := Option.some.inj h
      rw [if_pos opens, Nat.add_right_comm]
  case isFalse not_opening =>
      rw [if_neg not_opening]
      split at h
      case isFalse other =>
          obtain rfl := Option.some.inj h
          rw [if_neg other]
      case isTrue closes =>
          split at h
          case isTrue _ => cases h
          case isFalse inside =>
              obtain rfl := Option.some.inj h
              have pos : 1 ≤ depth := Nat.one_le_iff_ne_zero.mpr inside
              rw [if_pos closes, if_neg (by omega), Nat.sub_add_comm pos]

/-- What is read inside of parentheses is read as it would be outside. -/
theorem foldlM_depthAfter_add (outer : Nat) (cs : List Char) :
    ∀ {depth after : Nat}, cs.foldlM depthAfter depth = some after →
      cs.foldlM depthAfter (depth + outer) = some (after + outer) := by
  induction cs with
  | nil =>
      intro depth after h
      exact congrArg some (congrArg (· + outer) (Option.some.inj h))
  | cons c cs ih =>
      intro depth after h
      rw [List.foldlM_cons] at h ⊢
      obtain ⟨next, here, onward⟩ := Option.bind_eq_some_iff.mp h
      rw [depthAfter_add here outer]
      exact ih onward

namespace Balanced

variable {s t : String}

theorem foldlM_eq (h : Balanced s) (depth : Nat) :
    s.toList.foldlM depthAfter depth = some depth := by
  have inside := foldlM_depthAfter_add depth s.toList h
  rw [Nat.zero_add] at inside
  exact inside

theorem append (hs : Balanced s) (ht : Balanced t) : Balanced (s ++ t) := by
  rw [Balanced, String.toList_append, List.foldlM_append, hs]
  exact ht

theorem enclosed (h : Balanced s) : Balanced ("(" ++ s ++ ")") := by
  have inside := h.foldlM_eq 1
  rw [Balanced, String.toList_append, String.toList_append, List.foldlM_append, List.foldlM_append]
  show ((s.toList.foldlM depthAfter 1).bind fun depth => [')'].foldlM depthAfter depth) = some 0
  rw [inside]
  rfl

end Balanced

theorem Key.balanced_symbol (key : Key) : Balanced key.symbol := by
  have tried : ∀ key ∈ Key.all, Balanced key.symbol := by decide
  exact tried key key.mem_all

theorem Unary.balanced_wrapped (u : Unary) {text : String} (h : Balanced text) :
    Balanced (u.symbol ++ "(" ++ text ++ ")") := by
  have grouped : u.symbol ++ "(" ++ text ++ ")" = u.symbol ++ ("(" ++ text ++ ")") := by
    simp only [String.append_assoc]
  rw [grouped]
  exact (Key.balanced_symbol (.unary u)).append h.enclosed

namespace Piece

theorem Complete.balanced {piece : Piece} (h : Complete Balanced piece) : Balanced piece.text := by
  induction h with
  | operand entered => exact entered
  | wrapped u _ ih => exact u.balanced_wrapped ih

/-- Whole operands above a symbol add nothing that is not balanced. -/
theorem balanced_extended (b : Binary) {operands row : List Piece}
    (complete : ∀ piece ∈ operands, Complete Balanced piece)
    (below : Balanced (spelled (row.map text))) :
    Balanced (spelled ((operands ++ .binary b :: row).map text)) := by
  induction operands with
  | nil =>
      rw [List.nil_append, List.map_cons, spelled_cons]
      exact below.append (Key.balanced_symbol (.binary b))
  | cons latest operands ih =>
      obtain ⟨last, others⟩ := List.forall_mem_cons.mp complete
      rw [List.cons_append, List.map_cons, spelled_cons]
      exact (ih others).append last.balanced

theorem Row.balanced {row : List Piece} (h : Row Balanced row) :
    Balanced (spelled (row.map text)) := by
  induction h with
  | @operand entered balanced =>
      rw [List.map_singleton, spelled_cons]
      exact Balanced.append (s := "") rfl balanced
  | wrapped u _ ih =>
      rw [map_text_wrapAll, spelled_wrapAll]
      exact u.balanced_wrapped ih
  | extended b _ complete _ ih => exact balanced_extended b complete ih

end Piece

theorem Account.Shaped.balanced {a : Account} (h : Shaped Balanced a) :
    Balanced a.replay.description := by
  show Balanced (spelled a.replay.fragments)
  cases h with
  | empty => rfl
  | value _ shape => exact shape.balanced
  | waiting w shape =>
      -- Said first, for nobody would find `[] ++ _` in the goal.
      have nothing : ∀ piece ∈ ([] : List Piece), piece.Complete Balanced := List.forall_mem_nil _
      have whole := Piece.balanced_extended w.operation nothing shape.balanced
      exact whole
  | second _ w complete shape => exact Piece.balanced_extended w.operation complete shape.balanced

/-! ## One pair for every unary key -/

/-- How many of a parenthesis there are in fragments. -/
def countIn (c : Char) (fragments : List String) : Nat := (fragments.map (·.toList.count c)).sum

/-- How many of a parenthesis an entry adds. -/
def Entry.adds (c : Char) : Entry → Nat
  | .operand _ text => text.toList.count c
  | .unary _ => 1
  | .binary _ | .equals => 0

section

variable {c : Char}

theorem count_spelled (fragments : List String) :
    (spelled fragments).toList.count c = countIn c fragments := by
  induction fragments with
  | nil => rfl
  | cons latest earlier ih =>
      rw [spelled_cons, String.toList_append, List.count_append, ih, Nat.add_comm]
      rfl

/-- The operands and the unary keys make up all of it. -/
theorem sum_adds (es : List Entry) :
    (es.map (Entry.adds c)).sum
      = ((es.filterMap Entry.text?).map (·.toList.count c)).sum
        + (es.map Entry.kind).count .unary := by
  induction es with
  | nil => rfl
  | cons entry es ih =>
      rw [List.map_cons, List.sum_cons, ih, List.map_cons, List.count_cons]
      cases entry with
      | operand x text => exact (Nat.add_assoc _ _ _).symm
      | unary u => exact (Nat.add_comm _ _).trans (Nat.add_assoc _ _ _)
      | binary b => exact Nat.zero_add _
      | equals => exact Nat.zero_add _

variable (paren : c = '(' ∨ c = ')')
include paren

/-- No symbol has a parenthesis in it. -/
theorem Key.count_symbol (key : Key) : key.symbol.toList.count c = 0 := by
  have tried : ∀ key ∈ Key.all,
      key.symbol.toList.count '(' = 0 ∧ key.symbol.toList.count ')' = 0 := by decide
  cases paren with
  | inl opens => exact opens ▸ (tried key key.mem_all).1
  | inr closes => exact closes ▸ (tried key key.mem_all).2

/-- A pair of parentheses counts one of either. -/
theorem count_pair : "(".toList.count c + ")".toList.count c = 1 := by
  cases paren with
  | inl opens => subst opens; rfl
  | inr closes => subst closes; rfl

theorem countIn_wrapLatest (u : Unary) (fragments : List String) :
    countIn c (Replay.wrapLatest u.symbol fragments) = 1 + countIn c fragments := by
  have symbol : u.symbol.toList.count c = 0 := Key.count_symbol paren (.unary u)
  have pair := count_pair paren
  cases fragments with
  | nil =>
      simp only [countIn, Replay.wrapLatest, List.map_cons, List.map_nil, List.sum_cons,
        List.sum_nil, String.toList_append, List.count_append]
      omega
  | cons latest earlier =>
      simp only [countIn, Replay.wrapLatest, List.map_cons, List.sum_cons,
        String.toList_append, List.count_append]
      omega

theorem countIn_wrapAll (u : Unary) (fragments : List String) :
    countIn c (Replay.wrapAll u.symbol fragments) = 1 + countIn c fragments := by
  have symbol : u.symbol.toList.count c = 0 := Key.count_symbol paren (.unary u)
  have pair := count_pair paren
  simp only [countIn, Replay.wrapAll, List.map_cons, List.map_append, List.map_nil, List.sum_cons,
    List.sum_append, List.sum_nil, String.toList_append, List.count_append]
  omega

namespace Account

/-- Every parenthesis in the fragments was added by an entry in effect. -/
theorem countIn_step {a : Account}
    (h : countIn c a.replay.fragments = (a.since.map (Entry.adds c)).sum) (entry : Entry) :
    countIn c (a.step entry).replay.fragments = ((a.step entry).since.map (Entry.adds c)).sum := by
  obtain ⟨⟨accumulator, pending, fragments⟩, pieces, since⟩ := a
  cases entry with
  | operand x text =>
      cases pending with
      | none => rfl
      | some w => exact congrArg (text.toList.count c + ·) h
  | unary u =>
      cases accumulator with
      | none => exact h
      | some x =>
          cases pending with
          | none => exact (countIn_wrapAll paren u fragments).trans (congrArg (1 + ·) h)
          | some w => exact (countIn_wrapLatest paren u fragments).trans (congrArg (1 + ·) h)
  | binary b =>
      cases accumulator with
      | none => exact h
      | some x =>
          have symbol : b.symbol.toList.count c = 0 := Key.count_symbol paren (.binary b)
          show b.symbol.toList.count c + countIn c fragments = 0 + _
          rw [symbol]
          exact congrArg (0 + ·) h
  | equals =>
      cases accumulator <;> cases pending
      case some.some x w => exact h.trans (Nat.zero_add _).symm
      all_goals exact h

theorem countIn_run (es : List Entry) :
    ∀ {a : Account}, countIn c a.replay.fragments = (a.since.map (Entry.adds c)).sum →
      countIn c (a.run es).replay.fragments = ((a.run es).since.map (Entry.adds c)).sum := by
  induction es with
  | nil => exact id
  | cons entry es ih =>
      intro a h
      exact ih (countIn_step paren h entry)

end Account

end

/-! ## Every replay -/

/-- A replay that has come some way through its entries.  The fragments are the texts
of the pieces, and there are none exactly if there is neither a number nor a waiting
key.  While a key waits, its symbol is the last binary one: above it there are whole
operands only, and there is one exactly if the accumulator holds a number.  So a unary
key takes a whole operand off, and never finds nothing to take.  The description is
balanced if the operands are; its parentheses are those of the operands entered since
the last new expression and one pair for every unary key in effect since then.  What
has no effect leaves everything as it was. -/
theorem Replay.fragments_wellFormed (e : Engine) (bindings : Bindings) (draws : Draws) (way : Nat) :
    let es := (entries e.format bindings e.program draws).1
    let a := Account.blank.run (es.take way)
    let Entered := fun text : String => ∃ x : Float, Entry.operand x text ∈ es.take way
    (e.replayWith bindings draws).1 = a.replay.run (es.drop way) ∧
    Replay.operateAll (es.take way) .blank = ((), a.replay) ∧
    a.replay.fragments = a.pieces.map Piece.text ∧
    (a.replay.fragments = [] ↔ a.replay.accumulator = none ∧ a.replay.pending = none) ∧
    (∀ w : Pending, a.replay.pending = some w →
      ∃ operands row : List Piece, a.pieces = operands ++ .binary w.operation :: row ∧
        (∀ piece ∈ operands, piece.Complete Entered) ∧
        (a.replay.accumulator.isSome = true ↔ operands ≠ [])) ∧
    (∀ (w : Pending) (u : Unary), a.replay.pending = some w →
      a.replay.accumulator.isSome = true →
      ∃ (latest : Piece) (earlier : List Piece), a.pieces = latest :: earlier ∧
        latest.Complete Entered ∧ (Replay.pop a.replay).1 = some latest.text ∧
        (Replay.operate (.unary u) a.replay).2.fragments
          = (.wrapped u latest :: earlier).map Piece.text) ∧
    ((∀ literal, Token.operand literal ∈ e.program → Balanced (literal.text e.format)) →
      Balanced a.replay.description) ∧
    (∀ c : Char, c = '(' ∨ c = ')' →
      a.replay.description.toList.count c
        = ((a.since.filterMap Entry.text?).map (·.toList.count c)).sum
          + (a.since.map Entry.kind).count .unary) ∧
    ∀ entry : Entry, (Replay.operate entry a.replay).1 = false →
      (Replay.operate entry a.replay).2 = a.replay := by
  intro es a Entered
  have state : a.replay = Replay.blank.run (es.take way) := Account.replay_run _ _
  have shaped : a.Shaped Entered := Account.Shaped.empty.run fun x _ mem => ⟨x, mem⟩
  refine ⟨?_, ?_, shaped.fragments_eq, shaped.fragments_eq_nil_iff, fun w => shaped.of_pending,
    fun w u waits held => shaped.pop_eq waits held u, ?_, ?_,
    fun entry => Replay.operate_of_no_effect⟩
  · rw [state, ← Replay.run_append, List.take_append_drop]
    rfl
  · rw [state]
    exact Replay.operateAll_eq _ _
  · intro operands
    have known : ∀ x text, Entry.operand x text ∈ es.take way → Balanced text := by
      intro x text mem
      cases operand_mem_entries e.program (List.mem_of_mem_take mem) with
      | inl entered =>
          obtain ⟨literal, recorded, rfl⟩ := entered
          exact operands literal recorded
      | inr symbol =>
          obtain ⟨key, rfl⟩ := symbol
          exact key.balanced_symbol
    exact (Account.Shaped.empty.run known).balanced
  · intro c paren
    have counted : countIn c a.replay.fragments = (a.since.map (Entry.adds c)).sum :=
      Account.countIn_run paren _ rfl
    rw [← sum_adds, ← counted]
    exact count_spelled a.replay.fragments

/-- Two operands of which the first is in parentheses already, and wrapped; the second
is at hand for the next unary key. -/
theorem Replay.fragments_wellFormed_second :
    ∃ (e : Engine) (a : Account),
      a = Account.blank.run ((entries e.format ∅ e.program ⟨fun _ => 0, 0⟩).1.take 4) ∧
      a.replay.description = "√((y))+x" ∧ Balanced a.replay.description ∧
      ∃ latest : Piece, (Replay.pop a.replay).1 = some latest.text ∧
        (Replay.operate (.unary .cosine) a.replay).2.description = "√((y))+cos(x)" := by
  let e : Engine := ⟨[.operand (.named "(y)"), .operation "√", .operation "+",
    .operand (.named "x"), .operation "cos"], ∅, FixedPoint.standard.toNumberFormat⟩
  have known : (entries e.format ∅ e.program ⟨fun _ => 0, 0⟩).1.take 4
      = [.operand (Bindings.value ∅ "(y)") "(y)", .unary .squareRoot, .binary .plus,
        .operand (Bindings.value ∅ "x") "x"] := rfl
  have operands : ∀ literal, Token.operand literal ∈ e.program →
      Balanced (literal.text e.format) := by
    intro literal recorded
    have names : literal = .named "(y)" ∨ literal = .named "x" := by simpa [e] using recorded
    rcases names with rfl | rfl <;> decide
  obtain ⟨-, -, -, -, -, pops, balances, -⟩ := fragments_wellFormed e ∅ ⟨fun _ => 0, 0⟩ 4
  have balanced := balances operands
  rw [known] at pops balanced
  obtain ⟨latest, -, -, -, popped, -⟩ := pops _ .cosine rfl rfl
  refine ⟨e, _, rfl, ?_⟩
  rw [known]
  exact ⟨by decide +kernel, balanced, latest, popped, by decide +kernel⟩

end Keypad
