/-
# `Keypad.Proofs.StoredProgram` — a stored program is a row of presses

A stored program may be any list of numbers and texts.  An engine that is given
one takes it over as it is: with keys that have nothing to act on, and with
expressions that were complete before others began.  An engine on which the same
entries are pressed one by one records less: it passes over such keys, and drops
what came before a new expression.

Nobody can tell the two apart (`stored_program_is_entered`), not by asking, nor by
pressing keys, binding variables, replacing all bindings or choosing another format
before asking again.  The programs differ, and stay different, so undoing would tell;
what they share is the state that they replay to, under all bindings and formats and
not only those of the moment (`Alike`).
-/
import Keypad.Proofs.Session

namespace Keypad

/-! ## Entries, pressed one by one -/

namespace Engine

/-- Enters what a stored entry stands for: a number, the key with that symbol, or
else the variable of that name. -/
def enterStored (e : Engine) : Primitive → Drawing Engine
  | .number x => do return (← e.enterNumber x).engine
  | .text s =>
    if (Key.ofSymbol? s).isSome then do return (← e.press s).engine
    else do return (← e.enterVariable s).engine

def enterAllStored (e : Engine) (stored : List Primitive) : Drawing Engine :=
  stored.foldlM enterStored e

theorem enterStored_eq (e : Engine) :
    ∀ p : Primitive, e.enterStored p = e.enter p.toToken
  | .number _ => rfl
  | .text s => by
      rw [enterStored, Primitive.toToken]
      split <;> rfl

theorem enterAllStored_eq (stored : List Primitive) :
    ∀ e : Engine, e.enterAllStored stored = e.enterAll (stored.map Primitive.toToken) := by
  induction stored with
  | nil => intro e; rfl
  | cons p stored ih =>
      intro e
      show e.enterStored p >>= (fun e' => e'.enterAllStored stored) = _
      rw [enterStored_eq, List.map_cons, enterAll_cons]
      exact congrArg (e.enter p.toToken >>= ·) (funext ih)

end Engine

/-- The key that draws is stored as its symbol, and nothing else is. -/
theorem Primitive.toToken_eq_ran {p : Primitive} (h : p.toToken = .ran) :
    p = .text (Key.symbol .draw) := by
  rw [← p.toPrimitive_toToken, h]
  rfl

/-! ## Engines that nobody can tell apart -/

/-- Two engines whose programs replay to the same state, in whatever way numbers are
written and whatever the variables are bound to. -/
structure Alike (a b : Engine) : Prop where
  format : a.format = b.format
  bindings : a.bindings = b.bindings
  left : .ran ∉ a.program
  right : .ran ∉ b.program
  replays : ∀ (format : NumberFormat) (bindings : Bindings),
    Replay.ofProgram format bindings a.program = .ofProgram format bindings b.program

namespace Alike

variable {a b : Engine}

theorem evaluate_eq (h : Alike a b) :
    ∃ evaluation : Evaluation, a.evaluate = pure evaluation ∧ b.evaluate = pure evaluation := by
  refine ⟨_, Engine.evaluateWith_eq_pure h.left a.bindings, ?_⟩
  rw [h.replays, h.format, h.bindings]
  exact Engine.evaluateWith_eq_pure h.right b.bindings

/-- A press has the same effect on both, though it may be recorded by one and
begin a new program with the other. -/
theorem enter (h : Alike a b) {token : Token} (certain : token ≠ .ran) :
    Alike (a.withProgram (record a.program token)) (b.withProgram (record b.program token)) where
  format := h.format
  bindings := h.bindings
  left := Replay.not_mem_record h.left certain
  right := Replay.not_mem_record h.right certain
  replays := fun format bindings => by
    show Replay.ofProgram format bindings (record a.program token)
      = .ofProgram format bindings (record b.program token)
    rw [Replay.ofProgram_record h.left certain, Replay.ofProgram_record h.right certain,
      h.replays]

theorem rebind (h : Alike a b) (bindings : Bindings) :
    Alike { a with bindings := bindings } { b with bindings := bindings } :=
  ⟨h.format, rfl, h.left, h.right, h.replays⟩

theorem clear (h : Alike a b) : Alike a.clear b.clear :=
  ⟨h.format, rfl, List.not_mem_nil, List.not_mem_nil, fun _ _ => rfl⟩

/-- What is done to both keeps them alike, except to undo: their last entries need not
be the same. -/
theorem engine (h : Alike a b) {c : Call} (drawless : c ≠ .enter .ran) (onward : c ≠ .undo) :
    Alike (c.engine a) (c.engine b) := by
  cases c with
  | enter token => exact h.enter fun same => drawless (congrArg Call.enter same)
  | undo => exact absurd rfl onward
  | clear => exact h.clear
  | setVariable name x =>
      have bound := h.rebind (a.bindings.insert name x)
      rw [Call.engine, Call.engine, Engine.setVariable, Engine.setVariable, ← h.bindings]
      exact bound
  | evaluateUsing bindings => exact h.rebind bindings
  | evaluateWith _ | plot _ _ => exact h
  | setFormat _ => exact ⟨rfl, h.bindings, h.left, h.right, h.replays⟩

theorem callAll (calls : List Call) :
    ∀ {a b : Engine}, Alike a b → .enter .ran ∉ calls → .undo ∉ calls →
      ∃ a' b' : Engine,
        a.callAll calls = pure a' ∧ b.callAll calls = pure b' ∧ Alike a' b' := by
  induction calls with
  | nil => intro a b h _ _; exact ⟨a, b, rfl, rfl, h⟩
  | cons c calls ih =>
      intro a b h certain onward
      rw [List.mem_cons, not_or] at certain onward
      obtain ⟨left, called, reached⟩ := Engine.call_eq_pure h.left (Ne.symm certain.1)
      obtain ⟨right, called', reached'⟩ := Engine.call_eq_pure h.right (Ne.symm certain.1)
      have next : Alike left.engine right.engine :=
        reached ▸ reached' ▸ h.engine (Ne.symm certain.1) (Ne.symm onward.1)
      rw [Engine.callAll_cons, Engine.callAll_cons, called, called', pure_bind, pure_bind]
      exact ih next certain.2 onward.2

/-- A program that is taken over, and what is kept of it when it is entered. -/
theorem recordAll (e : Engine) {program : List Token} (certain : .ran ∉ program) :
    Alike (e.withProgram program) (e.withProgram (recordAll [] program)) where
  format := rfl
  bindings := rfl
  left := certain
  right := Replay.not_mem_recordAll List.not_mem_nil certain
  replays := fun _ _ => (Replay.ofProgram_recordAll List.not_mem_nil certain).symm

end Alike

/-- An engine that is given a stored program, and one on which its entries are
pressed one by one, stand at the same point, and do so after all further calls, as
long as nothing is undone. -/
theorem stored_program_is_entered (e : Engine) {stored : List Primitive}
    (certain : .text "Ran" ∉ stored) {calls : List Call} (drawless : .enter .ran ∉ calls)
    (onward : .undo ∉ calls) :
    ∃ evaluation : Evaluation,
      (e.setProgram stored).engine.callAll calls >>= Engine.evaluate = pure evaluation ∧
      (e.withProgram []).enterAllStored stored >>= (fun e' =>
        e'.callAll calls >>= Engine.evaluate) = pure evaluation := by
  have tokens : .ran ∉ stored.map Primitive.toToken := by
    intro mem
    obtain ⟨p, stored, same⟩ := List.mem_map.mp mem
    exact certain (Primitive.toToken_eq_ran same ▸ stored)
  obtain ⟨a, b, left, right, alike⟩ := (Alike.recordAll e tokens).callAll calls drawless onward
  obtain ⟨evaluation, evaluated, evaluated'⟩ := alike.evaluate_eq
  refine ⟨evaluation, ?_, ?_⟩
  · show (e.withProgram (stored.map Primitive.toToken)).callAll calls >>= _ = _
    rw [left, pure_bind, evaluated]
  · rw [Engine.enterAllStored_eq, Engine.enterAll_eq_pure List.not_mem_nil tokens, pure_bind]
    show (e.withProgram (Keypad.recordAll [] (stored.map Primitive.toToken))).callAll calls
      >>= _ = _
    rw [right, pure_bind, evaluated']

/-- A stored program that begins with keys that have nothing to act on, and goes on
with one expression after another; then `+` is pressed and a variable is bound. -/
theorem stored_program_is_entered_garbled :
    ∃ (stored : List Primitive) (calls : List Call),
      stored = [.text "+", .text "=", .number 1, .number 2, .text "+", .text "x", .text "=",
        .text "y"] ∧
      calls = [.enter (.operation "+"), .setVariable "y" 5] ∧
      .text "Ran" ∉ stored ∧ .enter .ran ∉ calls ∧ .undo ∉ calls ∧
      ((Engine.fresh ∅ FixedPoint.standard.toNumberFormat).setProgram stored).engine.callAll
        calls >>= Engine.evaluate = pure ⟨some 5, true, "y+"⟩ ∧
      ((Engine.fresh ∅ FixedPoint.standard.toNumberFormat).withProgram []).enterAllStored stored
        >>= (fun e' => e'.callAll calls >>= Engine.evaluate)
        = pure ⟨some 5, true, "y+"⟩ := by
  have certain : .text "Ran" ∉ [Primitive.text "+", .text "=", .number 1, .number 2, .text "+",
      .text "x", .text "=", .text "y"] := by
    simp
  have drawless : .enter .ran ∉ [Call.enter (.operation "+"), .setVariable "y" 5] := by
    simp [Token.ran, Key.symbol]
  have onward : .undo ∉ [Call.enter (.operation "+"), .setVariable "y" 5] := by
    simp
  obtain ⟨evaluation, given, entered⟩ := stored_program_is_entered
    (Engine.fresh ∅ FixedPoint.standard.toNumberFormat) certain drawless onward
  have reached : evaluation = ⟨some 5, true, "y+"⟩ := by
    have same := congrArg Prod.fst (congrFun given ⟨fun _ => 0, 0⟩)
    exact same.symm.trans (by decide +kernel)
  subst reached
  exact ⟨_, _, rfl, rfl, certain, drawless, onward, given, entered⟩

end Keypad
