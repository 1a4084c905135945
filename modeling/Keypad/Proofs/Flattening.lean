/-
# `Keypad.Proofs.Flattening` — what is lost when a program is flattened

The stored form of a program knows numbers and texts.  Given to an engine and taken from it
again a list of these is what it was (`stored_setProgram`), for whatever a text is taken
for, it is stored as that text.

The other way round something may be lost: a text that a program is flattened to may be the
symbol of a key or the name of a variable, and the table of keys decides.  Keys are safe.
No session records a symbol that is not in the table, nor does a program that is given or
loaded (`Engine.Made.isSome_ofSymbol?`), so none is passed over when the program is
replayed.  Of the variables those that bear the symbol of a key are taken for that key, and
this is all that ever changes (`Token.retold`).
-/
import Keypad.Proofs.Saving

namespace Keypad

/-! ## One entry -/

/-- What a token is taken for after it was flattened. -/
def Token.retold : Token → Token
  | .operand (.named name) =>
    if (Key.ofSymbol? name).isSome then .operation name else .operand (.named name)
  | token => token

theorem Token.toToken_toPrimitive :
    ∀ {t : Token}, (∀ symbol : String, t = .operation symbol → (Key.ofSymbol? symbol).isSome) →
      t.toPrimitive.toToken = t.retold
  | .operand (.value _), _ => rfl
  | .operand (.named _), _ => rfl
  | .operation symbol, known => if_pos (known symbol rfl)

theorem Token.retold_eq_self_iff {t : Token} :
    t.retold = t ↔ ∀ name : String, t = .operand (.named name) → Key.ofSymbol? name = none := by
  cases t with
  | operation symbol => exact iff_of_true rfl fun _ other => Token.noConfusion other
  | operand literal =>
      cases literal with
      | value x => exact iff_of_true rfl fun _ other => by cases other
      | named name =>
          rw [retold]
          constructor
          · rintro kept _ ⟨⟩
            by_contra bears
            rw [if_pos (Option.isSome_iff_ne_none.mpr bears)] at kept
            cases kept
          · intro free
            rw [free name rfl]
            rfl

/-! ## A program -/

theorem map_retold_eq_iff {program : List Token} :
    program.map Token.retold = program ↔
      ∀ name : String, .operand (.named name) ∈ program → Key.ofSymbol? name = none := by
  rw [map_eq_self_iff]
  constructor
  · intro kept name mem
    exact Token.retold_eq_self_iff.mp (kept _ mem) name rfl
  · intro free t mem
    refine Token.retold_eq_self_iff.mpr ?_
    rintro name rfl
    exact free name mem

/-- Where all symbols are those of keys a replay passes over no token. -/
theorem length_entries {program : List Token}
    (known : ∀ symbol : String, .operation symbol ∈ program → (Key.ofSymbol? symbol).isSome)
    (format : NumberFormat) (bindings : Bindings) (draws : Draws) :
    (entries format bindings program draws).1.length = program.length := by
  have kinds := congrArg List.length (map_kind_entries format bindings program draws)
  rw [List.length_map] at kinds
  rw [kinds, List.filterMap_length_eq_length]
  intro t mem
  cases t with
  | operand literal => rfl
  | operation symbol => exact Option.isSome_map.trans (known symbol mem)

namespace Engine

theorem stored_setProgram (e : Engine) (stored : List Primitive) :
    (e.setProgram stored).engine.stored = stored := by
  rw [Engine.stored, setProgram, List.map_map]
  exact (List.map_congr_left fun p _ => p.toPrimitive_toToken).trans (List.map_id stored)

theorem Made.setProgram_stored {e : Engine} (made : e.Made) :
    (e.setProgram e.stored).engine = e.withProgram (e.program.map Token.retold) := by
  have retold : e.stored.map Primitive.toToken = e.program.map Token.retold := by
    rw [stored, List.map_map]
    refine List.map_congr_left fun t mem => Token.toToken_toPrimitive ?_
    rintro symbol rfl
    exact made.isSome_ofSymbol? mem
  exact congrArg e.withProgram retold

/-- A list of numbers and texts comes back from an engine as it was given.  In an engine
that sessions, given programs and loaded ones led to every symbol is that of a key, so no
token is passed over in a replay.  Flattened and given back its program is the same but for
the variables that bear the symbol of a key, each of which turns into that key; so it is
the same just if there is none. -/
theorem flattened_program :
    (∀ (e : Engine) (stored : List Primitive), (e.setProgram stored).engine.stored = stored) ∧
    ∀ e : Engine, e.Made →
      (∀ (σ : Type) [TextStore σ] (store : σ) (key : String) (outcome : Outcome Bool),
        e.load store key = .ok outcome → outcome.engine.Made) ∧
      (∀ symbol : String, .operation symbol ∈ e.program → (Key.ofSymbol? symbol).isSome) ∧
      (∀ (format : NumberFormat) (bindings : Bindings) (draws : Draws),
        (entries format bindings e.program draws).1.length = e.program.length) ∧
      (e.setProgram e.stored).engine = e.withProgram (e.program.map Token.retold) ∧
      ((e.setProgram e.stored).engine.program = e.program ↔
        ∀ name : String, .operand (.named name) ∈ e.program → Key.ofSymbol? name = none) := by
  refine ⟨stored_setProgram, fun e made => ⟨fun σ _ store key outcome loaded => made.load loaded,
    fun symbol => made.isSome_ofSymbol?, length_entries fun symbol => made.isSome_ofSymbol?,
    made.setProgram_stored, ?_⟩⟩
  rw [made.setProgram_stored]
  exact map_retold_eq_iff

/-- A variable that bears the symbol of a key, beside one that does not and a key; and a
program that takes its place when it is loaded. -/
theorem flattened_program_clash :
    ∃ (e : Engine) (store : MemoryStore) (outcome : Outcome Bool),
      e.Made ∧
      e.program = [.operand (.value 2), .operation "+", .operand (.named "√"),
        .operand (.named "x")] ∧
      e.load store "k" = .ok outcome ∧ outcome.engine.Made ∧
      .operation "+" ∈ e.program ∧ (Key.ofSymbol? "+").isSome ∧
      (e.setProgram e.stored).engine.program = [.operand (.value 2), .operation "+",
        .operation "√", .operand (.named "x")] ∧
      ¬ ∀ name : String, .operand (.named name) ∈ e.program → Key.ofSymbol? name = none := by
  let keys : List Token :=
    [.operand (.value 2), .operation "+", .operand (.named "√"), .operand (.named "x")]
  let press (e : Engine) (token : Token) : Engine :=
    (e.call (.enter token) ⟨fun _ => 0, 0⟩).1.engine
  let e := keys.foldl press (withFormat FixedPoint.standard.toNumberFormat)
  have made : e.Made := ((((Made.new _).call _ _).call _ _).call _ _).call _ _
  have program : e.program = keys := by decide +kernel
  have plus : .operation "+" ∈ e.program := by
    rw [program]
    simp [keys]
  obtain ⟨loaded, known, -, again, same⟩ := flattened_program.2 e made
  have read : Stored.read "[1]" = some [.number 1] := by decide +kernel
  obtain ⟨outcome, load⟩ : ∃ outcome : Outcome Bool,
      e.load (TextStore.set MemoryStore.empty "k" "[1]") "k" = .ok outcome :=
    ⟨_, load_of_on (loadFrom_of_read (LawfulTextStore.get_set_self ..) read)⟩
  have changed : (e.setProgram e.stored).engine.program = [.operand (.value 2), .operation "+",
      .operation "√", .operand (.named "x")] := by
    rw [again, program]
    decide +kernel
  refine ⟨e, _, outcome, made, program, load, loaded _ _ _ _ load, plus, known "+" plus,
    changed, ?_⟩
  rw [← same, changed, program]
  decide +kernel

end Engine

end Keypad
