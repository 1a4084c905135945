/-
# `Keypad.Proofs.Saving` — what comes back when a program is saved and loaded

Saving writes the program down and loading reads the text.  Keys and variables come
back as they were, as long as no variable bears the symbol of a key.  A number comes
back as what its text is read as, and this is where saving can lose something: the
text of a number names it exactly, but the reading of the text is quick and may miss
the number by the last place.  So a program is restored if and only if each of its
numbers survives (`Engine.load_saved`), and numbers with few digits do
(`ReadsExactly`).
-/
import Keypad.Proofs.Independence
import Keypad.Proofs.StoredText
import Keypad.Store

namespace Keypad

/-! ## Engines that come about -/

/-- An engine that a session leads to in which programs may be given as well.
Loading is giving what was read (`Made.load`). -/
inductive Engine.Made : Engine → Prop
  | new (format : NumberFormat) : Made (withFormat format)
  | call {e : Engine} (c : Call) (draws : Draws) : Made e → Made (e.call c draws).1.engine
  | setProgram {e : Engine} (stored : List Primitive) : Made e → Made (e.setProgram stored).engine

namespace Engine.Made

variable {e : Engine}

theorem load {σ : Type} [TextStore σ] (made : e.Made) {store : σ} {key : String}
    {outcome : Outcome Bool} (loaded : e.load store key = .ok outcome) : outcome.engine.Made := by
  rcases loadFrom_cases e store key with ⟨-, went⟩ | ⟨text, -, ⟨-, went⟩ | ⟨program, -, went⟩⟩
  · cases (load_of_on went).symm.trans loaded
    exact made
  · cases (load_of_on went).symm.trans loaded
  · cases (load_of_on went).symm.trans loaded
    exact made.setProgram program

/-- The symbols in a program are those of keys. -/
theorem isSome_ofSymbol? (made : e.Made) {symbol : String}
    (mem : .operation symbol ∈ e.program) : (Key.ofSymbol? symbol).isSome := by
  induction made with
  | new format => exact absurd mem List.not_mem_nil
  | @call e c draws _ ih =>
      rw [engine_call] at mem
      cases c with
      | enter token =>
          rcases mem_of_mem_record mem with earlier | ⟨rfl, known⟩
          · exact ih earlier
          · cases unknown : Key.ofSymbol? symbol with
            | some key => rfl
            | none =>
                rw [Token.kind?_unknown unknown] at known
                cases known
      | undo => exact ih (List.dropLast_subset _ mem)
      | clear => exact absurd mem List.not_mem_nil
      | setVariable _ _ | evaluateUsing _ | evaluateWith _ | plot _ _ | setFormat _ => exact ih mem
  | setProgram stored _ _ =>
      obtain ⟨p, _, same⟩ := List.mem_map.mp mem
      cases p with
      | number x => cases same
      | text s =>
          rw [Primitive.toToken] at same
          split at same
          · rename_i known
            cases same
            exact known
          · cases same

end Engine.Made

/-! ## Programs that are stored and read -/

/-- A token after it was stored and read. -/
def Token.reread : Token → Token
  | .operand (.value x) => .operand (.value (Json.reread x))
  | token => token

/-- The way through the store, of a key or of a variable that bears the symbol of
none. -/
theorem Token.toToken_reread :
    ∀ {t : Token}, (∀ symbol : String, t = .operation symbol → (Key.ofSymbol? symbol).isSome) →
      (∀ name : String, t = .operand (.named name) → Key.ofSymbol? name = none) →
      (Stored.reread t.toPrimitive).toToken = t.reread
  | .operand (.value _), _, _ => rfl
  | .operand (.named name), _, free => by
      rw [toPrimitive, Stored.reread, Primitive.toToken, free name rfl]
      rfl
  | .operation symbol, known, _ => by
      rw [toPrimitive, Stored.reread, Primitive.toToken, if_pos (known symbol rfl)]
      rfl

/-- A change of single entries leaves a program as it is if it does so with each of
them. -/
theorem map_eq_self_iff {change : Token → Token} {program : List Token} :
    program.map change = program ↔ ∀ t ∈ program, change t = t := by
  have pointwise := List.map_inj_left (l := program) (f := change) (g := id)
  rwa [List.map_id] at pointwise

theorem map_reread_eq_iff {program : List Token} :
    program.map Token.reread = program ↔
      ∀ x : Float, .operand (.value x) ∈ program → Json.reread x = x := by
  rw [map_eq_self_iff]
  constructor
  · intro kept x mem
    exact Literal.value.inj (Token.operand.inj (kept _ mem))
  · intro kept t mem
    cases t with
    | operation symbol => rfl
    | operand literal =>
        cases literal with
        | named name => rfl
        | value x => rw [Token.reread, kept x mem]

/-- Two engines that give the same answers under the same bindings, but for the way
in which numbers are written in a description. -/
structure AnswersAlike (a b : Engine) : Prop where
  result : ∀ (bindings : Bindings) (draws : Draws),
    (a.evaluateWith bindings draws).1.result = (b.evaluateWith bindings draws).1.result
  isPending : ∀ (bindings : Bindings) (draws : Draws),
    (a.evaluateWith bindings draws).1.isPending = (b.evaluateWith bindings draws).1.isPending
  evaluation : a.format = b.format →
    ∀ bindings : Bindings, a.evaluateWith bindings = b.evaluateWith bindings

theorem answersAlike_of_program_eq {a b : Engine} (same : a.program = b.program) :
    AnswersAlike a b := by
  have evaluation (format : NumberFormat) (bindings : Bindings) :
      (a.setFormat format).evaluateWith bindings = (b.setFormat format).evaluateWith bindings := by
    rw [Engine.evaluateWith, Engine.evaluateWith, Engine.replayWith, Engine.replayWith]
    simp only [Engine.setFormat, same]
  refine ⟨fun bindings draws => ?_, fun bindings draws => ?_, fun alike bindings => ?_⟩
  · rw [← a.result_setFormat_evaluateWith b.format, evaluation]
    rfl
  · show (a.replayWith bindings draws).1.isPending = (b.replayWith bindings draws).1.isPending
    rw [← Replay.isPending_phase, ← Replay.isPending_phase, Engine.phase_replayWith,
      Engine.phase_replayWith, same]
  · calc a.evaluateWith bindings = (b.setFormat a.format).evaluateWith bindings :=
          evaluation a.format bindings
      _ = (b.setFormat b.format).evaluateWith bindings := by rw [alike]

namespace Engine

variable {σ : Type} [TextStore σ] {e : Engine}

theorem writable_stored
    (finite : ∀ x : Float, .operand (.value x) ∈ e.program → x.isFinite = true) :
    ∀ p ∈ e.stored, Stored.Writable p := by
  intro p mem
  obtain ⟨t, entered, rfl⟩ := List.mem_map.mp mem
  cases t with
  | operation symbol => trivial
  | operand literal =>
      cases literal with
      | named name => trivial
      | value x => exact finite x entered

/-- A program of finite numbers is saved. -/
theorem save_eq (finite : ∀ x : Float, .operand (.value x) ∈ e.program → x.isFinite = true)
    (store : σ) (key : String) :
    e.save store key = (.ok (TextStore.set store key (Stored.write e.stored)),
      [.saved key e.program.length]) :=
  save_of_on (saveIn_of_finite (Stored.firstNonFinite_eq_none (writable_stored finite)))

/-- What was saved is loaded, entry by entry. -/
theorem exists_load_eq [LawfulTextStore σ]
    (finite : ∀ x : Float, .operand (.value x) ∈ e.program → x.isFinite = true)
    (store : σ) (key : String) (other : Engine) :
    ∃ events, other.load (TextStore.set store key (Stored.write e.stored)) key
      = .ok ⟨true, (other.setProgram (e.stored.map Stored.reread)).engine, events⟩ :=
  ⟨_, load_of_on (loadFrom_of_read (LawfulTextStore.get_set_self ..)
    (Stored.read_write (writable_stored finite)))⟩

/-- Saving a program of finite numbers succeeds, and loading it finds it and puts it
in the place of another.  Every entry comes back as it was, but for a number that
is not what its own text is read as; that comes back as another finite number of the
same sign.  So the program is restored just if there is no such number in it, and
then the two engines answer alike. -/
theorem load_saved [LawfulTextStore σ] (made : e.Made)
    (finite : ∀ x : Float, .operand (.value x) ∈ e.program → x.isFinite = true)
    (free : ∀ name : String, .operand (.named name) ∈ e.program → Key.ofSymbol? name = none)
    (store : σ) (key : String) :
    ∃ saved : σ, (e.save store key).1 = .ok saved ∧
      ∀ other : Engine, ∃ outcome : Outcome Bool, other.load saved key = .ok outcome ∧
        outcome.result = true ∧
        outcome.engine = other.withProgram (e.program.map Token.reread) ∧
        (outcome.engine.program = e.program ↔
          ∀ x : Float, .operand (.value x) ∈ e.program → Json.reread x = x) ∧
        (∀ x : Float, .operand (.value x) ∈ e.program → (Json.reread x).isFinite = true ∧
          Double.negative (Json.reread x) = Double.negative x) ∧
        ((∀ x : Float, .operand (.value x) ∈ e.program → Json.ReadsExactly x) →
          outcome.engine.program = e.program) ∧
        (outcome.engine.program = e.program → AnswersAlike outcome.engine e) := by
  have restored : (e.stored.map Stored.reread).map Primitive.toToken
      = e.program.map Token.reread := by
    rw [stored, List.map_map, List.map_map]
    refine List.map_congr_left fun t mem => Token.toToken_reread ?_ ?_
    · rintro symbol rfl
      exact made.isSome_ofSymbol? mem
    · rintro name rfl
      exact free name mem
  refine ⟨_, congrArg Prod.fst (save_eq finite store key), fun other => ?_⟩
  obtain ⟨events, loaded⟩ := exists_load_eq finite store key other
  have engine : (other.setProgram (e.stored.map Stored.reread)).engine
      = other.withProgram (e.program.map Token.reread) := congrArg other.withProgram restored
  refine ⟨_, loaded, rfl, engine, ?_, fun x mem => ?_, fun few => ?_, answersAlike_of_program_eq⟩
  · rw [engine]
    exact map_reread_eq_iff
  · exact ⟨Json.isFinite_reread (finite x mem), Json.negative_reread (finite x mem)⟩
  · rw [engine]
    exact map_reread_eq_iff.mpr fun x mem => (few x mem).reread_eq (finite x mem)

/-- A program with a quoted name of a variable, and with a fraction that is not a
double, read again from its digits. -/
theorem load_saved_quoted :
    ∃ (e : Engine) (saved : MemoryStore) (outcome : Outcome Bool),
      e.Made ∧ e.program = [.operand (.value 0.1), .operation "×", .operand (.named "size \"x\"")] ∧
      (0.1 : Float).isFinite = true ∧ Key.ofSymbol? "size \"x\"" = none ∧
      (e.save MemoryStore.empty "k").1 = .ok saved ∧ new.load saved "k" = .ok outcome ∧
      outcome.result = true ∧ outcome.engine.program = e.program ∧
      AnswersAlike outcome.engine e := by
  let e := (new.setProgram [.number 0.1, .text "×", .text "size \"x\""]).engine
  have program : e.program
      = [.operand (.value 0.1), .operation "×", .operand (.named "size \"x\"")] := rfl
  have made : e.Made := (Made.new _).setProgram _
  have number : (0.1 : Float).isFinite = true := by decide +kernel
  have unused : Key.ofSymbol? "size \"x\"" = none := by decide +kernel
  have only_number {x : Float} (mem : .operand (.value x) ∈ e.program) : x = 0.1 := by
    rw [program] at mem
    simpa using mem
  have finite : ∀ x : Float, .operand (.value x) ∈ e.program → x.isFinite = true :=
    fun x mem => only_number mem ▸ number
  have free : ∀ name : String, .operand (.named name) ∈ e.program → Key.ofSymbol? name = none := by
    intro name mem
    rw [program] at mem
    obtain rfl : name = "size \"x\"" := by simpa using mem
    exact unused
  have few : ∀ x : Float, .operand (.value x) ∈ e.program → Json.ReadsExactly x := by
    intro x mem
    rw [only_number mem]
    exact ⟨⟨false, ['0'], some ['1'], none⟩, by decide +kernel⟩
  obtain ⟨saved, save, loads⟩ := load_saved made finite free MemoryStore.empty "k"
  obtain ⟨outcome, load, found, -, -, -, restores, alike⟩ := loads new
  exact ⟨e, saved, outcome, made, program, number, unused, save, load, found, restores few,
    alike (restores few)⟩

/-- The text of 2^53 - 1 has a digit more than the number, `9007199254740991.0`, and
as a row of digits it is no longer a double.  What is read is 2^53 - 2. -/
theorem load_of_many_digits :
    ∃ (e : Engine) (saved : MemoryStore) (outcome : Outcome Bool),
      e.Made ∧ e.program = [.operand (.value 9007199254740991)] ∧
      (9007199254740991 : Float).isFinite = true ∧
      (e.save MemoryStore.empty "k").1 = .ok saved ∧ new.load saved "k" = .ok outcome ∧
      outcome.result = true ∧
      outcome.engine.program = [.operand (.value 9007199254740990)] ∧
      outcome.engine.program ≠ e.program ∧
      ∀ draws : Draws, (e.evaluate draws).1.result = some 9007199254740991 ∧
        (outcome.engine.evaluate draws).1.result = some 9007199254740990 := by
  let e := (new.setProgram [.number 9007199254740991]).engine
  have program : e.program = [.operand (.value 9007199254740991)] := rfl
  have number : (9007199254740991 : Float).isFinite = true := by decide +kernel
  have finite : ∀ x : Float, .operand (.value x) ∈ e.program → x.isFinite = true := by
    intro x mem
    rw [program] at mem
    obtain rfl : x = 9007199254740991 := by simpa using mem
    exact number
  have read : Json.reread 9007199254740991 = 9007199254740990 := by decide +kernel
  have other : (9007199254740990 : Float) ≠ 9007199254740991 := by decide +kernel
  obtain ⟨events, loaded⟩ := exists_load_eq finite MemoryStore.empty "k" new
  have left : (new.setProgram (e.stored.map Stored.reread)).engine.program
      = [.operand (.value 9007199254740990)] := by
    show [Token.operand (.value (Json.reread 9007199254740991))] = _
    rw [read]
  refine ⟨e, _, _, (Made.new _).setProgram _, program, number,
    congrArg Prod.fst (save_eq finite _ _), loaded, rfl, left, ?_, fun draws => ⟨rfl, ?_⟩⟩
  · rw [left, program]
    intro same
    simp only [List.cons.injEq, Token.operand.injEq, Literal.value.injEq, and_true] at same
    exact other same
  · show some (Json.reread 9007199254740991) = _
    rw [read]

end Engine

end Keypad
