/-
# `Keypad.Proofs.Restoring` — whatever was saved can be loaded

A program is refused on account of its first number that is not finite, and for no
other reason (`saveIn_cases`).  A program that was not refused is never lost: its text
is read, whatever the names of its variables are, and the entries that come back are
as many as were stored and in the same order (`Engine.load_of_save`).

What comes back in the place of an entry is not always that entry (`Restores`).  Two
things are lost on the way.  The stored form does not tell a variable from a key, so
a variable that bears the symbol of a key comes back as that key.  And a number comes
back as what its text is read as, which is finite and has the same sign, and is the
number itself if its text has few digits.
-/
import Keypad.Proofs.Saving

namespace Keypad

/-! ## Programs that are refused -/

/-- All numbers of a program are finite. -/
def AllFinite (program : List Token) : Prop :=
  ∀ x : Float, .operand (.value x) ∈ program → x.isFinite = true

/-- The number `x` is the first one of a program that is not finite. -/
def FirstNonFinite (program : List Token) (x : Float) : Prop :=
  ∃ earlier later, program = earlier ++ .operand (.value x) :: later ∧ AllFinite earlier ∧
    x.isFinite = false

theorem FirstNonFinite.mem {program : List Token} {x : Float} (first : FirstNonFinite program x) :
    .operand (.value x) ∈ program ∧ x.isFinite = false := by
  obtain ⟨earlier, later, rfl, -, infinite⟩ := first
  exact ⟨List.mem_append_right _ List.mem_cons_self, infinite⟩

namespace Stored

/-- The number on account of which an entry has no stored form. -/
def nonFinite? : Primitive → Option Float
  | .number x => if x.isFinite then none else some x
  | .text _ => none

theorem firstNonFinite_eq (program : List Primitive) :
    firstNonFinite program = program.findSome? nonFinite? := rfl

theorem nonFinite?_toPrimitive {token : Token} {x : Float} :
    nonFinite? token.toPrimitive = some x ↔ token = .operand (.value x) ∧ x.isFinite = false := by
  cases token with
  | operation symbol => simp [Token.toPrimitive, nonFinite?]
  | operand literal =>
      cases literal with
      | named name => simp [Token.toPrimitive, nonFinite?]
      | value y =>
          rw [Token.toPrimitive, nonFinite?]
          cases finite : y.isFinite with
          | true =>
              simp only [if_true, reduceCtorEq, Token.operand.injEq, Literal.value.injEq, false_iff]
              rintro ⟨rfl, infinite⟩
              rw [finite] at infinite
              cases infinite
          | false =>
              simp only [Bool.false_eq_true, if_false, Option.some.injEq, Token.operand.injEq,
                Literal.value.injEq]
              exact ⟨fun same => ⟨same, same ▸ finite⟩, And.left⟩

end Stored

namespace Engine

variable {σ : Type} [TextStore σ] {e : Engine}

/-- Nothing is found among entries that are all finite numbers. -/
theorem allFinite_of_passed {program : List Token}
    (passed : ∀ token ∈ program, Stored.nonFinite? token.toPrimitive = none) :
    AllFinite program := by
  intro x mem
  by_contra not_finite
  have found := Stored.nonFinite?_toPrimitive.mpr ⟨rfl, Bool.eq_false_iff.mpr not_finite⟩
  rw [passed _ mem] at found
  cases found

theorem firstNonFinite_of_stored {x : Float} (found : Stored.firstNonFinite e.stored = some x) :
    FirstNonFinite e.program x := by
  rw [Stored.firstNonFinite_eq] at found
  obtain ⟨ps, p, qs, parts, here, passed⟩ := List.findSome?_eq_some_iff.mp found
  obtain ⟨earlier, rest, program, rfl, more⟩ := List.map_eq_append_iff.mp parts
  obtain ⟨token, later, rfl, rfl, rfl⟩ := List.map_eq_cons_iff.mp more
  obtain ⟨rfl, infinite⟩ := Stored.nonFinite?_toPrimitive.mp here
  exact ⟨earlier, later, program,
    allFinite_of_passed fun token mem => passed _ (List.mem_map_of_mem mem), infinite⟩

theorem allFinite_of_stored (found : Stored.firstNonFinite e.stored = none) :
    AllFinite e.program := by
  rw [Stored.firstNonFinite_eq, List.findSome?_eq_none_iff] at found
  exact allFinite_of_passed fun token mem => found _ (List.mem_map_of_mem mem)

/-- Saving either writes down a program of finite numbers, or names the first number
that is not finite and leaves the store as it found it. -/
theorem saveIn_cases (e : Engine) (store : σ) (key : String) :
    (AllFinite e.program ∧ (e.saveIn key).on store =
        (.ok (), ⟨TextStore.set store key (Stored.write e.stored),
          [.saved key e.program.length]⟩)) ∨
      ∃ x : Float, FirstNonFinite e.program x ∧ (e.saveIn key).on store =
        (.error (.persistence (.nonFinite x)), ⟨store, [.refusedToSave key x]⟩) := by
  cases found : Stored.firstNonFinite e.stored with
  | none => exact .inl ⟨allFinite_of_stored found, saveIn_of_finite found⟩
  | some x => exact .inr ⟨x, firstNonFinite_of_stored found, saveIn_of_nonFinite found⟩

end Engine

/-! ## Programs that are restored -/

/-- What may come back in the place of an entry that was stored. -/
inductive Restores : Token → Token → Prop
  | operation (symbol : String) : Restores (.operation symbol) (.operation symbol)
  | named (name : String) : Key.ofSymbol? name = none →
      Restores (.operand (.named name)) (.operand (.named name))
  /-- A variable that bears the symbol of a key. -/
  | clash (name : String) : (Key.ofSymbol? name).isSome →
      Restores (.operand (.named name)) (.operation name)
  | value (x y : Float) : y.isFinite = true → Double.negative y = Double.negative x →
      (Json.ReadsExactly x → y = x) → Restores (.operand (.value x)) (.operand (.value y))

theorem Token.restores {t : Token}
    (finite : ∀ x : Float, t = .operand (.value x) → x.isFinite = true)
    (known : ∀ symbol : String, t = .operation symbol → (Key.ofSymbol? symbol).isSome) :
    Restores t (Stored.reread t.toPrimitive).toToken := by
  cases t with
  | operation symbol =>
      rw [toPrimitive, Stored.reread, Primitive.toToken, if_pos (known symbol rfl)]
      exact .operation symbol
  | operand literal =>
      cases literal with
      | value x =>
          have finite := finite x rfl
          exact .value x _ (Json.isFinite_reread finite) (Json.negative_reread finite)
            fun few => few.reread_eq finite
      | named name =>
          rw [toPrimitive, Stored.reread, Primitive.toToken]
          cases bears : Key.ofSymbol? name with
          | none => exact .named name bears
          | some key => exact .clash name (by rw [bears]; rfl)

namespace Engine

variable {σ : Type} [TextStore σ] {e : Engine}

/-- A program that was saved is loaded by every engine: as many entries, each one
restored, and nothing else of the engine changed. -/
theorem load_of_save [LawfulTextStore σ] (made : e.Made) {store saved : σ} {key : String}
    (succeeded : (e.save store key).1 = .ok saved) (other : Engine) :
    ∃ outcome : Outcome Bool, other.load saved key = .ok outcome ∧ outcome.result = true ∧
      outcome.engine.program.length = e.program.length ∧
      List.Forall₂ Restores e.program outcome.engine.program ∧
      outcome.engine = other.withProgram outcome.engine.program := by
  rcases e.saveIn_cases store key with ⟨finite, written⟩ | ⟨x, -, refused⟩
  · rw [save_of_on written] at succeeded
    obtain rfl : _ = saved := Except.ok.inj succeeded
    obtain ⟨events, loaded⟩ := exists_load_eq finite store key other
    refine ⟨_, loaded, rfl, ?_, ?_, rfl⟩
    · simp only [setProgram, stored, List.length_map]
    · show List.Forall₂ Restores e.program ((e.stored.map Stored.reread).map Primitive.toToken)
      rw [stored, List.map_map, List.map_map, List.forall₂_map_right_iff, List.forall₂_same]
      intro t mem
      refine Token.restores ?_ ?_
      · rintro x rfl
        exact finite x mem
      · rintro symbol rfl
        exact made.isSome_ofSymbol? mem
  · rw [save_of_on refused] at succeeded
    cases succeeded

/-- Negative zero, and a variable that bears the symbol of a key. -/
theorem load_of_save_clash :
    ∃ (e : Engine) (saved : MemoryStore) (outcome : Outcome Bool),
      e.Made ∧
      e.program = [.operand (.value (-0.0)), .operation "+", .operand (.named "√")] ∧
      (e.save MemoryStore.empty "k").1 = .ok saved ∧ new.load saved "k" = .ok outcome ∧
      outcome.result = true ∧
      outcome.engine.program = [.operand (.value (-0.0)), .operation "+", .operation "√"] := by
  let format := FixedPoint.standard.toNumberFormat
  let draws : Draws := ⟨fun _ => 0, 0⟩
  let keys : List Token := [.operand (.value (-0.0)), .operation "+", .operand (.named "√")]
  let e := keys.foldl (fun e token => (e.call (.enter token) draws).1.engine) (withFormat format)
  have made : e.Made := (((Made.new format).call _ draws).call _ draws).call _ draws
  have program : e.program = keys := by decide +kernel
  have number : (-0.0 : Float).isFinite = true := by decide +kernel
  have finite : ∀ x : Float, .operand (.value x) ∈ e.program → x.isFinite = true := by
    intro x mem
    rw [program] at mem
    obtain rfl : x = -0.0 := by simpa [keys] using mem
    exact number
  have save := congrArg Prod.fst (save_eq finite MemoryStore.empty "k")
  obtain ⟨outcome, load, found, -, restored, -⟩ := load_of_save made save new
  refine ⟨e, _, outcome, made, program, save, load, found, ?_⟩
  have few : Json.ReadsExactly (-0.0) := ⟨⟨true, ['0'], some ['0'], none⟩, by decide +kernel⟩
  have bears : Key.ofSymbol? "√" ≠ none := by decide +kernel
  rw [program] at restored
  simp only [keys, List.forall₂_cons_left_iff, List.forall₂_nil_left_iff] at restored
  obtain ⟨number, _, first, ⟨plus, _, second, ⟨root, _, third, rfl, rfl⟩, rfl⟩, loaded⟩ := restored
  rw [loaded]
  cases first with
  | value _ y _ _ same =>
      rw [same few]
      cases second with
      | operation _ => cases third with
        | named _ none => exact absurd none bears
        | clash _ _ => rfl

end Engine

end Keypad
