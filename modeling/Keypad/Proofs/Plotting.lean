/-
# `Keypad.Proofs.Plotting` — a point of a curve depends on its own x only

A curve is drawn with one set of bindings, which is taken over from the engine and
changed from point to point.  Two things could go wrong with that: a point could see
what an earlier one left behind, or the value that the variable had before.  Neither
happens.  The height at `x` is what the program comes to with the number `x` written
in the place of the variable:

    bind the variable to x, and evaluate      (`Engine.height`)
    put x for the variable, and evaluate      (`Engine.substitute`)

The two evaluations agree in their numbers and differ in what there is to read, for a
number is written otherwise than a variable.  `Engine.plot_pointwise` is the main
statement.  The invariant of the drawing is that the bindings on the way differ from
those of the engine at most in the variable that is drawn (`AgreeBut`).
-/
import Keypad.Proofs.Independence

namespace Keypad

/-! ## Binding a variable, and putting a number in its place -/

/-- A token with the number `x` in the place of a variable. -/
def Token.substitute (name : String) (x : Float) : Token → Token
  | .operand (.named other) =>
    if other = name then .operand (.value x) else .operand (.named other)
  | token => token

/-- Two bindings that differ at most in one variable. -/
def AgreeBut (name : String) (b b' : Bindings) : Prop :=
  ∀ other : String, other ≠ name → b.value other = b'.value other

theorem Bindings.value_insert (bindings : Bindings) (name : String) (x : Float) (other : String) :
    value (bindings.insert name x) other = if other = name then x else bindings.value other := by
  rw [value, Std.TreeMap.getD_insert, value]
  by_cases same : other = name
  · simp [same]
  · simp [same, Ne.symm same]

/-- Once the variable is bound, what it was bound to before does not show. -/
theorem AgreeBut.value_insert {name : String} {b b' : Bindings} (h : AgreeBut name b b') (x : Float)
    (other : String) :
    Bindings.value (b.insert name x) other = Bindings.value (b'.insert name x) other := by
  rw [Bindings.value_insert, Bindings.value_insert]
  split
  case isTrue => rfl
  case isFalse differs => exact h other differs

theorem AgreeBut.insert {name : String} {b b' : Bindings} (h : AgreeBut name b b') (x : Float) :
    AgreeBut name (b.insert name x) b' := by
  intro other differs
  rw [Bindings.value_insert, if_neg differs]
  exact h other differs

theorem Token.substitute_ne_ran (name : String) (x : Float) :
    ∀ {token : Token}, token ≠ .ran → token.substitute name x ≠ .ran
  | .operand (.value _), _ => Token.noConfusion
  | .operand (.named other), _ => by
      rw [substitute]
      split <;> exact Token.noConfusion
  | .operation _, certain => certain

/-- A variable that is bound to a number and that number are the same to reckon with. -/
theorem Token.numeric_substitute (format : NumberFormat) (bindings : Bindings) (name : String)
    (x : Float) (token : Token) :
    ((token.substitute name x).effect? format bindings).map Entry.numeric
      = (token.effect? format (bindings.insert name x)).map Entry.numeric := by
  cases token with
  | operation symbol => rfl
  | operand literal =>
      cases literal with
      | value y => rfl
      | named other =>
          have bound := bindings.value_insert name x other
          by_cases same : other = name
          · rw [if_pos same] at bound
            simp only [substitute, if_pos same, effect?, Literal.entry, Option.map_some,
              Entry.numeric, bound]
          · rw [if_neg same] at bound
            simp only [substitute, if_neg same, effect?, Literal.entry, Option.map_some,
              Entry.numeric, bound]

theorem map_numeric_substitute (format : NumberFormat) (bindings : Bindings) (name : String)
    (x : Float) (program : List Token) :
    ((program.map (Token.substitute name x)).filterMap (Token.effect? format bindings)).map
        Entry.numeric
      = (program.filterMap (Token.effect? format (bindings.insert name x))).map Entry.numeric := by
  rw [List.filterMap_map, List.map_filterMap, List.map_filterMap]
  exact congrArg (program.filterMap ·)
    (funext fun token => token.numeric_substitute format bindings name x)

/-! ## The height at one point -/

namespace Engine

variable {e : Engine} {name : String}

/-- The engine with a number in the place of a variable. -/
def substitute (e : Engine) (name : String) (x : Float) : Engine :=
  e.withProgram (e.program.map (Token.substitute name x))

theorem certain_substitute (certain : .ran ∉ e.program) (x : Float) :
    .ran ∉ (e.substitute name x).program := by
  intro mem
  obtain ⟨token, entered, drawn⟩ := List.mem_map.mp mem
  have other : token ≠ .ran := fun same => certain (same ▸ entered)
  exact Token.substitute_ne_ran name x other drawn

/-- The evaluation with a number in the place of a variable. -/
def substituted (e : Engine) (name : String) (x : Float) : Evaluation :=
  (Replay.ofProgram e.format e.bindings (e.substitute name x).program).evaluation

theorem evaluate_substitute (certain : .ran ∉ e.program) (x : Float) :
    (e.substitute name x).evaluate = pure (e.substituted name x) :=
  evaluateWith_eq_pure (certain_substitute certain x) e.bindings

/-- To bind a variable gives the same result as to put the number in its place. -/
theorem result_substituted (x : Float) :
    (e.substituted name x).result
      = (Replay.ofProgram e.format (e.bindings.insert name x) e.program).result := by
  have same : SameNumbers (Replay.ofProgram e.format e.bindings (e.substitute name x).program)
      (Replay.ofProgram e.format (e.bindings.insert name x) e.program) := by
    rw [Replay.ofProgram, Replay.ofProgram, ← Replay.run_filterMap_effect?,
      ← Replay.run_filterMap_effect?]
    exact Replay.run_related SameNumbers.step _ ⟨rfl, rfl⟩
      (map_numeric_substitute e.format e.bindings name x e.program)
  exact same.result_eq

/-- The height does not depend on what the variable was bound to before. -/
theorem height_insert {bindings : Bindings} (certain : .ran ∉ e.program)
    (agree : AgreeBut name bindings e.bindings) (x : Float) :
    e.height (bindings.insert name x)
      = pure ((e.substituted name x).result.filter Float.isFinite) := by
  have alike : e.evaluateWith (bindings.insert name x)
      = e.evaluateWith (e.bindings.insert name x) :=
    e.evaluateWith_congr fun other _ => agree.value_insert x other
  rw [height, alike, evaluateWith_eq_pure certain, result_substituted]
  rfl

/-! ## A curve -/

theorem plotFrom_eq_pure (certain : .ran ∉ e.program) (name : String) (xs : List Float) :
    ∀ {bindings : Bindings}, AgreeBut name bindings e.bindings →
      e.plotFrom name bindings xs
        = pure (xs.map fun x => (x, (e.substituted name x).result.filter Float.isFinite)) := by
  induction xs with
  | nil => intro bindings _; rfl
  | cons x xs ih =>
      intro bindings agree
      have here := height_insert certain agree x
      -- What this point leaves behind is a binding of the variable, and that may differ.
      have onward := ih (agree.insert x)
      rw [plotFrom, here, onward]
      rfl

theorem agreeBut_self (name : String) (b : Bindings) : AgreeBut name b b := fun _ _ => rfl

theorem plot_eq_pure (certain : .ran ∉ e.program) (name : String) (xs : List Float) :
    e.plot name xs
      = pure (xs.map fun x => (x, (e.substituted name x).result.filter Float.isFinite)) :=
  plotFrom_eq_pure certain name xs (agreeBut_self name e.bindings)

/-- A curve is drawn with the bindings that are taken along and not with those of the
engine. -/
theorem plotFrom_rebound (bindings : Bindings) (name : String) (xs : List Float) :
    ∀ context : Bindings,
      ({ e with bindings := bindings } : Engine).plotFrom name context xs
        = e.plotFrom name context xs := by
  induction xs with
  | nil => intro context; rfl
  | cons x xs ih =>
      intro context
      rw [plotFrom, plotFrom, ih]
      rfl

/-- What the variable was bound to before does not show in the curve. -/
theorem plot_rebound (certain : .ran ∉ e.program) {bindings : Bindings}
    (agree : AgreeBut name bindings e.bindings) (xs : List Float) :
    ({ e with bindings := bindings } : Engine).plot name xs = e.plot name xs :=
  calc ({ e with bindings := bindings } : Engine).plotFrom name bindings xs
      = e.plotFrom name bindings xs := plotFrom_rebound bindings name xs bindings
    _ = _ := plotFrom_eq_pure certain name xs agree
    _ = e.plot name xs := (plot_eq_pure certain name xs).symm

/-- Each point of a curve depends on its own x only.  The points come in the order of
the `xs`; the height at `x` is the result of the program with the number `x` in the
place of the variable, if there is one and it is finite.  So the curve of a row of
values is put together from the curves of its parts, values that are taken in another
order or more than once give the points in that order and as often, the former binding
of the variable does not show, and no height is infinite or not a number.  Drawing
changes nothing of the engine and draws no number. -/
theorem plot_pointwise (certain : .ran ∉ e.program) (name : String) :
    ∃ evaluation : Float → Evaluation,
      (∀ x : Float, (e.substitute name x).evaluate = pure (evaluation x)) ∧
      (∀ xs : List Float, e.plot name xs
        = pure (xs.map fun x => (x, (evaluation x).result.filter Float.isFinite))) ∧
      (∀ xs ys : List Float,
        e.plot name (xs ++ ys) = do return (← e.plot name xs) ++ (← e.plot name ys)) ∧
      (∀ (xs : List Float) (places : List Nat),
        e.plot name (places.filterMap (xs[·]?))
          = do return places.filterMap ((← e.plot name xs)[·]?)) ∧
      (∀ (bindings : Bindings) (xs : List Float), AgreeBut name bindings e.bindings →
        ({ e with bindings := bindings } : Engine).plot name xs = e.plot name xs) ∧
      ∀ xs : List Float, ∃ points : List (Float × Option Float),
        e.plot name xs = pure points ∧
        (∀ x y : Float, (x, some y) ∈ points → y.isFinite = true) ∧
        e.call (.plot name xs) = pure ⟨none, e, plotEvents points⟩ := by
  refine ⟨e.substituted name, evaluate_substitute certain, plot_eq_pure certain name, ?_, ?_,
    fun bindings xs agree => plot_rebound certain agree xs, ?_⟩
  · intro xs ys
    rw [plot_eq_pure certain, plot_eq_pure certain, plot_eq_pure certain, List.map_append]
    rfl
  · intro xs places
    rw [plot_eq_pure certain, plot_eq_pure certain, pure_bind, List.map_filterMap]
    simp only [List.getElem?_map]
  · intro xs
    refine ⟨_, plot_eq_pure certain name xs, ?_, ?_⟩
    · intro x y mem
      obtain ⟨x', _, same⟩ := List.mem_map.mp mem
      exact (Option.filter_eq_some_iff.mp (congrArg Prod.snd same)).2
    · rw [call, plot_eq_pure certain]
      rfl

/-- The curve of `1/M` at -2, 0 and 4, with a gap at 0; `M` was bound to 7 before. -/
theorem plot_pointwise_reciprocal :
    ∃ e : Engine,
      e.program = [.operand (.named "M"), .operation "1/x"] ∧ .ran ∉ e.program ∧
      e.binding? "M" = some 7 ∧
      e.plot "M" [-2, 0, 4] = pure [(-2, some (-0.5)), (0, none), (4, some 0.25)] := by
  let e : Engine := ⟨[.operand (.named "M"), .operation "1/x"], Std.TreeMap.empty.insert "M" 7,
    FixedPoint.standard.toNumberFormat⟩
  have certain : .ran ∉ e.program := by simp [e, Token.ran, Key.symbol]
  obtain ⟨evaluation, evaluated, plotted, -⟩ := plot_pointwise certain "M"
  have computed : evaluation = fun x => ((e.substitute "M" x).evaluate ⟨fun _ => 0, 0⟩).1 :=
    funext fun x => (congrArg Prod.fst (congrFun (evaluated x) ⟨fun _ => 0, 0⟩)).symm
  refine ⟨e, rfl, certain, by decide +kernel, (plotted _).trans (congrArg pure ?_)⟩
  rw [computed]
  decide +kernel

end Engine

end Keypad
