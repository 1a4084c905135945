/-
# `Keypad.Proofs.Reentry` — an operand that comes in the place of another

While a binary key waits, a second operand may be entered more than once.  The
number of the last one counts: nothing that is asked for a number afterwards can
tell that there was another one before.  The description is different.  The
fragment of the earlier operand stays where it is, and `3 + 4` followed by `5`
reads `3+45`, where `3 + 5` would read `3+5`.

The main statement, `reentered_operand`, compares an engine in which a second
operand was entered with the engine as it was before that, after both were given
another operand and the same presses from then on.  They agree in their numbers
and in whether a key waits, always; they agree in their descriptions exactly if
the earlier operand left no text, or a new expression was begun since.

The invariant is `Spliced`: two states that agree but for some fragments, which
lie somewhere below the latest one and stay there.
-/
import Keypad.Proofs.Expression

namespace Keypad

open Calculation (spelled spelled_append spelled_cons)

/-! ## Beginning anew -/

/-- Whether a row of presses begins a new expression: at some point an operand
comes while no binary key waits. -/
def Phase.Renews : Phase → List Token → Prop
  | _, [] => False
  | phase, token :: keys =>
    (token.kind? = some .operand ∧ phase.isPending = false) ∨ (phase.press token).Renews keys

/-! ## Two descriptions -/

/-- Two states that agree, but that the first has some more fragments somewhere
below its latest one. -/
inductive Spliced (extra : List String) : Replay → Replay → Prop
  | intro (accumulator : Option Float) (pending : Option Pending) (latest : String)
      (above below : List String) :
      Spliced extra ⟨accumulator, pending, latest :: above ++ extra ++ below⟩
        ⟨accumulator, pending, latest :: above ++ below⟩

namespace Spliced

variable {extra : List String} {a b : Replay}

theorem isPending_eq (h : Spliced extra a b) : a.isPending = b.isPending := by
  cases h
  rfl

theorem result_eq (h : Spliced extra a b) : a.result = b.result := by
  cases h
  rfl

/-- The descriptions agree only if there is nothing to read in what the first has
more. -/
theorem description_eq_iff (h : Spliced extra a b) :
    a.description = b.description ↔ spelled extra = "" := by
  cases h with
  | intro _ _ latest above below =>
      show spelled (latest :: above ++ extra ++ below) = spelled (latest :: above ++ below) ↔ _
      simp only [spelled_append, String.append_right_inj]
      constructor
      · intro same
        have lengths := congrArg String.length same
        simp only [String.length_append] at lengths
        exact String.length_eq_zero_iff.mp (by omega)
      · intro nothing
        rw [nothing, String.empty_append]

/-- What a binary key, a unary key or the equals key does, it does to both. -/
theorem step (h : Spliced extra a b) {entry : Entry}
    (continues : entry.kind ≠ .operand ∨ b.isPending) :
    Spliced extra (a.step entry) (b.step entry) := by
  cases h with
  | intro accumulator pending latest above below =>
      cases entry with
      | operand x text =>
          cases pending with
          | none => exact absurd continues (by simp [Entry.kind, Replay.isPending])
          | some p => exact .intro (some x) (some p) text (latest :: above) below
      | unary u =>
          cases accumulator with
          | none => exact .intro none pending latest above below
          | some x =>
              cases pending with
              | none =>
                  have wrapped : Spliced extra _ _ := .intro (some (u.apply x)) none ")"
                    (latest :: above) (below ++ [u.symbol ++ "("])
                  simpa [Replay.step, Replay.enter, Replay.wrapAll] using wrapped
              | some p =>
                  exact .intro (some (u.apply x)) (some p) (u.symbol ++ "(" ++ latest ++ ")")
                    above below
      | binary o =>
          cases accumulator with
          | none => exact .intro none pending latest above below
          | some x => exact .intro none _ o.symbol (latest :: above) below
      | equals =>
          cases accumulator <;> cases pending <;> exact .intro _ _ latest above below

section Presses

variable (format : NumberFormat) (bindings : Bindings)

theorem press (h : Spliced extra a b) {token : Token} (certain : token ≠ .ran)
    (continues : token.kind? = some .operand → b.isPending) :
    Spliced extra (a.press format bindings token) (b.press format bindings token) := by
  rw [← Token.map_kind_effect? format bindings certain] at continues
  simp only [Replay.press]
  cases entry : token.effect? format bindings with
  | none => exact h
  | some entry' =>
      rw [entry] at continues
      by_cases operand : entry'.kind = .operand
      · exact h.step (.inr (continues (congrArg some operand)))
      · exact h.step (.inl operand)

/-- An operand that begins a new expression leaves no difference. -/
theorem press_eq (h : Spliced extra a b) {token : Token} (certain : token ≠ .ran)
    (operand : token.kind? = some .operand) (waits : b.isPending = false) :
    a.press format bindings token = b.press format bindings token := by
  rw [← Token.map_kind_effect? format bindings certain, Option.map_eq_some_iff] at operand
  obtain ⟨entry, known, kind⟩ := operand
  rw [Replay.press_of_entry known, Replay.press_of_entry known]
  cases entry with
  | operand x text =>
      rw [Replay.step, Replay.step, Replay.enter_operand_of_not_isPending waits,
        Replay.enter_operand_of_not_isPending (h.isPending_eq.trans waits)]
      rfl
  | unary _ | binary _ | equals => cases kind

/-- The difference stays until a new expression is begun, and is gone then. -/
theorem pressAll (keys : List Token) :
    ∀ {a b : Replay}, Spliced extra a b → .ran ∉ keys →
      (b.phase.Renews keys ∧ a.pressAll format bindings keys = b.pressAll format bindings keys) ∨
      (¬ b.phase.Renews keys ∧
        Spliced extra (a.pressAll format bindings keys) (b.pressAll format bindings keys)) := by
  induction keys with
  | nil => intro a b h _; exact .inr ⟨id, h⟩
  | cons token keys ih =>
      intro a b h certain
      rw [List.mem_cons, not_or] at certain
      have drawless : token ≠ .ran := Ne.symm certain.1
      simp only [Replay.pressAll_cons, Phase.Renews, Replay.isPending_phase]
      by_cases begins : token.kind? = some .operand ∧ b.isPending = false
      · refine .inl ⟨.inl begins, ?_⟩
        rw [h.press_eq format bindings drawless begins.1 begins.2]
      · have continues (operand : token.kind? = some .operand) : b.isPending = true :=
          Bool.not_eq_false _ ▸ fun waits => begins ⟨operand, waits⟩
        have next := ih (h.press format bindings drawless continues)
          certain.2
        rw [Replay.phase_press format bindings b drawless] at next
        simpa only [begins, false_or] using next

/-- What two states that agree but for some fragments come to after the same
presses. -/
theorem evaluation_agrees (h : Spliced extra a b) {keys : List Token} (certain : .ran ∉ keys) :
    (a.pressAll format bindings keys).result = (b.pressAll format bindings keys).result ∧
    (a.pressAll format bindings keys).isPending = (b.pressAll format bindings keys).isPending ∧
    ((a.pressAll format bindings keys).description
        = (b.pressAll format bindings keys).description
      ↔ spelled extra = "" ∨ b.phase.Renews keys) := by
  rcases h.pressAll format bindings keys certain with
    ⟨renews, same⟩ | ⟨lasts, apart⟩
  · rw [same]
    exact ⟨rfl, rfl, fun _ => .inr renews, fun _ => rfl⟩
  · refine ⟨apart.result_eq, apart.isPending_eq, apart.description_eq_iff.trans ?_⟩
    simp only [lasts, or_false]

end Presses

end Spliced

/-! ## Second operands -/

/-- The presses by which a second operand is entered: an operand, unary keys on
it, and operands that come in its place. -/
inductive Second : List Token → Prop
  | operand (x : Leaf) : Second [x.token]
  | wrapped {entered : List Token} (u : Unary) :
      Second entered → Second (entered ++ [.operation (Key.unary u).symbol])
  | replaced {entered : List Token} (x : Leaf) : Second entered → Second (entered ++ [x.token])

/-- A press that leaves nothing to read: an operand without text. -/
def Token.Silent (format : NumberFormat) (token : Token) : Prop :=
  ∃ l : Literal, token = .operand l ∧ l.text format = ""

theorem Constant.symbol_ne_empty : ∀ c : Constant, c.symbol ≠ ""
  | .pi | .e => by decide

theorem Leaf.silent_iff (format : NumberFormat) (x : Leaf) :
    x.token.Silent format ↔ x.text format = "" := by
  cases x with
  | literal l =>
      constructor
      · rintro ⟨_, same, empty⟩
        cases same
        exact empty
      · exact fun empty => ⟨l, rfl, empty⟩
  | constant c =>
      constructor
      · rintro ⟨_, same, _⟩
        cases same
      · exact fun empty => absurd empty c.symbol_ne_empty

namespace Second

/-- The fragments that a second operand leaves lie on top of those that were
there, and there is something to read in them unless every press was silent. -/
theorem pressAll (format : NumberFormat) (bindings : Bindings) (p : Pending)
    (fragments : List String) (accumulator : Option Float) {entered : List Token} (h : Second entered) :
    ∃ (x : Float) (latest : String) (earlier : List String),
      Replay.pressAll format bindings ⟨accumulator, some p, fragments⟩ entered
        = ⟨some x, some p, latest :: earlier ++ fragments⟩ ∧
      (spelled (latest :: earlier) = "" ↔ ∀ token ∈ entered, token.Silent format) := by
  induction h with
  | operand x =>
      refine ⟨x.value bindings, x.text format, [], ?_, ?_⟩
      · rw [Replay.pressAll_cons, Replay.press_of_entry (x.effect?_token format bindings)]
        rfl
      · simp [x.silent_iff, spelled]
  | wrapped u _ ih =>
      obtain ⟨y, latest, earlier, reached, _⟩ := ih
      refine ⟨u.apply y, u.symbol ++ "(" ++ latest ++ ")", earlier, ?_, ?_⟩
      · rw [Replay.pressAll_append, reached, Replay.pressAll_cons,
          Replay.press_of_entry (Token.effect?_symbol format bindings (.unary u))]
        rfl
      · constructor
        · intro empty
          have length := congrArg String.length empty
          simp [spelled_cons] at length
        · intro silent
          obtain ⟨_, same, _⟩ := silent _ (List.mem_append_right _ List.mem_cons_self)
          cases same
  | replaced x _ ih =>
      obtain ⟨y, latest, earlier, reached, silent⟩ := ih
      refine ⟨x.value bindings, x.text format, latest :: earlier, ?_, ?_⟩
      · rw [Replay.pressAll_append, reached, Replay.pressAll_cons,
          Replay.press_of_entry (x.effect?_token format bindings)]
        rfl
      · rw [spelled_cons, String.append_eq_empty_iff, silent, ← x.silent_iff]
        simp only [List.mem_append, List.mem_singleton, or_imp, forall_and, forall_eq]

end Second

/-- A program cut before the presses of its second operand. -/
structure Cut (program earlier entered : List Token) : Prop where
  append : program = earlier ++ entered
  waits : (Phase.ofProgram earlier).isPending
  second : Second entered

theorem Cut.certain {program earlier entered : List Token} (h : Cut program earlier entered)
    (certain : .ran ∉ program) : .ran ∉ earlier :=
  fun mem => certain (h.append ▸ List.mem_append_left entered mem)

theorem Cut.append_singleton {program earlier entered : List Token} {token : Token}
    (h : Cut program earlier entered) (second : Second (entered ++ [token])) :
    Cut (program ++ [token]) earlier (entered ++ [token]) :=
  ⟨by rw [h.append, List.append_assoc], h.waits, second⟩

/-- One press keeps it so that a program with a second operand can be cut. -/
theorem exists_cut_append_singleton {program : List Token} {token : Token}
    (h : Phase.ofProgram program = .second →
      ∃ earlier entered : List Token, Cut program earlier entered)
    (certain : token ≠ .ran) (known : token.kind?.isSome)
    (second : Phase.ofProgram (program ++ [token]) = .second) :
    ∃ earlier entered : List Token, Cut (program ++ [token]) earlier entered := by
  rw [Phase.ofProgram_append_singleton, Phase.press] at second
  cases Token.form certain with
  | leaf x =>
      rw [x.kind?_token] at second
      cases phase : Phase.ofProgram program with
      | empty | value => rw [phase] at second; cases second
      | waiting => exact ⟨program, [x.token], rfl, by rw [phase]; rfl, .operand x⟩
      | second =>
          obtain ⟨earlier, entered, cut⟩ := h phase
          exact ⟨earlier, _, cut.append_singleton (.replaced x cut.second)⟩
  | unary u =>
      rw [Token.kind?_symbol (.unary u)] at second
      cases phase : Phase.ofProgram program with
      | empty | value | waiting => rw [phase] at second; cases second
      | second =>
          obtain ⟨earlier, entered, cut⟩ := h phase
          exact ⟨earlier, _, cut.append_singleton (.wrapped u cut.second)⟩
  | binary b =>
      rw [Token.kind?_symbol (.binary b)] at second
      cases phase : Phase.ofProgram program <;> rw [phase] at second <;> cases second
  | equals =>
      rw [Token.equals, Token.kind?_symbol .equals] at second
      cases phase : Phase.ofProgram program <;> rw [phase] at second <;> cases second
  | unknown unknown =>
      rw [Token.kind?_unknown unknown] at known
      cases known

theorem exists_cut (rest : List Token) :
    ∀ {program : List Token},
      (Phase.ofProgram program = .second →
        ∃ earlier entered : List Token, Cut program earlier entered) →
      .ran ∉ rest → (∀ token ∈ rest, token.kind?.isSome) →
      Phase.ofProgram (program ++ rest) = .second →
      ∃ earlier entered : List Token, Cut (program ++ rest) earlier entered := by
  induction rest with
  | nil =>
      intro program h _ _
      rw [List.append_nil]
      exact h
  | cons token rest ih =>
      intro program h certain known
      rw [List.mem_cons, not_or] at certain
      rw [List.append_cons]
      exact ih (exists_cut_append_singleton h (Ne.symm certain.1) (known token List.mem_cons_self))
        certain.2 fun t mem => known t (List.mem_cons_of_mem token mem)

/-- What a program comes to when, after the presses of a second operand, another
operand is entered. -/
theorem Cut.spliced (format : NumberFormat) (bindings : Bindings)
    {program earlier entered : List Token} (cut : Cut program earlier entered)
    (certain : .ran ∉ program) (x : Leaf) :
    ∃ extra : List String,
      (spelled extra = "" ↔ ∀ token ∈ entered, token.Silent format) ∧
      Spliced extra (.ofProgram format bindings (program ++ [x.token]))
        (.ofProgram format bindings (earlier ++ [x.token])) ∧
      (Replay.ofProgram format bindings (earlier ++ [x.token])).phase = .second := by
  have drawless := cut.certain certain
  have waits := cut.waits
  rw [← Replay.phase_ofProgram format bindings drawless,
    Replay.isPending_phase] at waits
  cases start : Replay.ofProgram format bindings earlier with
  | mk accumulator pending fragments =>
      rw [start] at waits
      cases pending with
      | none => cases waits
      | some p =>
          obtain ⟨y, latest, above, reached, silent⟩ := cut.second.pressAll format bindings p
            fragments accumulator
          refine ⟨latest :: above, silent, ?_⟩
          rw [cut.append, Replay.ofProgram_append_singleton, Replay.ofProgram_append, start,
            reached, Replay.ofProgram_append_singleton, start,
            Replay.press_of_entry (x.effect?_token format bindings),
            Replay.press_of_entry (x.effect?_token format bindings)]
          exact ⟨.intro (some (x.value bindings)) (some p) (x.text format) [] fragments, rfl⟩

/-- Entering an operand in the place of another.  The number that stands, and
whether a key waits, are the same as if the earlier operand had never been
entered, whatever is pressed from then on.  The description is the same exactly
if the earlier operand left nothing to read or a new expression was begun. -/
theorem reentered_operand {e : Engine} (typed : e.Typed)
    (second : Phase.ofProgram e.program = .second) :
    (∃ earlier entered : List Token, Cut e.program earlier entered) ∧
    ∀ {earlier entered : List Token}, Cut e.program earlier entered →
      ∀ (x : Leaf) {more : List Token}, .ran ∉ more →
        ∃ a b : Evaluation,
          e.enterAll (x.token :: more) >>= Engine.evaluate = pure a ∧
          (e.withProgram earlier).enterAll (x.token :: more) >>= Engine.evaluate = pure b ∧
          a.result = b.result ∧ a.isPending = b.isPending ∧
          (a.description = b.description
            ↔ (∀ token ∈ entered, token.Silent e.format) ∨ Phase.second.Renews more) := by
  have start : Phase.ofProgram [] = .second →
      ∃ earlier entered : List Token, Cut [] earlier entered := nofun
  refine ⟨exists_cut e.program start typed.certain (fun _ => typed.known) second, ?_⟩
  intro earlier entered cut x more certain
  have drawless : .ran ∉ x.token :: more :=
    fun mem => (List.mem_cons.mp mem).elim (fun same => x.token_ne_ran same.symm) certain
  obtain ⟨extra, silent, spliced, phase⟩ := cut.spliced e.format e.bindings typed.certain x
  have agrees := spliced.evaluation_agrees e.format e.bindings certain
  rw [silent, phase, ← Replay.ofProgram_append, ← Replay.ofProgram_append, ← List.append_cons,
    ← List.append_cons] at agrees
  exact ⟨_, _, Engine.evaluate_enterAll typed.certain drawless,
    Engine.evaluate_enterAll (e := e.withProgram earlier) (cut.certain typed.certain) drawless,
    agrees⟩

/-- After `3 + 4`, where `5` comes in the place of `4`, and then the equals key. -/
theorem reentered_operand_second :
    ∃ e : Engine, ∃ earlier entered more : List Token,
      e.Typed ∧ Phase.ofProgram e.program = .second ∧ Cut e.program earlier entered ∧
      .ran ∉ more ∧ entered = [.operand (.value 4)] ∧ more = [.operation "="] ∧
      ∃ a b : Evaluation,
        e.enterAll (.operand (.value 5) :: more) >>= Engine.evaluate = pure a ∧
        (e.withProgram earlier).enterAll (.operand (.value 5) :: more) >>= Engine.evaluate
          = pure b ∧
        a.result = b.result ∧ a.isPending = b.isPending ∧
        (a.description = b.description
          ↔ (∀ token ∈ entered, token.Silent e.format) ∨ Phase.second.Renews more) := by
  have certain : Token.ran ∉ [Token.operand (.value 3), .operation "+", .operand (.value 4)] := by
    simp [Token.ran, Key.symbol]
  have drawless : Token.ran ∉ [Token.operation "="] := by
    simp [Token.ran, Key.symbol]
  have recorded : recordAll [] [.operand (.value 3), .operation "+", .operand (.value 4)]
      = [.operand (.value 3), .operation "+", .operand (.value 4)] := by
    decide
  have typed : ((Engine.fresh ∅ FixedPoint.standard.toNumberFormat).withProgram
      [.operand (.value 3), .operation "+", .operand (.value 4)]).Typed :=
    ⟨_, certain, recorded ▸ Engine.enterAll_eq_pure List.not_mem_nil certain⟩
  have cut : Cut [.operand (.value 3), .operation "+", .operand (.value 4)]
      [.operand (.value 3), .operation "+"] [.operand (.value 4)] :=
    ⟨rfl, by decide, .operand (.literal (.value 4))⟩
  exact ⟨_, _, _, _, typed, by decide, cut, drawless, rfl, rfl,
    (reentered_operand typed (by decide)).2 cut (.literal (.value 5)) drawless⟩

/-- `3 + 4` followed by `5` is not described as `3 + 5` is. -/
theorem description_of_reentered_operand :
    (Engine.fresh ∅ FixedPoint.standard.toNumberFormat).enterAll
        [.operand (.value 3), .operation "+", .operand (.value 4), .operand (.value 5)]
      >>= Engine.evaluate = pure ⟨some 5, true, "3+45"⟩ ∧
    (Engine.fresh ∅ FixedPoint.standard.toNumberFormat).enterAll
        [.operand (.value 3), .operation "+", .operand (.value 5)]
      >>= Engine.evaluate = pure ⟨some 5, true, "3+5"⟩ := by
  constructor
  · refine (Engine.evaluate_enterAll List.not_mem_nil ?_).trans (congrArg pure ?_)
    · simp [Token.ran, Key.symbol]
    · decide +kernel
  · refine (Engine.evaluate_enterAll List.not_mem_nil ?_).trans (congrArg pure ?_)
    · simp [Token.ran, Key.symbol]
    · decide +kernel

end Keypad
