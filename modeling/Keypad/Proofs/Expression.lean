/-
# `Keypad.Proofs.Expression` — the tree that a calculation stands for

The engine knows no expressions.  Its description is a row of fragments, to
which things are added at both ends; its result is an accumulator and the
function of a key that waits.  Still one tree explains both:

    x              the operands and constants, as they were entered
    u(t)           a unary key on everything so far, or on the second operand
    t₁ b t₂        a binary key; `t₁` is everything so far, `t₂` one operand

`Calculation` says how the tree grows with the keys, and where its last binary
key stands: without a second operand (`waiting`), with one that it still waits
to be combined with (`second`), or combined (`whole`).  There is no precedence:
the left side of a binary key is always the whole tree.

`Calculation.evaluation` reads the answer off the tree.  The main statement,
`evaluation_eq_tree`, says that the engine gives the same answer, and that the
tree is made of what the engine recorded, in that order.  It asks that no operand
comes while a second operand is there already; what happens then is the business
of `Keypad.Proofs.Reentry`.

The invariant is `Calculation.Shows`: of the fragments of a replay, those below
the last binary symbol spell the left side, and the one above it the second
operand.
-/
import Keypad.Proofs.Operand

namespace Keypad

/-! ## Expressions -/

inductive Expression where
  | leaf (x : Leaf)
  | unary (u : Unary) (operand : Expression)
  | binary (b : Binary) (left right : Expression)

namespace Expression

def value (bindings : Bindings) : Expression → Float
  | .leaf x => x.value bindings
  | .unary u t => u.apply (t.value bindings)
  | .binary b l r => b.apply (l.value bindings) (r.value bindings)

/-- The expression in writing: binary symbols stand between their operands, unary
ones before theirs, which is in parentheses. -/
def text (format : NumberFormat) : Expression → String
  | .leaf x => x.text format
  | .unary u t => u.symbol ++ "(" ++ t.text format ++ ")"
  | .binary b l r => l.text format ++ b.symbol ++ r.text format

/-- The presses that make up the expression, in the order in which they came. -/
def tokens : Expression → List Token
  | .leaf x => [x.token]
  | .unary u t => t.tokens ++ [.operation u.symbol]
  | .binary b l r => l.tokens ++ .operation b.symbol :: r.tokens

end Expression

/-! ## How a tree grows -/

/-- An expression that is being entered. -/
inductive Calculation where
  | blank
  /-- There is an expression, and no binary key waits. -/
  | whole (tree : Expression)
  /-- A binary key waits, and its second operand was not entered. -/
  | waiting (left : Expression) (b : Binary)
  /-- A binary key waits, and its second operand was entered. -/
  | second (left : Expression) (b : Binary) (right : Expression)

namespace Calculation

/-- An operand begins a new expression, unless a binary key waits for it. -/
def place (x : Leaf) : Calculation → Calculation
  | .blank | .whole _ => .whole (.leaf x)
  | .waiting l b | .second l b _ => .second l b (.leaf x)

/-- A unary key acts on the second operand if a binary key waits, and otherwise
on everything. -/
def wrap (u : Unary) : Calculation → Calculation
  | .whole t => .whole (.unary u t)
  | .second l b r => .second l b (.unary u r)
  | s => s

/-- A binary key takes everything so far as its left side. -/
def join (b : Binary) : Calculation → Calculation
  | .whole t => .waiting t b
  | .second l b' r => .waiting (.binary b' l r) b
  | s => s

/-- The equals key combines the two sides of the key that waits. -/
def close : Calculation → Calculation
  | .second l b r => .whole (.binary b l r)
  | s => s

def enter (s : Calculation) : Token → Calculation
  | .operand l => s.place (.literal l)
  | .operation symbol => match Key.ofSymbol? symbol with
    | some (.constant c) => s.place (.constant c)
    | some (.unary u) => s.wrap u
    | some (.binary b) => s.join b
    | some .equals => s.close
    | some .draw | none => s

@[simp] theorem enter_leaf (s : Calculation) : ∀ x : Leaf, s.enter x.token = s.place x
  | .literal _ => rfl
  | .constant c => by
      rw [Leaf.token, enter, ← Key.symbol, Key.ofSymbol?_symbol]

@[simp] theorem enter_unary (s : Calculation) (u : Unary) :
    s.enter (.operation (Key.unary u).symbol) = s.wrap u := by
  rw [enter, Key.ofSymbol?_symbol]

@[simp] theorem enter_binary (s : Calculation) (b : Binary) :
    s.enter (.operation (Key.binary b).symbol) = s.join b := by
  rw [enter, Key.ofSymbol?_symbol]

@[simp] theorem enter_equals (s : Calculation) : s.enter .equals = s.close := by
  rw [Token.equals, enter, Key.ofSymbol?_symbol]

theorem enter_unknown (s : Calculation) {symbol : String} (h : Key.ofSymbol? symbol = none) :
    s.enter (.operation symbol) = s := by
  rw [enter, h]

def enterAll (s : Calculation) (keys : List Token) : Calculation := keys.foldl enter s

def ofKeys (keys : List Token) : Calculation := blank.enterAll keys

def phase : Calculation → Phase
  | .blank => .empty
  | .whole _ => .value
  | .waiting _ _ => .waiting
  | .second _ _ _ => .second

/-- Where the calculation stands.  While a binary key waits, the number is that
of the second operand, and of the left side as long as there is no second
operand; then the symbol of the key stands last. -/
def evaluation (format : NumberFormat) (bindings : Bindings) : Calculation → Evaluation
  | .blank => ⟨none, false, ""⟩
  | .whole t => ⟨some (t.value bindings), false, t.text format⟩
  | .waiting l b => ⟨some (l.value bindings), true, l.text format ++ b.symbol⟩
  | .second l b r =>
    ⟨some (r.value bindings), true, (Expression.binary b l r).text format⟩

/-- The presses that the calculation is made of, in the order in which they
came. -/
def tokens : Calculation → List Token
  | .blank => []
  | .whole t => t.tokens
  | .waiting l b => l.tokens ++ [.operation b.symbol]
  | .second l b r => (Expression.binary b l r).tokens

/-- In a row of presses, no operand comes while a second operand is there. -/
def Orderly : Calculation → List Token → Prop
  | _, [] => True
  | s, token :: keys =>
    (token.kind? = some .operand → s.phase ≠ .second) ∧ (s.enter token).Orderly keys

instance decOrderly : ∀ (s : Calculation) (keys : List Token), Decidable (s.Orderly keys)
  | _, [] => isTrue trivial
  | s, token :: keys =>
    have := decOrderly (s.enter token) keys
    inferInstanceAs (Decidable (_ ∧ _))

/-! ## What a replay shows of it -/

/-- The fragments of a description, the latest first, in one piece. -/
def spelled (fragments : List String) : String := String.join fragments.reverse

theorem spelled_append (latest earlier : List String) :
    spelled (latest ++ earlier) = spelled earlier ++ spelled latest := by
  simp [spelled, String.join_append]

theorem spelled_cons (text : String) (fragments : List String) :
    spelled (text :: fragments) = spelled fragments ++ text := by
  simp [spelled, String.join_append]

theorem spelled_wrapAll (symbol : String) (fragments : List String) :
    spelled (Replay.wrapAll symbol fragments) = symbol ++ "(" ++ spelled fragments ++ ")" := by
  simp [spelled, Replay.wrapAll, String.join_append, String.append_assoc]

/-- The state of a replay agrees with the calculation: the fragments below the
symbol that waits spell the left side, the one above it the second operand. -/
inductive Shows (format : NumberFormat) (bindings : Bindings) : Calculation → Replay → Prop
  | blank : Shows format bindings .blank .blank
  | whole {t : Expression} {fragments : List String} :
      spelled fragments = t.text format →
      Shows format bindings (.whole t) ⟨some (t.value bindings), none, fragments⟩
  | waiting {l : Expression} {b : Binary} {fragments : List String} :
      spelled fragments = l.text format →
      Shows format bindings (.waiting l b)
        ⟨none, some ⟨b, l.value bindings⟩, b.symbol :: fragments⟩
  | second {l r : Expression} {b : Binary} {fragments : List String} :
      spelled fragments = l.text format →
      Shows format bindings (.second l b r)
        ⟨some (r.value bindings), some ⟨b, l.value bindings⟩,
          r.text format :: b.symbol :: fragments⟩

namespace Shows

variable {format : NumberFormat} {bindings : Bindings} {s : Calculation} {r : Replay}

theorem phase_eq (h : Shows format bindings s r) : r.phase = s.phase := by
  cases h <;> rfl

theorem evaluation_eq (h : Shows format bindings s r) :
    r.evaluation = s.evaluation format bindings := by
  cases h with
  | blank => rfl
  | whole text => exact congrArg (Evaluation.mk _ _) text
  | waiting text =>
      refine congrArg (Evaluation.mk _ _) ?_
      rw [Replay.description, ← spelled, spelled_cons, text]
  | second text =>
      refine congrArg (Evaluation.mk _ _) ?_
      rw [Replay.description, ← spelled, spelled_cons, spelled_cons, text, Expression.text]

/-- An operand is placed where the tree has room for it. -/
theorem place (h : Shows format bindings s r) (x : Leaf) (room : s.phase ≠ .second) :
    Shows format bindings (s.place x) (r.step (.operand (x.value bindings) (x.text format))) := by
  cases h with
  | blank | whole _ => exact .whole (String.empty_append)
  | waiting text => exact .second text
  | second _ => exact absurd rfl room

/-- With nothing waiting the wrap is around everything, otherwise around the
latest fragment, and that is the second operand. -/
theorem wrap (h : Shows format bindings s r) (u : Unary) :
    Shows format bindings (s.wrap u) (r.step (.unary u)) := by
  cases h with
  | blank => exact .blank
  | whole text =>
      refine .whole ?_
      show spelled (Replay.wrapAll _ _) = _
      rw [spelled_wrapAll, text, Expression.text]
  | waiting text => exact .waiting text
  | second text => exact .second text

theorem join (h : Shows format bindings s r) (b : Binary) :
    Shows format bindings (s.join b) (r.step (.binary b)) := by
  cases h with
  | blank => exact .blank
  | whole text => exact .waiting text
  | waiting text => exact .waiting text
  | second text =>
      refine .waiting ?_
      rw [spelled_cons, spelled_cons, text, Expression.text]

theorem close (h : Shows format bindings s r) :
    Shows format bindings s.close (r.step .equals) := by
  cases h with
  | blank => exact .blank
  | whole text => exact .whole text
  | waiting text => exact .waiting text
  | second text =>
      refine .whole ?_
      rw [spelled_cons, spelled_cons, text, Expression.text]

theorem enter (h : Shows format bindings s r) {token : Token} (certain : token ≠ .ran)
    (room : token.kind? = some .operand → s.phase ≠ .second) :
    Shows format bindings (s.enter token) (r.press format bindings token) := by
  cases Token.form certain with
  | leaf x =>
      rw [enter_leaf, Replay.press_of_entry (x.effect?_token format bindings)]
      exact h.place x (room x.kind?_token)
  | unary u =>
      rw [enter_unary, Replay.press_of_entry (Token.effect?_symbol format bindings (.unary u))]
      exact h.wrap u
  | binary b =>
      rw [enter_binary, Replay.press_of_entry (Token.effect?_symbol format bindings (.binary b))]
      exact h.join b
  | equals =>
      rw [enter_equals, Token.equals,
        Replay.press_of_entry (Token.effect?_symbol format bindings .equals)]
      exact h.close
  | unknown unknown =>
      rw [enter_unknown s unknown,
        Replay.press_of_kind_eq_none certain (Token.kind?_unknown unknown)]
      exact h

end Shows

/-! ## What it is made of

The program that the engine keeps lists the same presses as the tree, but for the
equals keys, which a tree does not remember. -/

section Tokens

variable (s : Calculation)

theorem tokens_place (x : Leaf) (room : s.phase ≠ .second) :
    (s.place x).tokens = (if s.phase.isPending then s.tokens else []) ++ [x.token] := by
  cases s with
  | blank | whole _ => rfl
  | waiting l b => simp [place, tokens, phase, Phase.isPending, Expression.tokens]
  | second _ _ _ => exact absurd rfl room

theorem tokens_wrap (u : Unary) :
    (s.wrap u).tokens
      = if (s.phase.next .unary).isSome then s.tokens ++ [.operation u.symbol] else s.tokens := by
  cases s with
  | blank | waiting _ _ | whole _ => rfl
  | second l b r => simp [wrap, tokens, phase, Phase.next, Expression.tokens]

theorem tokens_join (b : Binary) :
    (s.join b).tokens
      = if (s.phase.next .binary).isSome then s.tokens ++ [.operation b.symbol] else s.tokens := by
  cases s <;> rfl

theorem tokens_close : s.close.tokens = s.tokens := by
  cases s <;> rfl

end Tokens

/-- A program without its equals keys. -/
def withoutEquals (program : List Token) : List Token :=
  program.filter fun token => decide (token ≠ .equals)

theorem withoutEquals_append_singleton (program : List Token) {token : Token}
    (h : token ≠ .equals) :
    withoutEquals (program ++ [token]) = withoutEquals program ++ [token] := by
  simp [withoutEquals, h]

theorem withoutEquals_append_equals (program : List Token) :
    withoutEquals (program ++ [.equals]) = withoutEquals program := by
  simp [withoutEquals]

theorem withoutEquals_record_operand {program : List Token} {token : Token}
    (kind : token.kind? = some .operand) (other : token ≠ .equals) :
    withoutEquals (record program token)
      = (if (Phase.ofProgram program).isPending then withoutEquals program else [])
        ++ [token] := by
  rw [record_operand kind, withoutEquals_append_singleton _ other, kept]
  split <;> rfl

theorem withoutEquals_record_of_next {program : List Token} {token : Token} {kind : Kind}
    (h : token.kind? = some kind) (hk : kind ≠ .operand) (other : token ≠ .equals) :
    withoutEquals (record program token)
      = if ((Phase.ofProgram program).next kind).isSome then withoutEquals program ++ [token]
        else withoutEquals program := by
  rw [record_of_next h hk]
  split
  · exact withoutEquals_append_singleton _ other
  · rfl

theorem withoutEquals_record_equals (program : List Token) :
    withoutEquals (record program .equals) = withoutEquals program := by
  rw [Token.equals, record_of_next (Token.kind?_symbol .equals) Kind.noConfusion]
  split
  · exact withoutEquals_append_equals program
  · rfl

/-- Recording a press adds to the program what the press adds to the tree. -/
theorem withoutEquals_record {program : List Token} {s : Calculation}
    (phase : Phase.ofProgram program = s.phase) (made : withoutEquals program = s.tokens)
    {token : Token} (certain : token ≠ .ran)
    (room : token.kind? = some .operand → s.phase ≠ .second) :
    withoutEquals (record program token) = (s.enter token).tokens := by
  cases Token.form certain with
  | leaf x =>
      rw [withoutEquals_record_operand x.kind?_token (x.token_ne_symbol .equals Kind.noConfusion),
        phase, made, enter_leaf, s.tokens_place x (room x.kind?_token)]
  | unary u =>
      rw [withoutEquals_record_of_next (Token.kind?_symbol (.unary u)) Kind.noConfusion
        (Key.token_ne_equals Key.noConfusion), phase, made, enter_unary, s.tokens_wrap]
      rfl
  | binary b =>
      rw [withoutEquals_record_of_next (Token.kind?_symbol (.binary b)) Kind.noConfusion
        (Key.token_ne_equals Key.noConfusion), phase, made, enter_binary, s.tokens_join]
      rfl
  | equals => rw [withoutEquals_record_equals, made, enter_equals, s.tokens_close]
  | unknown unknown =>
      rw [record, Token.kind?_unknown unknown, enter_unknown s unknown]
      exact made

/-- All that holds of a calculation and the program kept for it. -/
structure Tracks (format : NumberFormat) (bindings : Bindings) (s : Calculation)
    (program : List Token) : Prop where
  certain : .ran ∉ program
  shows : Shows format bindings s (.ofProgram format bindings program)
  made : withoutEquals program = s.tokens

namespace Tracks

variable {format : NumberFormat} {bindings : Bindings}

theorem blank : Tracks format bindings .blank [] :=
  ⟨List.not_mem_nil, .blank, rfl⟩

theorem record {s : Calculation} {program : List Token} (h : Tracks format bindings s program)
    {token : Token} (certain : token ≠ .ran)
    (room : token.kind? = some .operand → s.phase ≠ .second) :
    Tracks format bindings (s.enter token) (record program token) where
  certain := Replay.not_mem_record h.certain certain
  shows := Replay.ofProgram_record h.certain certain ▸ h.shows.enter certain room
  made := by
    have phase : Phase.ofProgram program = s.phase :=
      (Replay.phase_ofProgram format bindings h.certain).symm.trans h.shows.phase_eq
    exact withoutEquals_record phase h.made certain room

theorem recordAll (keys : List Token) :
    ∀ {s : Calculation} {program : List Token}, Tracks format bindings s program →
      .ran ∉ keys → s.Orderly keys →
      Tracks format bindings (s.enterAll keys) (recordAll program keys) := by
  induction keys with
  | nil => intro s program h _ _; exact h
  | cons token keys ih =>
      intro s program h certain orderly
      rw [List.mem_cons, not_or] at certain
      exact ih (h.record (Ne.symm certain.1) orderly.1) certain.2 orderly.2

end Tracks

/-- One tree explains the answer of an engine: the number, whether a key waits,
and the description, under all bindings; and it is made of the presses that the
engine recorded, in their order. -/
theorem evaluation_eq_tree (format : NumberFormat) (bindings : Bindings) {keys : List Token}
    (certain : .ran ∉ keys) (orderly : blank.Orderly keys) :
    ∃ program : List Token,
      (Engine.fresh bindings format).enterAll keys
        = pure ((Engine.fresh bindings format).withProgram program) ∧
      withoutEquals program = (ofKeys keys).tokens ∧
      ((Engine.fresh bindings format).withProgram program).evaluate
        = pure ((ofKeys keys).evaluation format bindings) ∧
      ∀ other : Bindings,
        ((Engine.fresh bindings format).withProgram program).evaluateWith other
          = pure ((ofKeys keys).evaluation format other) := by
  have tracks (b : Bindings) : Tracks format b (ofKeys keys) (Keypad.recordAll [] keys) :=
    Tracks.blank.recordAll keys certain orderly
  have evaluated (b : Bindings) :
      ((Engine.fresh bindings format).withProgram (Keypad.recordAll [] keys)).evaluateWith b
        = pure ((ofKeys keys).evaluation format b) := by
    rw [Engine.evaluateWith_eq_pure (tracks b).certain]
    exact congrArg pure (tracks b).shows.evaluation_eq
  exact ⟨Keypad.recordAll [] keys, Engine.enterAll_eq_pure List.not_mem_nil certain,
    (tracks bindings).made, evaluated bindings, evaluated⟩

/-- At `3 + x √ = √`, with `x` unbound, the tree is `√(3+√(x))`. -/
theorem evaluation_eq_tree_nested :
    ∃ keys program : List Token,
      keys = [.operand (.value 3), .operation "+", .operand (.named "x"), .operation "√",
        .operation "=", .operation "√"] ∧
      .ran ∉ keys ∧ blank.Orderly keys ∧
      (Engine.fresh ∅ FixedPoint.standard.toNumberFormat).enterAll keys
        = pure ((Engine.fresh ∅ FixedPoint.standard.toNumberFormat).withProgram program) ∧
      withoutEquals program = [.operand (.value 3), .operation "+", .operand (.named "x"),
        .operation "√", .operation "√"] ∧
      ((Engine.fresh ∅ FixedPoint.standard.toNumberFormat).withProgram program).evaluate
        = pure ⟨some (3 + (0 : Float).sqrt).sqrt, false, "√(3+√(x))"⟩ := by
  have certain : Token.ran ∉ [Token.operand (.value 3), .operation "+", .operand (.named "x"),
      .operation "√", .operation "=", .operation "√"] := by
    simp [Token.ran, Key.symbol]
  obtain ⟨program, entered, made, evaluated, -⟩ :=
    evaluation_eq_tree FixedPoint.standard.toNumberFormat ∅ certain (by decide)
  exact ⟨_, program, rfl, certain, by decide, entered, made.trans (by decide),
    evaluated.trans (congrArg pure (by decide +kernel))⟩

end Calculation

end Keypad
