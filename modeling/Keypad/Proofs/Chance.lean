/-
# `Keypad.Proofs.Chance` — programs without the `Ran` key

Where `Ran` is not pressed nothing is drawn: every question and every press is a
computation that returns its answer at once and leaves the supply of numbers as
it was (`= pure …`).  The state at the end of such a program is then a plain
function of format, bindings and program (`Replay.ofProgram`).

The main statement is `Replay.ofProgram_recordAll`: the program that an engine
keeps of a row of presses replays to the same state as the row itself, under all
bindings.  What was not recorded has no effect and what was dropped would have
been reset.
-/
import Keypad.Proofs.Recording

namespace Keypad

/-- The press of the key that draws. -/
def Token.ran : Token := .operation (Key.symbol .draw)

/-! ## What a token amounts to when nothing is drawn -/

/-- What pressing a key amounts to; nothing is said of the key that draws. -/
def Key.effect? : Key → Option Entry
  | .constant c => some (.operand c.value c.symbol)
  | .unary u => some (.unary u)
  | .binary b => some (.binary b)
  | .draw => none
  | .equals => some .equals

/-- What a token amounts to; nothing is said of the key that draws. -/
def Token.effect? (format : NumberFormat) (bindings : Bindings) : Token → Option Entry
  | .operand literal => some (literal.entry format bindings)
  | .operation symbol => (Key.ofSymbol? symbol).bind Key.effect?

theorem Token.effect?_symbol (format : NumberFormat) (bindings : Bindings) (key : Key) :
    (Token.operation key.symbol).effect? format bindings = key.effect? := by
  rw [effect?, Key.ofSymbol?_symbol]
  rfl

theorem Token.operation_eq_ran {symbol : String} (h : Key.ofSymbol? symbol = some .draw) :
    Token.operation symbol = .ran := by
  rw [Token.ran, Key.ofSymbol?_eq_some.mp h]

theorem Token.entry_eq_pure (format : NumberFormat) (bindings : Bindings) :
    ∀ {token : Token}, token ≠ .ran →
      token.entry format bindings = pure (token.effect? format bindings)
  | .operand _, _ => rfl
  | .operation symbol, h => by
      simp only [Token.entry, Token.effect?]
      cases known : Key.ofSymbol? symbol with
      | none => rfl
      | some key =>
          cases key with
          | draw => exact absurd (Token.operation_eq_ran known) h
          | constant _ | unary _ | binary _ | equals => rfl

theorem Token.map_kind_effect? (format : NumberFormat) (bindings : Bindings) {token : Token}
    (h : token ≠ .ran) : (token.effect? format bindings).map Entry.kind = token.kind? := by
  rw [← Token.map_kind_entry format bindings ⟨fun _ => 0, 0⟩, Token.entry_eq_pure format bindings h]
  rfl

theorem Token.kind?_of_effect? {format : NumberFormat} {bindings : Bindings} {token : Token}
    (h : token ≠ .ran) {entry : Entry} (known : token.effect? format bindings = some entry) :
    token.kind? = some entry.kind := by
  rw [← Token.map_kind_effect? format bindings h, known]
  rfl

theorem entries_eq_pure (format : NumberFormat) (bindings : Bindings) :
    ∀ {program : List Token}, .ran ∉ program →
      entries format bindings program = pure (program.filterMap (Token.effect? format bindings))
  | [], _ => rfl
  | token :: program, h => by
      rw [List.mem_cons, not_or] at h
      rw [entries, Token.entry_eq_pure format bindings (Ne.symm h.1), entries_eq_pure _ _ h.2,
        List.filterMap_cons]
      cases token.effect? format bindings <;> rfl

/-! ## The state at the end of a program -/

namespace Replay

def press (format : NumberFormat) (bindings : Bindings) (r : Replay) (token : Token) : Replay :=
  r.run (token.effect? format bindings).toList

def pressAll (format : NumberFormat) (bindings : Bindings) (r : Replay) (keys : List Token) :
    Replay :=
  keys.foldl (press format bindings) r

/-- The state at the end of a program that draws nothing. -/
def ofProgram (format : NumberFormat) (bindings : Bindings) (program : List Token) : Replay :=
  blank.pressAll format bindings program

variable (format : NumberFormat) (bindings : Bindings)

@[simp] theorem pressAll_cons (r : Replay) (token : Token) (keys : List Token) :
    r.pressAll format bindings (token :: keys)
      = (r.press format bindings token).pressAll format bindings keys := rfl

theorem pressAll_append (r : Replay) (keys more : List Token) :
    r.pressAll format bindings (keys ++ more)
      = (r.pressAll format bindings keys).pressAll format bindings more := List.foldl_append

theorem run_filterMap_effect? (keys : List Token) :
    ∀ r : Replay, r.run (keys.filterMap (Token.effect? format bindings))
      = r.pressAll format bindings keys := by
  induction keys with
  | nil => intro r; rfl
  | cons token keys ih =>
      intro r
      rw [pressAll_cons, ← ih, press, ← run_append, List.filterMap_cons]
      cases token.effect? format bindings <;> rfl

theorem ofProgram_append (program more : List Token) :
    ofProgram format bindings (program ++ more)
      = (ofProgram format bindings program).pressAll format bindings more := List.foldl_append

theorem ofProgram_append_singleton (program : List Token) (token : Token) :
    ofProgram format bindings (program ++ [token])
      = (ofProgram format bindings program).press format bindings token :=
  ofProgram_append format bindings program [token]

theorem phase_press (r : Replay) {token : Token} (h : token ≠ .ran) :
    (r.press format bindings token).phase = r.phase.press token := by
  rw [press, phase_run, Phase.press, ← Token.map_kind_effect? format bindings h]
  cases token.effect? format bindings <;> rfl

theorem phase_pressAll (keys : List Token) :
    ∀ r : Replay, .ran ∉ keys →
      (r.pressAll format bindings keys).phase = keys.foldl Phase.press r.phase := by
  induction keys with
  | nil => intro r _; rfl
  | cons token keys ih =>
      intro r certain
      rw [List.mem_cons, not_or] at certain
      rw [pressAll_cons, ih _ certain.2, phase_press format bindings r (Ne.symm certain.1),
        List.foldl_cons]

theorem phase_ofProgram {program : List Token} (h : .ran ∉ program) :
    (ofProgram format bindings program).phase = Phase.ofProgram program :=
  phase_pressAll format bindings program blank h

variable {format bindings}

/-- An operand that finds nothing waiting leaves nothing of what was there. -/
theorem enter_operand_of_not_isPending {r : Replay} (h : r.isPending = false) (x : Float)
    (text : String) : r.enter (.operand x text) = blank.enter (.operand x text) := by
  obtain ⟨accumulator, pending, fragments⟩ := r
  cases pending with
  | none => rfl
  | some _ => cases h

theorem step_eq_self {r : Replay} {entry : Entry} (h : r.phase.next entry.kind = none) :
    r.step entry = r := by
  rw [← map_phase_enter, Option.map_eq_none_iff] at h
  rw [step, h]
  rfl

theorem press_of_entry {token : Token} {entry : Entry}
    (h : token.effect? format bindings = some entry) (r : Replay) :
    r.press format bindings token = r.step entry := by
  rw [press, h]
  rfl

theorem press_of_kind_eq_none {token : Token} (ht : token ≠ .ran) (h : token.kind? = none)
    (r : Replay) : r.press format bindings token = r := by
  rw [← Token.map_kind_effect? format bindings ht, Option.map_eq_none_iff] at h
  rw [press, h]
  rfl

/-- Where nothing waits, what the program was does not matter to an operand: it
would be reset. -/
theorem ofProgram_kept_append {program : List Token} {token : Token} {x : Float}
    {text : String} (hp : .ran ∉ program)
    (h : token.effect? format bindings = some (.operand x text)) :
    ofProgram format bindings (kept program ++ [token])
      = (ofProgram format bindings program).step (.operand x text) := by
  rw [ofProgram_append_singleton, press_of_entry h, kept]
  cases waits : (Phase.ofProgram program).isPending with
  | true => rfl
  | false =>
      rw [← phase_ofProgram format bindings hp, isPending_phase] at waits
      rw [step, step, enter_operand_of_not_isPending waits]
      rfl

/-- A key that enters no operand is recorded if it has an effect. -/
theorem ofProgram_append_of_next {program : List Token} {token : Token} {entry : Entry}
    (hp : .ran ∉ program) (h : token.effect? format bindings = some entry) :
    ofProgram format bindings
        (if ((Phase.ofProgram program).next entry.kind).isSome then program ++ [token]
          else program)
      = (ofProgram format bindings program).step entry := by
  rw [← phase_ofProgram format bindings hp]
  split
  case isTrue => rw [ofProgram_append_singleton, press_of_entry h]
  case isFalse none => rw [step_eq_self (Option.not_isSome_iff_eq_none.mp none)]

/-- Recording a press keeps what the press does. -/
theorem ofProgram_record {program : List Token} {token : Token} (hp : .ran ∉ program)
    (ht : token ≠ .ran) :
    ofProgram format bindings (record program token)
      = (ofProgram format bindings program).press format bindings token := by
  cases kind : token.kind? with
  | none => rw [record, kind, press_of_kind_eq_none ht kind]
  | some k =>
      obtain ⟨entry, known, rfl⟩ : ∃ entry, token.effect? format bindings = some entry
          ∧ entry.kind = k := by
        rwa [← Token.map_kind_effect? format bindings ht, Option.map_eq_some_iff] at kind
      rw [press_of_entry known]
      cases entry with
      | operand x text => rw [record_operand kind, ofProgram_kept_append hp known]
      | unary _ | binary _ | equals =>
          rw [record_of_next kind Kind.noConfusion]
          exact ofProgram_append_of_next hp known

theorem not_mem_record {program : List Token} {token : Token} (hp : .ran ∉ program)
    (ht : token ≠ .ran) : .ran ∉ record program token :=
  fun h => (mem_of_mem_record h).elim hp fun h => ht h.1.symm

theorem not_mem_recordAll {program keys : List Token} (hp : .ran ∉ program)
    (hk : .ran ∉ keys) : .ran ∉ recordAll program keys :=
  fun h => (mem_of_mem_recordAll keys h).elim hp fun h => hk h.1

/-- What is kept of a row of presses replays like all of them. -/
theorem ofProgram_recordAll :
    ∀ {keys program : List Token}, .ran ∉ program → .ran ∉ keys →
      ofProgram format bindings (recordAll program keys)
        = ofProgram format bindings (program ++ keys)
  | [], program, _, _ => by rw [recordAll_nil, List.append_nil]
  | token :: keys, program, hp, hk => by
      rw [List.mem_cons, not_or] at hk
      have ht : token ≠ .ran := Ne.symm hk.1
      rw [recordAll_cons, ofProgram_recordAll (not_mem_record hp ht) hk.2, ofProgram_append,
        ofProgram_record hp ht, ofProgram_append, pressAll_cons]

end Replay

/-! ## Engines that draw nothing -/

namespace Engine

variable {e : Engine}

theorem replayWith_eq_pure (h : .ran ∉ e.program) (bindings : Bindings) :
    e.replayWith bindings = pure (.ofProgram e.format bindings e.program) := by
  rw [replayWith, entries_eq_pure _ _ h, pure_bind, Replay.run_filterMap_effect?]
  rfl

theorem evaluateWith_eq_pure (h : .ran ∉ e.program) (bindings : Bindings) :
    e.evaluateWith bindings = pure (Replay.ofProgram e.format bindings e.program).evaluation := by
  rw [evaluateWith, replayWith_eq_pure h]
  rfl

theorem isPending_eq_pure (h : .ran ∉ e.program) :
    e.isPending = pure (Phase.ofProgram e.program).isPending := by
  rw [isPending, replay, replayWith_eq_pure h, ← Replay.phase_ofProgram e.format e.bindings h,
    Replay.isPending_phase]
  rfl

/-- Pressing a key on an engine that draws nothing draws nothing, unless it is
the key that draws. -/
theorem supply_press {symbol : String} (h : .ran ∉ e.program) (ht : Token.operation symbol ≠ .ran)
    (draws : Draws) : (e.press symbol draws).2 = draws := by
  rw [press]
  cases known : Key.ofSymbol? symbol with
  | none => rfl
  | some key =>
      show (e.pressKey key draws).2 = draws
      have replayed {e' : Engine} (h : .ran ∉ e'.program) (draws : Draws) :
          (e'.replay draws).2 = draws := by
        rw [replay, replayWith_eq_pure h]
        rfl
      cases key with
      | draw => exact absurd (Token.operation_eq_ran known) ht
      | constant c =>
          have room : .ran ∉ (e.makeRoom draws).1.engine.program := by
            rw [makeRoom_apply]
            exact fun drawn => h (mem_of_mem_kept drawn)
          have made : (e.makeRoom draws).2 = draws := replayed h draws
          show ((e.makeRoom draws).1.engine.replay (e.makeRoom draws).2).2 = draws
          rw [replayed room, made]
      | unary _ | binary _ | equals => exact replayed h draws

/-- A press draws nothing where nothing is drawn, and what it leaves is known. -/
theorem enter_eq_pure (h : .ran ∉ e.program) {token : Token} (ht : token ≠ .ran) :
    e.enter token = pure (e.withProgram (record e.program token)) := by
  funext draws
  refine Prod.ext (e.enter_apply draws token) ?_
  cases token with
  | operand literal =>
      show (e.isPending draws).2 = draws
      rw [isPending_eq_pure h]
      rfl
  | operation symbol => exact supply_press h ht draws

theorem enterAll_eq_pure :
    ∀ {keys : List Token} {e : Engine}, .ran ∉ e.program → .ran ∉ keys →
      e.enterAll keys = pure (e.withProgram (recordAll e.program keys))
  | [], _, _, _ => rfl
  | token :: keys, e, h, hk => by
      rw [List.mem_cons, not_or] at hk
      rw [enterAll_cons, enter_eq_pure h (Ne.symm hk.1), pure_bind,
        enterAll_eq_pure (Replay.not_mem_record h (Ne.symm hk.1)) hk.2]
      rfl

/-- An engine that was made by presses, none of which draws. -/
def Typed (e : Engine) : Prop :=
  ∃ keys : List Token, .ran ∉ keys ∧ (fresh e.bindings e.format).enterAll keys = pure e

theorem Typed.exists_keys (h : e.Typed) :
    ∃ keys : List Token, .ran ∉ keys ∧ e.program = recordAll [] keys := by
  obtain ⟨keys, certain, entered⟩ := h
  rw [enterAll_eq_pure List.not_mem_nil certain] at entered
  have same := congrArg Prod.fst (congrFun entered ⟨fun _ => 0, 0⟩)
  exact ⟨keys, certain, (congrArg program same).symm⟩

theorem Typed.certain (h : e.Typed) : .ran ∉ e.program := by
  obtain ⟨keys, certain, same⟩ := h.exists_keys
  exact same ▸ Replay.not_mem_recordAll List.not_mem_nil certain

theorem Typed.known (h : e.Typed) {token : Token} (mem : token ∈ e.program) :
    token.kind?.isSome := by
  obtain ⟨keys, _, same⟩ := h.exists_keys
  rcases mem_of_mem_recordAll keys (same ▸ mem) with none | ⟨_, known⟩
  · exact absurd none List.not_mem_nil
  · exact known

/-- Where an engine stands after a row of presses. -/
theorem evaluate_enterAll (h : .ran ∉ e.program) {keys : List Token} (hk : .ran ∉ keys) :
    e.enterAll keys >>= evaluate
      = pure (Replay.ofProgram e.format e.bindings (e.program ++ keys)).evaluation := by
  have certain : .ran ∉ (e.withProgram (recordAll e.program keys)).program :=
    Replay.not_mem_recordAll h hk
  rw [enterAll_eq_pure h hk, pure_bind, evaluate, evaluateWith_eq_pure certain]
  exact congrArg (fun r => pure (Replay.evaluation r)) (Replay.ofProgram_recordAll h hk)

end Engine

end Keypad
