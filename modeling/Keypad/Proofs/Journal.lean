/-
# `Keypad.Proofs.Journal` — the events are a journal of the program

An engine changes its program in one place and reports the change in another.  Whoever
keeps the reports should be able to tell from them what the program is.  Here is the
one who tries (`readJournal`): it starts with a program, makes the changes that the
events name, and believes nothing.

| event | what becomes of the program | refused unless |
| :-- | :-- | :-- |
| a new expression | nothing is left of it | it had that many entries, and some |
| appended | the entry comes to its end | |
| undone | its last entry goes | that was the entry |
| passed over | stays as it is | |

Every other event is refused.  The main statement, `Engine.journal_retells`, says that
nothing is refused of what presses and undoing report, that the reader arrives at the
program of the engine after each of them, and what the report of a single one looks
like (`Tells`).  It is said of an engine with any program, however it came about.
Clearing is left out, for it empties the program and reports nothing.
-/
import Keypad.Proofs.Session

namespace Keypad

/-! ## Reading a journal -/

/-- The program after an event, if the event can have happened to it. -/
def Event.after? (program : List Token) : Event → Option (List Token)
  | .startedOver dropped => if dropped = program.length ∧ dropped ≠ 0 then some [] else none
  | .appendedOperand literal => some (program ++ [.operand literal])
  | .appendedOperation symbol => some (program ++ [.operation symbol])
  | .undone token => if program.getLast? = some token then some program.dropLast else none
  | .unknownKey _ | .missingOperand _ => some program
  | _ => none

/-- The program at the end of a journal, if nothing in it is found to be false. -/
def readJournal (program : List Token) (events : List Event) : Option (List Token) :=
  events.foldlM Event.after? program

theorem readJournal_append {program middle : List Token} {events : List Event}
    (h : readJournal program events = some middle) (more : List Event) :
    readJournal program (events ++ more) = readJournal middle more := by
  rw [readJournal, List.foldlM_append, ← readJournal, h]
  rfl

/-! ## What one press reports -/

/-- The event of an entry that is recorded. -/
def Token.appended : Token → Event
  | .operand literal => .appendedOperand literal
  | .operation symbol => .appendedOperation symbol

theorem Token.after?_appended (program : List Token) :
    ∀ token : Token, token.appended.after? program = some (program ++ [token])
  | .operand _ | .operation _ => rfl

/-- What a press or undoing reports of the change that it makes to a program.  A press
reports one of four things: that there is no such key, that the key had nothing to act
on, and twice that the entry was appended, to the program or in the place of one that
was dropped; this alone is reported before.  To undo reports what is taken back, and
nothing if there is nothing. -/
inductive Tells (before : List Token) : Call → List Event → List Token → Prop
  | unknown {symbol : String} : Key.ofSymbol? symbol = none →
      Tells before (.enter (.operation symbol)) [.unknownKey symbol] before
  | missing (key : Key) :
      Tells before (.enter (.operation key.symbol)) [.missingOperand key.symbol] before
  | continued (token : Token) : Tells before (.enter token) [token.appended] (before ++ [token])
  | begun (token : Token) : before ≠ [] →
      Tells before (.enter token) [.startedOver before.length, token.appended] [token]
  | undone {earlier : List Token} {token : Token} : before = earlier ++ [token] →
      Tells before .undo [.undone token] earlier
  | nothing : before = [] → Tells before .undo [] before

namespace Tells

variable {before after : List Token} {call : Call} {events : List Event}

/-- What is told is true, and it is all that there is to tell. -/
theorem read (h : Tells before call events after) : readJournal before events = some after := by
  cases h with
  | unknown _ | missing _ | nothing _ => rfl
  | continued token => exact congrArg (· >>= pure) (token.after?_appended before)
  | begun token some_dropped =>
      have count : before.length ≠ 0 := fun none => some_dropped (List.length_eq_zero_iff.mp none)
      have dropped : (Event.startedOver before.length).after? before = some [] :=
        if_pos ⟨rfl, count⟩
      rw [readJournal, List.foldlM_cons, dropped]
      exact congrArg (· >>= pure) (token.after?_appended [])
  | @undone _ token last =>
      have taken : (Event.undone token).after? before = some after := by
        rw [Event.after?, last, if_pos List.getLast?_concat, List.dropLast_concat]
      exact congrArg (· >>= pure) taken

/-- An entry that is recorded tells that it was appended, and if nothing of the
program is kept it tells so before. -/
theorem recorded (program : List Token) {events : List Event} (token : Token)
    (report : events = roomReport program ++ [token.appended]) :
    Tells program (.enter token) events (kept program ++ [token]) := by
  subst report
  rw [roomReport, kept]
  cases waits : (Phase.ofProgram program).isPending with
  | true => exact .continued token
  | false =>
      -- What is dropped is reported only if there was something.
      cases program with
      | nil => exact .continued token
      | cons first rest => exact .begun token (List.cons_ne_nil first rest)

/-- The report of a press is about what the press does. -/
theorem press (program : List Token) (token : Token) :
    Tells program (.enter token) (report program token) (record program token) := by
  cases token with
  | operand literal =>
      rw [record_operand rfl]
      exact recorded program (.operand literal) rfl
  | operation symbol =>
      cases known : Key.ofSymbol? symbol with
      | none =>
          rw [report, record, Token.kind?_unknown known]
          exact .unknown known
      | some key =>
          obtain rfl := Key.ofSymbol?_eq_some.mp known
          have kind := Token.kind?_symbol key
          by_cases operand : key.kind = .operand
          · rw [operand] at kind
            rw [report_symbol_operand program operand, record_operand kind]
            exact recorded program (.operation key.symbol) rfl
          · rw [report_symbol_other program operand, record_of_next kind operand, trialReport]
            cases ((Phase.ofProgram program).next key.kind).isSome with
            | true => exact .continued (.operation key.symbol)
            | false => exact .missing key

end Tells

/-! ## What is reported in the course of time -/

namespace Engine

theorem tells_undo (e : Engine) (draws : Draws) :
    Tells e.program .undo (e.undo draws).1.events (e.undo draws).1.engine.program := by
  rcases e.undo_cases draws with ⟨none, undone⟩ | ⟨earlier, token, program, undone⟩
  · rw [undone]
    exact .nothing none
  · rw [undone]
    exact .undone program

/-- Clearing has no report that could tell of it. -/
theorem tells_call (e : Engine) {c : Call} (keyed : c.Keyed) (uncleared : c ≠ .clear)
    (draws : Draws) :
    Tells e.program c (e.call c draws).1.events (e.call c draws).1.engine.program := by
  cases c with
  | undo => exact e.tells_undo draws
  | enter token =>
      show Tells e.program (.enter token) (e.entered token draws).1.events
        (e.entered token draws).1.engine.program
      rw [entered_apply]
      exact Tells.press e.program token
  | clear => exact absurd rfl uncleared
  | setVariable _ _ | evaluateUsing _ | evaluateWith _ | plot _ _ | setFormat _ => cases keyed

/-- Undoing reports nothing just if it returns nothing. -/
theorem events_undo_eq_nil_iff (e : Engine) (draws : Draws) :
    (e.undo draws).1.events = [] ↔ (e.undo draws).1.result = none := by
  rcases e.undo_cases draws with ⟨_, undone⟩ | ⟨earlier, token, _, undone⟩
  · rw [undone]
    exact iff_of_true rfl rfl
  · rw [undone]
    exact iff_of_false (List.cons_ne_nil _ _) (Option.some_ne_none _)

theorem read_session {calls : List Call} (keyed : ∀ c ∈ calls, c.Keyed)
    (uncleared : .clear ∉ calls) :
    ∀ (e : Engine) (draws : Draws),
      readJournal e.program (e.session calls draws).1.events
        = some (e.session calls draws).1.engine.program := by
  induction calls with
  | nil => intro e draws; rfl
  | cons c calls ih =>
      intro e draws
      obtain ⟨here, later⟩ := List.forall_mem_cons.mp keyed
      rw [List.mem_cons, not_or] at uncleared
      have first := (e.tells_call here (Ne.symm uncleared.1) draws).read
      have rest := ih later uncleared.2 (e.call c draws).1.engine (e.call c draws).2
      exact (readJournal_append first _).trans rest

/-- The events are a faithful journal of the program.  Whatever the program was, the
reader of the events of a row of presses and undoing arrives at the program of the
engine after them, without finding anything to be false.  Of the next one, whatever it
is, the report is as `Tells` says, and undoing reports nothing just if it returns
nothing. -/
theorem journal_retells (e : Engine) {calls : List Call} (keyed : ∀ c ∈ calls, c.Keyed)
    (uncleared : .clear ∉ calls) (draws : Draws) :
    let told := e.session calls draws
    readJournal e.program told.1.events = some told.1.engine.program ∧
    (∀ c : Call, c.Keyed → c ≠ .clear →
      let next := (told.1.engine.call c told.2).1
      Tells told.1.engine.program c next.events next.engine.program) ∧
    ((told.1.engine.undo told.2).1.events = [] ↔ (told.1.engine.undo told.2).1.result = none) := by
  intro told
  refine ⟨read_session keyed uncleared e draws, ?_, ?_⟩
  · intro c here other
    exact told.1.engine.tells_call here other told.2
  · exact told.1.engine.events_undo_eq_nil_iff told.2

/-- A stored program `7 + +` of which the last entry is undone; `√` has nothing to act on
while `+` waits, and once that is undone too `5` begins a new expression. -/
theorem journal_retells_dropped :
    ∃ (e : Engine) (calls : List Call) (draws : Draws),
      e.program = [.operand (.value 7), .operation "+", .operation "+"] ∧
      calls = [.undo, .enter (.operation "√"), .undo, .enter (.operand (.value 5))] ∧
      (∀ c ∈ calls, c.Keyed) ∧ .clear ∉ calls ∧
      (e.session calls draws).1.events = [.undone (.operation "+"), .missingOperand "√",
        .undone (.operation "+"), .startedOver 1, .appendedOperand (.value 5)] ∧
      readJournal e.program (e.session calls draws).1.events = some [.operand (.value 5)] := by
  let e := (new.setProgram [.number 7, .text "+", .text "+"]).engine
  let calls : List Call := [.undo, .enter (.operation "√"), .undo, .enter (.operand (.value 5))]
  let draws : Draws := ⟨fun _ => 0, 0⟩
  have keyed : ∀ c ∈ calls, c.Keyed := by simp [calls, Call.Keyed]
  have uncleared : .clear ∉ calls := by simp [calls]
  have program : (e.session calls draws).1.engine.program = [.operand (.value 5)] := by
    decide +kernel
  refine ⟨e, calls, draws, rfl, rfl, keyed, uncleared, rfl, ?_⟩
  rw [← program]
  exact (journal_retells e keyed uncleared draws).1

end Engine

end Keypad
