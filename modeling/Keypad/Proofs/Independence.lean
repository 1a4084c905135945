/-
# `Keypad.Proofs.Independence` — what is recorded does not depend on values

A press is accepted or passed over after a replay with the numbers, bindings,
format and draws of the moment.  None of them has a say in it.  Take two sessions
in which the same keys are pressed and undone, with other numbers in them, other
things bound, drawn, asked and drawn as curves between the presses: they accept
the same presses, record the same keys and names, and are pending and plottable
at the same times (`watch_eq_of_gestures_eq`).

Nor does it matter when variables are bound and a format is chosen: the engine at
the end of a session is the one that the presses alone make, with the last
bindings and the last format put in afterwards (`callAll_eq_gestures_first`).  Of
an evaluation the description does not depend on bindings, the result does not
depend on the format, and neither depends on variables that do not occur in the
program.

There are three relations between two runs, one for each of these statements:
programs that agree but for their numbers (`Token.mark`), replays that agree in
what there is to read (`SameText`), and replays that agree in their numbers
(`SameNumbers`).
-/
import Keypad.Proofs.Session

namespace Keypad

/-! ## Programs without their numbers -/

/-- A token of which the number is forgotten, if it has one. -/
inductive Mark where
  | number
  | named (name : String)
  | operation (symbol : String)
  deriving DecidableEq

def Token.mark : Token → Mark
  | .operand (.value _) => .number
  | .operand (.named name) => .named name
  | .operation symbol => .operation symbol

/-- A token with a given mark. -/
def Mark.token : Mark → Token
  | .number => .operand (.value 0)
  | .named name => .operand (.named name)
  | .operation symbol => .operation symbol

def Mark.kind? (m : Mark) : Option Kind := m.token.kind?

theorem Mark.mark_token : ∀ m : Mark, m.token.mark = m
  | .number | .named _ | .operation _ => rfl

theorem Token.kind?_mark : ∀ token : Token, token.mark.kind? = token.kind?
  | .operand (.value _) | .operand (.named _) | .operation _ => rfl

theorem Token.kind?_eq_of_mark_eq {s t : Token} (h : s.mark = t.mark) : s.kind? = t.kind? := by
  rw [← s.kind?_mark, h, t.kind?_mark]

def marks (program : List Token) : List Mark := program.map Token.mark

theorem marks_append_singleton (program : List Token) (token : Token) :
    marks (program ++ [token]) = marks program ++ [token.mark] := List.map_append

section Marks

variable {p q : List Token}

theorem phase_eq_of_marks_eq (h : marks p = marks q) : Phase.ofProgram p = Phase.ofProgram q := by
  have kinds (program : List Token) :
      program.filterMap Token.kind? = (marks program).filterMap Mark.kind? := by
    rw [marks, List.filterMap_map]
    exact congrArg (program.filterMap ·) (funext fun token => token.kind?_mark.symm)
  rw [Phase.ofProgram, Phase.ofProgram, ← Phase.foldl_step_filterMap_kind?, kinds, h, ← kinds,
    Phase.foldl_step_filterMap_kind?]

theorem isEmpty_eq_of_marks_eq (h : marks p = marks q) : p.isEmpty = q.isEmpty := by
  rw [← List.isEmpty_map (f := Token.mark), ← marks, h, marks, List.isEmpty_map]

theorem marks_kept (h : marks p = marks q) : marks (kept p) = marks (kept q) := by
  rw [kept, kept, phase_eq_of_marks_eq h]
  split
  · exact h
  · rfl

/-- Whether a press is accepted does not depend on numbers. -/
theorem accepts_eq_of_marks_eq (h : marks p = marks q) {s t : Token} (ht : s.mark = t.mark) :
    accepts p s = accepts q t := by
  rw [accepts, accepts, Token.kind?_eq_of_mark_eq ht, phase_eq_of_marks_eq h]

/-- What is recorded does not depend on numbers, but for the numbers in it. -/
theorem marks_record (h : marks p = marks q) {s t : Token} (ht : s.mark = t.mark) :
    marks (record p s) = marks (record q t) := by
  have kinds := Token.kind?_eq_of_mark_eq ht
  cases known : t.kind? with
  | none => rw [record, record, kinds, known, h]
  | some kind =>
      rw [known] at kinds
      by_cases operand : kind = .operand
      · rw [operand] at known kinds
        rw [record_operand known, record_operand kinds, marks_append_singleton,
          marks_append_singleton, marks_kept h, ht]
      · rw [record_of_next known operand, record_of_next kinds operand, phase_eq_of_marks_eq h]
        split
        · rw [marks_append_singleton, marks_append_singleton, h, ht]
        · exact h

end Marks

/-! ## Sessions that look alike -/

/-- What is done to a program in a call, without numbers. -/
inductive Gesture where
  | entered (mark : Mark)
  | undone
  | cleared
  deriving DecidableEq

def Call.gesture? : Call → Option Gesture
  | .enter token => some (.entered token.mark)
  | .undo => some .undone
  | .clear => some .cleared
  | _ => none

/-- A call that makes a given gesture. -/
def Gesture.call : Gesture → Call
  | .entered mark => .enter mark.token
  | .undone => .undo
  | .cleared => .clear

theorem Gesture.gesture?_call : ∀ g : Gesture, g.call.gesture? = some g
  | .entered mark => congrArg (fun m => some (Gesture.entered m)) mark.mark_token
  | .undone | .cleared => rfl

/-- What is seen of a call that does something to the program: whether it was
accepted as an entry, and what the program and the engine look like then. -/
structure Sight where
  accepted : Bool
  marks : List Mark
  isPending : Bool
  isPlottable : Bool
  deriving DecidableEq

namespace Engine

def sight (e : Engine) (events : List Event) : Drawing Sight := do
  return ⟨events.any Event.appends, marks e.program, ← e.isPending, ← e.isPlottable⟩

/-- What is seen in a session: after every press, undoing and clearing, and at
the end. -/
def watch (e : Engine) : List Call → Drawing (List Sight)
  | [] => do return [← e.sight []]
  | c :: calls => do
    let outcome ← e.call c
    if c.gesture?.isSome then
      let seen ← outcome.engine.sight outcome.events
      return seen :: (← outcome.engine.watch calls)
    else outcome.engine.watch calls

theorem isPlottable_apply (e : Engine) (draws : Draws) :
    (e.isPlottable draws).1
      = (!e.program.isEmpty && !(Phase.ofProgram e.program).isPending) := by
  rw [← e.isPending_apply draws]
  rfl

theorem sight_apply (e : Engine) (events : List Event) (draws : Draws) :
    (e.sight events draws).1
      = ⟨events.any Event.appends, marks e.program, (Phase.ofProgram e.program).isPending,
          !e.program.isEmpty && !(Phase.ofProgram e.program).isPending⟩ := by
  have pending := e.isPending_apply draws
  have plottable := e.isPlottable_apply (e.isPending draws).2
  show Sight.mk _ _ (e.isPending draws).1 (e.isPlottable (e.isPending draws).2).1 = _
  rw [pending, plottable]

/-- Two programs that agree but for their numbers look alike. -/
theorem sight_eq_of_marks_eq {a b : Engine} (h : marks a.program = marks b.program)
    {events events' : List Event} (same : events.any Event.appends = events'.any Event.appends)
    (draws draws' : Draws) : (a.sight events draws).1 = (b.sight events' draws').1 := by
  rw [sight_apply, sight_apply, same, h, phase_eq_of_marks_eq h, isEmpty_eq_of_marks_eq h]

theorem any_appends_call (e : Engine) (c : Call) (draws : Draws) {g : Gesture}
    (h : c.gesture? = some g) :
    (e.call c draws).1.events.any Event.appends
      = match c with
        | .enter token => accepts e.program token
        | _ => false := by
  cases c with
  | enter token =>
      show (e.entered token draws).1.events.any Event.appends = _
      rw [entered_apply]
      exact any_appends_report e.program token
  | undo =>
      show (e.undo draws).1.events.any Event.appends = false
      rw [undo]
      cases e.program.getLast? <;> rfl
  | clear => rfl
  | setVariable _ _ | evaluateUsing _ | evaluateWith _ | plot _ _ | setFormat _ => cases h

/-- A call has the same effect as the gesture that it makes, on programs that agree
but for their numbers, and is accepted with it or not. -/
theorem call_alike {a b : Engine} (h : marks a.program = marks b.program) {c : Call} {g : Gesture}
    (made : c.gesture? = some g) (draws draws' : Draws) :
    marks (a.call c draws).1.engine.program = marks (b.call g.call draws').1.engine.program ∧
    (a.call c draws).1.events.any Event.appends
      = (b.call g.call draws').1.events.any Event.appends := by
  rw [engine_call, engine_call, any_appends_call a c draws made,
    any_appends_call b g.call draws' g.gesture?_call]
  cases c with
  | enter token =>
      cases made
      have same : token.mark = token.mark.token.mark := token.mark.mark_token.symm
      exact ⟨marks_record h same, accepts_eq_of_marks_eq h same⟩
  | undo =>
      cases made
      refine ⟨?_, rfl⟩
      show a.program.dropLast.map Token.mark = b.program.dropLast.map Token.mark
      rw [List.map_dropLast, List.map_dropLast, ← marks, h, marks]
  | clear =>
      cases made
      exact ⟨rfl, rfl⟩
  | setVariable _ _ | evaluateUsing _ | evaluateWith _ | plot _ _ | setFormat _ => cases made

/-- A call that is no gesture leaves the program alone. -/
theorem program_call_of_gesture?_eq_none (e : Engine) {c : Call} (h : c.gesture? = none) :
    (c.engine e).program = e.program := by
  cases c with
  | enter _ | undo | clear => cases h
  | setVariable _ _ | evaluateUsing _ | evaluateWith _ | plot _ _ | setFormat _ => rfl

theorem watch_cons_of_gesture (e : Engine) {c : Call} {g : Gesture} (made : c.gesture? = some g)
    (calls : List Call) (draws : Draws) :
    ∃ supply supply' : Draws,
      (e.watch (c :: calls) draws).1
        = ((e.call c draws).1.engine.sight (e.call c draws).1.events supply).1
          :: ((e.call c draws).1.engine.watch calls supply').1 := by
  refine ⟨(e.call c draws).2,
    ((e.call c draws).1.engine.sight (e.call c draws).1.events (e.call c draws).2).2, ?_⟩
  simp only [watch, made]
  rfl

theorem watch_cons_of_not_gesture (e : Engine) {c : Call} (idle : c.gesture? = none)
    (calls : List Call) (draws : Draws) :
    ∃ supply : Draws,
      (e.watch (c :: calls) draws).1 = ((e.call c draws).1.engine.watch calls supply).1 := by
  refine ⟨(e.call c draws).2, ?_⟩
  simp only [watch, idle]
  rfl

/-- A session looks like its gestures alone. -/
theorem watch_eq_watch_gestures (calls : List Call) :
    ∀ {a b : Engine}, marks a.program = marks b.program → ∀ draws draws' : Draws,
      (a.watch calls draws).1
        = (b.watch ((calls.filterMap Call.gesture?).map Gesture.call) draws').1 := by
  induction calls with
  | nil =>
      intro a b h draws draws'
      exact congrArg (fun seen => [seen]) (sight_eq_of_marks_eq h rfl draws draws')
  | cons c calls ih =>
      intro a b h draws draws'
      cases made : c.gesture? with
      | none =>
          obtain ⟨supply, seen⟩ := a.watch_cons_of_not_gesture made calls draws
          rw [seen, List.filterMap_cons_none made, engine_call]
          exact ih ((congrArg marks (a.program_call_of_gesture?_eq_none made)).trans h) _ _
      | some g =>
          obtain ⟨s, s', seen⟩ := a.watch_cons_of_gesture made calls draws
          obtain ⟨t, t', seen'⟩ := b.watch_cons_of_gesture g.gesture?_call
            ((calls.filterMap Call.gesture?).map Gesture.call) draws'
          obtain ⟨marked, accepted⟩ := call_alike h made draws draws'
          rw [seen, List.filterMap_cons_some made, List.map_cons, seen',
            sight_eq_of_marks_eq marked accepted s t, ih marked s' t']

/-- The same gestures look alike, whatever the numbers are that are entered, bound
and drawn. -/
theorem watch_eq_of_gestures_eq {a b : Engine} (h : marks a.program = marks b.program)
    {calls calls' : List Call}
    (same : calls.filterMap Call.gesture? = calls'.filterMap Call.gesture?)
    (draws draws' : Draws) : (a.watch calls draws).1 = (b.watch calls' draws').1 := by
  rw [watch_eq_watch_gestures calls h draws draws',
    watch_eq_watch_gestures calls' (rfl : marks b.program = _) draws' draws', same]

/-! ## Binding and choosing a format afterwards -/

/-- The program at the end of a session is made by its gestures. -/
theorem program_foldl_gestures (calls : List Call) :
    ∀ {a b : Engine}, a.program = b.program →
      (calls.foldl Call.engine a).program
        = ((calls.filter (·.gesture?.isSome)).foldl Call.engine b).program := by
  induction calls with
  | nil => intro a b h; exact h
  | cons c calls ih =>
      intro a b h
      cases made : c.gesture? with
      | none =>
          rw [List.filter_cons_of_neg (by rw [made]; exact Bool.false_ne_true), List.foldl_cons]
          exact ih ((a.program_call_of_gesture?_eq_none made).trans h)
      | some g =>
          rw [List.filter_cons_of_pos (by rw [made]; rfl), List.foldl_cons, List.foldl_cons]
          refine ih ?_
          cases c with
          | enter token => exact congrArg (record · token) h
          | undo => exact congrArg List.dropLast h
          | clear => rfl
          | setVariable _ _ | evaluateUsing _ | evaluateWith _ | plot _ _ | setFormat _ =>
              cases made

/-- A session leads to the engine that its gestures lead to, once it is given the
last bindings and the last format. -/
theorem callAll_eq_gestures_first (e : Engine) (calls : List Call) (draws draws' : Draws) :
    let last := (e.callAll calls draws).1
    (e.callAll (calls.filter (·.gesture?.isSome)
      ++ [.evaluateUsing last.bindings, .setFormat last.format]) draws').1 = last := by
  intro last
  have program : last.program
      = ((calls.filter (·.gesture?.isSome)).foldl Call.engine e).program := by
    show (e.callAll calls draws).1.program = _
    rw [callAll_apply]
    exact program_foldl_gestures calls rfl
  rw [callAll_apply, List.foldl_append]
  exact congrArg (fun p => Engine.mk p last.bindings last.format) program.symm

end Engine

/-! ## Replays that agree in part

The description is made of the texts of the entries, and the result of their
numbers.  A replay never mixes the two, so entries that agree in one of them lead
to states that agree in it. -/

/-- An entry of which only what there is to read is kept. -/
def Entry.textual : Entry → Entry
  | .operand _ text => .operand 0 text
  | entry => entry

/-- An entry of which only what there is to reckon with is kept. -/
def Entry.numeric : Entry → Entry
  | .operand x _ => .operand x ""
  | entry => entry

/-- Two states in which the same is there to be read. -/
structure SameText (r s : Replay) : Prop where
  phase : r.phase = s.phase
  fragments : r.fragments = s.fragments

/-- Two states with the same numbers. -/
structure SameNumbers (r s : Replay) : Prop where
  accumulator : r.accumulator = s.accumulator
  pending : r.pending = s.pending

theorem Entry.kind_eq_of_textual_eq {e f : Entry} (h : e.textual = f.textual) :
    e.kind = f.kind := by
  cases e <;> cases f <;> cases h <;> rfl

theorem SameText.step {r s : Replay} (h : SameText r s) {e f : Entry}
    (same : e.textual = f.textual) : SameText (r.step e) (s.step f) where
  phase := by rw [Replay.phase_step, Replay.phase_step, h.phase, Entry.kind_eq_of_textual_eq same]
  fragments := by
    obtain ⟨x, p, fragments⟩ := r
    obtain ⟨y, q, fragments'⟩ := s
    obtain ⟨phase, rfl⟩ := h
    cases x <;> cases y <;> cases p <;> cases q <;> cases phase <;>
      cases e <;> cases f <;> cases same <;> rfl

theorem SameNumbers.step {r s : Replay} (h : SameNumbers r s) {e f : Entry}
    (same : e.numeric = f.numeric) : SameNumbers (r.step e) (s.step f) := by
  obtain ⟨x, p, fragments⟩ := r
  obtain ⟨y, q, fragments'⟩ := s
  obtain ⟨rfl, rfl⟩ : x = y ∧ p = q := ⟨h.accumulator, h.pending⟩
  cases x <;> cases p <;> cases e <;> cases f <;> cases same <;> exact ⟨rfl, rfl⟩

theorem SameText.description_eq {r s : Replay} (h : SameText r s) :
    r.description = s.description := by
  rw [Replay.description, h.fragments, Replay.description]

theorem SameNumbers.result_eq {r s : Replay} (h : SameNumbers r s) : r.result = s.result := by
  rw [Replay.result, h.accumulator, h.pending, Replay.result]

/-- What every entry keeps, a row of entries keeps. -/
theorem Replay.run_related {R : Replay → Replay → Prop} {part : Entry → Entry}
    (step : ∀ {r s : Replay}, R r s → ∀ {e f : Entry}, part e = part f → R (r.step e) (s.step f))
    (es : List Entry) :
    ∀ {fs : List Entry} {r s : Replay}, R r s → es.map part = fs.map part →
      R (r.run es) (s.run fs) := by
  induction es with
  | nil =>
      intro fs r s h same
      obtain rfl := List.map_eq_nil_iff.mp same.symm
      exact h
  | cons e es ih =>
      intro fs r s h same
      cases fs with
      | nil => cases same
      | cons f fs =>
          obtain ⟨first, rest⟩ := List.cons.inj same
          rw [run_cons, run_cons]
          exact ih (step h first) rest

section Reading

variable (format : NumberFormat) (bindings : Bindings)

/-- What there is to read in a program does not depend on bindings and draws. -/
theorem map_textual_entries (bindings' : Bindings) :
    ∀ (program : List Token) (draws draws' : Draws),
      (entries format bindings program draws).1.map Entry.textual
        = (entries format bindings' program draws').1.map Entry.textual
  | [], _, _ => rfl
  | token :: program, draws, draws' => by
      have head : (token.entry format bindings draws).1.toList.map Entry.textual
          = (token.entry format bindings' draws').1.toList.map Entry.textual := by
        cases token with
        | operand literal => cases literal <;> rfl
        | operation symbol =>
            simp only [Token.entry]
            cases Key.ofSymbol? symbol with
            | none => rfl
            | some key => cases key <;> rfl
      have tail := map_textual_entries bindings' program (token.entry format bindings draws).2
        (token.entry format bindings' draws').2
      show ((token.entry format bindings draws).1.toList
          ++ (entries format bindings program (token.entry format bindings draws).2).1).map _
        = ((token.entry format bindings' draws').1.toList
          ++ (entries format bindings' program (token.entry format bindings' draws').2).1).map _
      rw [List.map_append, List.map_append, head, tail]

/-- The numbers of a program do not depend on the format. -/
theorem map_numeric_entries (format' : NumberFormat) :
    ∀ (program : List Token) (draws : Draws),
      (entries format bindings program draws).1.map Entry.numeric
        = (entries format' bindings program draws).1.map Entry.numeric
  | [], _ => rfl
  | token :: program, draws => by
      have head : (token.entry format bindings draws).1.toList.map Entry.numeric
          = (token.entry format' bindings draws).1.toList.map Entry.numeric := by
        cases token with
        | operand literal => cases literal <;> rfl
        | operation symbol => rfl
      have supply : (token.entry format bindings draws).2
          = (token.entry format' bindings draws).2 := by
        cases token <;> rfl
      have tail := map_numeric_entries format' program (token.entry format bindings draws).2
      show ((token.entry format bindings draws).1.toList
          ++ (entries format bindings program (token.entry format bindings draws).2).1).map _
        = ((token.entry format' bindings draws).1.toList
          ++ (entries format' bindings program (token.entry format' bindings draws).2).1).map _
      rw [List.map_append, List.map_append, head, tail, supply]

/-- A program is read alike under bindings that agree on its variables. -/
theorem entries_congr {bindings' : Bindings} :
    ∀ {program : List Token},
      (∀ name : String, .operand (.named name) ∈ program →
        bindings.value name = bindings'.value name) →
      entries format bindings program = entries format bindings' program
  | [], _ => rfl
  | token :: program, agree => by
      have head : token.entry format bindings = token.entry format bindings' := by
        cases token with
        | operand literal =>
            cases literal with
            | value x => rfl
            | named name => simp only [Token.entry, Literal.entry, agree name List.mem_cons_self]
        | operation symbol => rfl
      have tail : entries format bindings program = entries format bindings' program :=
        entries_congr fun name mem => agree name (List.mem_cons_of_mem token mem)
      rw [entries, entries, head, tail]

end Reading

namespace Engine

variable (e : Engine)

theorem description_evaluateWith (bindings bindings' : Bindings) (draws draws' : Draws) :
    (e.evaluateWith bindings draws).1.description
      = (e.evaluateWith bindings' draws').1.description := by
  have same : SameText (e.replayWith bindings draws).1 (e.replayWith bindings' draws').1 :=
    Replay.run_related SameText.step _ ⟨rfl, rfl⟩
      (map_textual_entries e.format bindings bindings' e.program draws draws')
  exact same.description_eq

theorem result_setFormat_evaluateWith (format : NumberFormat) (bindings : Bindings)
    (draws : Draws) :
    ((e.setFormat format).evaluateWith bindings draws).1.result
      = (e.evaluateWith bindings draws).1.result := by
  have same : SameNumbers ((e.setFormat format).replayWith bindings draws).1
      (e.replayWith bindings draws).1 :=
    Replay.run_related SameNumbers.step _ ⟨rfl, rfl⟩
      (map_numeric_entries format bindings e.format e.program draws)
  exact same.result_eq

theorem evaluateWith_congr {bindings bindings' : Bindings}
    (agree : ∀ name : String, .operand (.named name) ∈ e.program →
      bindings.value name = bindings'.value name) :
    e.evaluateWith bindings = e.evaluateWith bindings' := by
  rw [evaluateWith, evaluateWith, replayWith, replayWith, entries_congr e.format bindings agree]

theorem certain_foldl (calls : List Call) :
    ∀ {e : Engine}, .ran ∉ e.program → .enter .ran ∉ calls →
      .ran ∉ (calls.foldl Call.engine e).program := by
  induction calls with
  | nil => intro e h _; exact h
  | cons c calls ih =>
      intro e h drawless
      rw [List.mem_cons, not_or] at drawless
      exact ih (certain_call h (Ne.symm drawless.1)) drawless.2

/-- What is recorded in a session, and what is answered in the end, does not depend
on values.  The session looks like every other one with the same gestures.  Its
last evaluation is that of the gestures alone, when the last bindings and the last
format are put in after them, and draws nothing unless `Ran` was pressed.  The
description of the evaluation is the same under all bindings and draws, the result
under all formats, and both under bindings that agree on the variables of the
program. -/
theorem session_independence (format : NumberFormat) (bindings : Bindings) (calls : List Call) :
    (∀ (format' : NumberFormat) (bindings' : Bindings) (calls' : List Call) (draws draws' : Draws),
      calls.filterMap Call.gesture? = calls'.filterMap Call.gesture? →
      ((fresh bindings format).watch calls draws).1
        = ((fresh bindings' format').watch calls' draws').1) ∧
    ∀ draws : Draws,
      let last := ((fresh bindings format).callAll calls draws).1
      (∀ draws' : Draws,
        let later := ((fresh bindings format).callAll (calls.filter (·.gesture?.isSome)
          ++ [.evaluateUsing last.bindings, .setFormat last.format]) draws').1
        last.evaluate = later.evaluate) ∧
      (.enter .ran ∉ calls → ∃ evaluation : Evaluation, last.evaluate = pure evaluation) ∧
      (∀ (b b' : Bindings) (draws draws' : Draws),
        (last.evaluateWith b draws).1.description = (last.evaluateWith b' draws').1.description) ∧
      (∀ (format' : NumberFormat) (b : Bindings) (draws : Draws),
        ((last.setFormat format').evaluateWith b draws).1.result
          = (last.evaluateWith b draws).1.result) ∧
      ∀ b b' : Bindings,
        (∀ name : String, .operand (.named name) ∈ last.program → b.value name = b'.value name) →
        last.evaluateWith b = last.evaluateWith b' := by
  constructor
  · intro format' bindings' calls' draws draws' same
    exact watch_eq_of_gestures_eq (a := fresh bindings format) (b := fresh bindings' format') rfl
      same draws draws'
  · intro draws last
    refine ⟨?_, ?_, last.description_evaluateWith, last.result_setFormat_evaluateWith,
      fun _ _ => last.evaluateWith_congr⟩
    · intro draws' later
      have same : later = last := callAll_eq_gestures_first _ calls draws draws'
      rw [same]
    · intro drawless
      have certain : .ran ∉ last.program := by
        show .ran ∉ ((fresh bindings format).callAll calls draws).1.program
        rw [callAll_apply]
        exact certain_foldl calls List.not_mem_nil drawless
      exact ⟨_, evaluateWith_eq_pure certain last.bindings⟩

/-- Two sessions with the gestures of `7 ÷ Ran`, undone, and `x =`, in which other
numbers are entered, other things are bound, asked and drawn as curves; and the
last engine of the first, for which `x` may as well be bound to zero. -/
theorem session_independence_rebound :
    ∃ (calls calls' : List Call) (last : Engine),
      calls = [.enter (.operand (.value 7)), .setVariable "x" 2, .enter (.operation "÷"),
        .enter (.operation "Ran"), .undo, .plot "x" [1, 2], .enter (.operand (.named "x")),
        .enter (.operation "=")] ∧
      calls' = [.enter (.operand (.value 0)), .enter (.operation "÷"),
        .setFormat (.ofWriter fun _ => ""), .enter (.operation "Ran"), .undo,
        .evaluateWith ∅, .enter (.operand (.named "x")), .enter (.operation "="),
        .evaluateUsing ∅] ∧
      calls.filterMap Call.gesture? = calls'.filterMap Call.gesture? ∧
      ((fresh ∅ FixedPoint.standard.toNumberFormat).watch calls ⟨fun _ => 0, 0⟩).1
        = ((fresh ∅ FixedPoint.standard.toNumberFormat).watch calls' ⟨fun _ => 1, 0⟩).1 ∧
      last = ((fresh ∅ FixedPoint.standard.toNumberFormat).callAll calls ⟨fun _ => 0, 0⟩).1 ∧
      (∀ name : String, .operand (.named name) ∈ last.program →
        Bindings.value ∅ name = Bindings.value (Std.TreeMap.empty.insert "x" 0) name) ∧
      last.evaluateWith ∅ = last.evaluateWith (Std.TreeMap.empty.insert "x" 0) := by
  obtain ⟨alike, ended⟩ := session_independence FixedPoint.standard.toNumberFormat ∅
    [.enter (.operand (.value 7)), .setVariable "x" 2, .enter (.operation "÷"),
      .enter (.operation "Ran"), .undo, .plot "x" [1, 2], .enter (.operand (.named "x")),
      .enter (.operation "=")]
  have agree : ∀ name : String, Bindings.value ∅ name
      = Bindings.value (Std.TreeMap.empty.insert "x" 0) name := by
    intro name
    have zero : (0 : Float) = 0.0 := by decide +kernel
    simp [Bindings.value, Std.TreeMap.getD_insert, zero]
  exact ⟨_, _, _, rfl, rfl, rfl, alike _ _ _ _ _ rfl, rfl, fun name _ => agree name,
    (ended _).2.2.2.2 _ _ fun name _ => agree name⟩

end Engine

end Keypad
