/-
# `Keypad.Proofs.SharedStore` — engines that share a store

Any number of engines work beside one store.  They are pressed, saved and loaded, and
texts are put into the store and looked up without them.  An `Action` is one such
thing, an `Answer` is what whoever did it is told, and a run is the list of its steps.

Saving and loading are attempts on what stands in the office, and what they leave is put
back there, also when they fail.  All the same each step does all of what it is meant to
do or nothing (`Office.sound_step`).  Saving is refused just if the program holds a
number that is not finite, and then nothing is written; a text that is not a program, or
no text at all, leaves the engine that was to load it as it was; loading writes nothing;
and no step touches an engine or a key that it is not about.  So what stands under a key
at any moment of a run is the text that was last put there, by a save that succeeded or
without an engine (`all_or_nothing`).
-/
import Keypad.Proofs.Restoring

namespace Keypad

/-! ## Runs -/

/-- Engines, by number, and the store that they share. -/
structure Office (σ : Type) where
  engines : Nat → Engine
  store : σ

namespace Office

inductive Action where
  /-- Anything that can be done to an engine without the store. -/
  | call (i : Nat) (c : Call)
  /-- An engine is given a program. -/
  | give (i : Nat) (stored : List Primitive)
  /-- A new engine takes the place of another. -/
  | replace (i : Nat) (format : NumberFormat)
  | save (i : Nat) (key : String)
  | load (i : Nat) (key : String)
  | put (key text : String)
  | lookUp (key : String)

inductive Answer where
  | done
  | saved (result : Except Error Unit)
  | loaded (result : Except Error Bool)
  | found (text : Option String)

/-- One action, between the states of the office before and after it. -/
structure Step (σ : Type) where
  before : Office σ
  action : Action
  answer : Answer
  after : Office σ

variable {σ : Type}

/-- The office with another engine in one place. -/
def seat (o : Office σ) (i : Nat) (e : Engine) : Office σ :=
  { o with engines := Function.update o.engines i e }

theorem engines_seat_self (o : Office σ) (i : Nat) (e : Engine) : (o.seat i e).engines i = e := by
  show Function.update o.engines i e i = e
  rw [Function.update_self]

theorem engines_seat_of_ne (o : Office σ) {i j : Nat} (e : Engine) (other : j ≠ i) :
    (o.seat i e).engines j = o.engines j := by
  show Function.update o.engines i e j = o.engines j
  rw [Function.update_of_ne other]

/-- The office with another store. -/
def keep (o : Office σ) (store : σ) : Office σ := { o with store := store }

variable [TextStore σ]

/-- What saving and loading leave behind takes the place of what they worked on,
whether they failed or not. -/
def act (o : Office σ) : Action → Drawing (Answer × Office σ)
  | .call i c => do
    let outcome ← (o.engines i).call c
    return (.done, o.seat i outcome.engine)
  | .give i stored => pure (.done, o.seat i ((o.engines i).setProgram stored).engine)
  | .replace i format => pure (.done, o.seat i (Engine.withFormat format))
  | .save i key =>
    let (result, left) := ((o.engines i).saveIn key).on o.store
    pure (.saved result, o.keep left.held)
  | .load i key =>
    let (result, left) := (Engine.loadFrom o.store key).on (o.engines i)
    pure (.loaded result, o.seat i left.held)
  | .put key text => pure (.done, o.keep (TextStore.set o.store key text))
  | .lookUp key => pure (.found (TextStore.get o.store key), o)

def step (o : Office σ) (action : Action) : Drawing (Step σ) := do
  let (answer, after) ← o.act action
  return ⟨o, action, answer, after⟩

/-- The steps of a row of actions. -/
def run (o : Office σ) : List Action → Drawing (List (Step σ))
  | [] => pure []
  | action :: actions => do
    let first ← o.step action
    return first :: (← first.after.run actions)

/-! ## What a step does -/

/-- The word for a number that is not finite. -/
def nonFiniteWord (x : Float) : String :=
  if x.isNaN then "NaN" else if Double.negative x then "-inf" else "inf"

/-- What saving the program of an engine comes to. -/
structure Saves (e : Engine) (key : String) (before after : σ) (result : Except Error Unit) :
    Prop where
  fails_iff : (∃ error, result = .error error) ↔
    ∃ x : Float, .operand (.value x) ∈ e.program ∧ x.isFinite = false
  names_first : ∀ error, result = .error error →
    ∃ x : Float, FirstNonFinite e.program x ∧ error = .persistence (.nonFinite x) ∧
      error.message = "PersistenceError: cannot store non-finite operand " ++ nonFiniteWord x
  nothing_written : ∀ error, result = .error error → after = before
  written : result = .ok () → TextStore.get after key = some (Stored.write e.stored)
  other_keys : ∀ other ≠ key, TextStore.get after other = TextStore.get before other

/-- What loading into an engine `e`, which is `e'` afterwards, comes to. -/
structure Loads (e e' : Engine) (key : String) (before after : σ) (result : Except Error Bool) :
    Prop where
  nothing_written : after = before
  nothing_saved : result = .ok false ↔ TextStore.get before key = none
  unreadable : ∀ error, result = .error error → ∃ text, TextStore.get before key = some text ∧
    Stored.read text = none ∧ error = .persistence .unreadable
  untouched : result ≠ .ok true → e' = e
  replaced : result = .ok true → ∃ text program, TextStore.get before key = some text ∧
    Stored.read text = some program ∧ e' = e.withProgram (program.map Primitive.toToken)

namespace Step

/-- All engines but one are as they were. -/
def SparesOthers (s : Step σ) (i : Nat) : Prop :=
  ∀ j ≠ i, s.after.engines j = s.before.engines j

/-- A step that does what its action is meant to do, and nothing else. -/
def Sound (s : Step σ) : Prop :=
  match s.action, s.answer with
  | .save i key, .saved result =>
    Saves (s.before.engines i) key s.before.store s.after.store result ∧
      s.after.engines = s.before.engines
  | .load i key, .loaded result =>
    Loads (s.before.engines i) (s.after.engines i) key s.before.store s.after.store result ∧
      s.SparesOthers i
  | .put key text, .done =>
    TextStore.get s.after.store key = some text ∧
      (∀ other ≠ key, TextStore.get s.after.store other = TextStore.get s.before.store other) ∧
      s.after.engines = s.before.engines
  | .lookUp key, .found text => text = TextStore.get s.before.store key ∧ s.after = s.before
  | .call i _, .done | .give i _, .done | .replace i _, .done =>
    s.after.store = s.before.store ∧ s.SparesOthers i
  | _, _ => False

/-- The text that a step puts under a key, if it puts one there. -/
def puts (key : String) (s : Step σ) : Option String :=
  match s.action, s.answer with
  | .put other text, _ => if other = key then some text else none
  | .save i other, .saved (.ok ()) =>
    if other = key then some (Stored.write (s.before.engines i).stored) else none
  | _, _ => none

end Step

/-- The text that was last put under a key. -/
def lastText (key : String) (steps : List (Step σ)) : Option String :=
  steps.reverse.findSome? (Step.puts key)

/-! ## Every step is sound -/

theorem plain_write_eq {x : Float} (infinite : x.isFinite = false) :
    Layout.plain.write x = nonFiniteWord x := by
  rw [Layout.write, nonFiniteWord]
  cases nan : x.isNaN with
  | true => rw [if_pos rfl, if_pos rfl]
  | false =>
      have large := Double.magnitude_eq_infinity infinite nan
      have positive : Double.magnitude x ≠ 0 := large ▸ (by decide +kernel : Double.infinity ≠ 0)
      rw [if_neg Bool.false_ne_true, if_neg Bool.false_ne_true]
      simp only [if_neg positive, if_pos large]
      cases Double.negative x with
      | true => rw [if_pos rfl, if_pos rfl]
      | false => rw [if_neg Bool.false_ne_true, if_neg Bool.false_ne_true]

theorem message_nonFinite {x : Float} (infinite : x.isFinite = false) :
    (Error.persistence (.nonFinite x)).message
      = "PersistenceError: cannot store non-finite operand " ++ nonFiniteWord x := by
  have words : "PersistenceError: " ++ "cannot store non-finite operand "
      = "PersistenceError: cannot store non-finite operand " := by decide +kernel
  show "PersistenceError: " ++ ("cannot store non-finite operand " ++ Layout.plain.write x) = _
  rw [plain_write_eq infinite, ← String.append_assoc, words]

theorem saves_ok [LawfulTextStore σ] {e : Engine} (finite : AllFinite e.program) (store : σ)
    (key : String) :
    Saves e key store (TextStore.set store key (Stored.write e.stored)) (.ok ()) where
  fails_iff := by
    refine iff_of_false ?_ ?_
    · rintro ⟨error, fails⟩
      cases fails
    · rintro ⟨x, mem, infinite⟩
      rw [finite x mem] at infinite
      cases infinite
  names_first := nofun
  nothing_written := nofun
  written _ := LawfulTextStore.get_set_self ..
  other_keys _ other := LawfulTextStore.get_set_of_ne _ _ other

theorem saves_error {e : Engine} {x : Float} (first : FirstNonFinite e.program x) (store : σ)
    (key : String) : Saves e key store store (.error (.persistence (.nonFinite x))) where
  fails_iff := iff_of_true ⟨_, rfl⟩ ⟨x, first.mem⟩
  names_first error same := by
    cases same
    exact ⟨x, first, rfl, message_nonFinite first.mem.2⟩
  nothing_written _ _ := rfl
  written := nofun
  other_keys _ _ := rfl

/-- However saving goes, of the store as it is left. -/
theorem saves_of_on [LawfulTextStore σ] {e : Engine} {store : σ} {key : String}
    {result : Except Error Unit} {left : Site σ}
    (went : (e.saveIn key).on store = (result, left)) : Saves e key store left.held result := by
  rcases e.saveIn_cases store key with ⟨finite, written⟩ | ⟨x, first, refused⟩
  · cases written.symm.trans went
    exact saves_ok finite store key
  · cases refused.symm.trans went
    exact saves_error first store key

/-- However loading goes, of the engine as it is left. -/
theorem loads_of_on {e : Engine} {store : σ} {key : String}
    {result : Except Error Bool} {left : Site Engine}
    (went : (Engine.loadFrom store key).on e = (result, left)) :
    Loads e left.held key store store result := by
  rcases Engine.loadFrom_cases e store key with
    ⟨missing, nothing⟩ | ⟨text, found, ⟨unreadable, refused⟩ | ⟨program, read, taken⟩⟩
  · cases nothing.symm.trans went
    exact ⟨rfl, iff_of_true rfl missing, nofun, fun _ => rfl, nofun⟩
  · have kept : TextStore.get store key ≠ none := found ▸ Option.some_ne_none text
    cases refused.symm.trans went
    refine ⟨rfl, iff_of_false nofun kept, ?_, fun _ => rfl, nofun⟩
    rintro error same
    cases same
    exact ⟨text, found, unreadable, rfl⟩
  · have kept : TextStore.get store key ≠ none := found ▸ Option.some_ne_none text
    cases taken.symm.trans went
    exact ⟨rfl, iff_of_false nofun kept, nofun, fun not_loaded => absurd rfl not_loaded,
      fun _ => ⟨text, program, found, read, rfl⟩⟩

/-- Whatever the action is and whatever is drawn for it. -/
theorem sound_step [LawfulTextStore σ] (o : Office σ) (action : Action) (draws : Draws) :
    (o.step action draws).1.Sound := by
  have spared (i : Nat) (e : Engine) : ∀ j ≠ i, (o.seat i e).engines j = o.engines j :=
    fun _ => o.engines_seat_of_ne e
  cases action with
  | call i c => exact ⟨rfl, spared i _⟩
  | give i stored => exact ⟨rfl, spared i _⟩
  | replace i format => exact ⟨rfl, spared i _⟩
  | put key text =>
      exact ⟨LawfulTextStore.get_set_self .., fun other => LawfulTextStore.get_set_of_ne _ _, rfl⟩
  | lookUp key => exact ⟨rfl, rfl⟩
  | save i key => exact ⟨saves_of_on rfl, rfl⟩
  | load i key =>
      refine ⟨?_, spared i _⟩
      show Loads _ ((o.seat i _).engines i) key _ _ _
      rw [engines_seat_self]
      exact loads_of_on rfl

/-! ## What stands under a key -/

/-- What stands under a key after a step is what the step put there, or else what stood
there before. -/
theorem Step.Sound.get_after {s : Step σ} (sound : s.Sound) (key : String) :
    TextStore.get s.after.store key = (s.puts key).or (TextStore.get s.before.store key) := by
  obtain ⟨before, action, answer, after⟩ := s
  cases action with
  | call | give | replace =>
      cases answer with
      | done => exact congrArg (TextStore.get · key) sound.1
      | saved | loaded | found => exact sound.elim
  | put other text =>
      cases answer with
      | done =>
          obtain ⟨here, elsewhere, -⟩ := sound
          by_cases same : other = key
          · subst same
            simpa only [puts, if_true, Option.some_or] using here
          · simpa only [puts, same, if_false, Option.none_or] using elsewhere key (Ne.symm same)
      | saved | loaded | found => exact sound.elim
  | save i other =>
      cases answer with
      | saved result =>
          obtain ⟨saves, -⟩ := sound
          cases result with
          | error error =>
              exact congrArg (TextStore.get · key) (saves.nothing_written error rfl)
          | ok _ =>
              by_cases same : other = key
              · subst same
                simpa only [puts, if_true, Option.some_or] using saves.written rfl
              · simpa only [puts, same, if_false, Option.none_or] using
                  saves.other_keys key (Ne.symm same)
      | done | loaded | found => exact sound.elim
  | load i other =>
      cases answer with
      | loaded result => exact congrArg (TextStore.get · key) sound.1.nothing_written
      | done | saved | found => exact sound.elim
  | lookUp other =>
      cases answer with
      | found text => exact congrArg (fun o => TextStore.get o.store key) sound.2
      | done | saved | loaded => exact sound.elim

omit [TextStore σ] in
theorem lastText_cons (key : String) (s : Step σ) (steps : List (Step σ)) :
    lastText key (s :: steps) = (lastText key steps).or (s.puts key) := by
  rw [lastText, List.reverse_cons, List.findSome?_append, List.findSome?_singleton]
  rfl

omit [TextStore σ] in
theorem lastText_append_singleton (key : String) (steps : List (Step σ)) (s : Step σ) :
    lastText key (steps ++ [s]) = (s.puts key).or (lastText key steps) := by
  rw [lastText, List.reverse_append, List.reverse_singleton, List.singleton_append,
    List.findSome?_cons]
  cases s.puts key <;> rfl

variable [LawfulTextStore σ]

theorem sound_of_mem_run {s : Step σ} {actions : List Action} :
    ∀ {o : Office σ} {draws : Draws}, s ∈ (o.run actions draws).1 → s.Sound := by
  induction actions with
  | nil => exact fun mem => absurd mem List.not_mem_nil
  | cons action actions ih =>
      intro o draws mem
      rcases List.mem_cons.mp mem with rfl | later
      · exact o.sound_step action draws
      · exact ih later

/-- At each step of a run there stands under a key what was last put there on the way,
or else what stood there at the start. -/
theorem get_before_of_run (key : String) {s : Step σ} {earlier later : List (Step σ)} :
    ∀ {o : Office σ} {actions : List Action} {draws : Draws},
      (o.run actions draws).1 = earlier ++ s :: later →
      TextStore.get s.before.store key
        = (lastText key earlier).or (TextStore.get o.store key) := by
  induction earlier with
  | nil =>
      intro o actions draws parts
      cases actions with
      | nil => cases parts
      | cons action actions =>
          obtain ⟨rfl, -⟩ := List.cons.inj parts
          rfl
  | cons first earlier ih =>
      intro o actions draws parts
      cases actions with
      | nil => cases parts
      | cons action actions =>
          obtain ⟨rfl, rest⟩ := List.cons.inj parts
          rw [ih rest, lastText_cons, Option.or_assoc]
          exact congrArg _ ((o.sound_step action draws).get_after key)

/-- In every run of engines that share a store, each step does all of what it is meant
to do or nothing, and before and after it there stands under each key the text that
was last put there, or no text if none was. -/
theorem all_or_nothing {engines : Nat → Engine} {actions : List Action} {draws : Draws}
    {earlier later : List (Step MemoryStore)} {s : Step MemoryStore}
    (parts : (run ⟨engines, MemoryStore.empty⟩ actions draws).1 = earlier ++ s :: later) :
    s.Sound ∧ ∀ key : String,
      TextStore.get s.before.store key = lastText key earlier ∧
        TextStore.get s.after.store key = lastText key (earlier ++ [s]) := by
  have sound : s.Sound :=
    sound_of_mem_run (parts ▸ List.mem_append_right earlier List.mem_cons_self)
  refine ⟨sound, fun key => ?_⟩
  have nothing : TextStore.get MemoryStore.empty key = none := by
    simp [TextStore.get, MemoryStore.empty]
  have stands := get_before_of_run key parts
  rw [nothing, Option.or_none] at stands
  exact ⟨stands, by rw [lastText_append_singleton, sound.get_after, stands]⟩

/-- Minus infinity is entered and a key pressed after it.  Saving the program is refused,
and the text that was there before is still there. -/
theorem all_or_nothing_refused :
    ∃ (actions : List Action) (draws : Draws) (earlier later : List (Step MemoryStore))
        (s : Step MemoryStore) (error : Error),
      (run ⟨fun _ => Engine.new, MemoryStore.empty⟩ actions draws).1 = earlier ++ s :: later ∧
      s.action = .save 1 "k" ∧ s.answer = .saved (.error error) ∧
      error.message = "PersistenceError: cannot store non-finite operand -inf" ∧
      TextStore.get s.before.store "k" = some "[1]" ∧
      TextStore.get s.after.store "k" = some "[1]" := by
  let large : Float := -1.0 / 0.0
  let draws : Draws := ⟨fun _ => 0, 0⟩
  let actions : List Action :=
    [.put "k" "[1]", .call 1 (.enter (.operand (.value large))), .call 1 (.enter (.operation "+")),
      .save 1 "k", .load 0 "k"]
  obtain ⟨earlier, ⟨before, _, answer, after⟩, later, parts, rfl, program, text⟩ :
      ∃ earlier s later,
        (run ⟨fun _ => Engine.new, MemoryStore.empty⟩ actions draws).1 = earlier ++ s :: later ∧
        s.action = .save 1 "k" ∧
        (s.before.engines 1).program = [.operand (.value large), .operation "+"] ∧
        lastText "k" earlier = some "[1]" :=
    ⟨[_, _, _], _, [_], rfl, rfl, by decide +kernel, rfl⟩
  obtain ⟨sound, stands⟩ := all_or_nothing parts
  have stood := (stands "k").1.trans text
  cases answer with
  | saved result =>
      obtain ⟨saves, -⟩ := sound
      obtain ⟨error, rfl⟩ := saves.fails_iff.mpr
        ⟨large, program ▸ List.mem_cons_self, by decide +kernel⟩
      obtain ⟨x, first, -, message⟩ := saves.names_first error rfl
      have mem := first.mem.1
      rw [program] at mem
      obtain rfl : x = large := by simpa using mem
      have word : nonFiniteWord large = "-inf" := by decide +kernel
      rw [word] at message
      refine ⟨actions, draws, earlier, later, _, error, parts, rfl, rfl, ?_, stood, ?_⟩
      · exact message.trans (by decide +kernel)
      · rw [saves.nothing_written error rfl]
        exact stood
  | done | loaded | found => exact sound.elim

end Office

end Keypad
