/-
# `Keypad.Store` — keeping programs between sessions

A store keeps texts under keys.  Whoever embeds the calculator brings the store
along, so it is a class with two operations; the laws that make it behave as a
map are a class of their own, for those who need them.  `MemoryStore` is a store
to try things with.

Saving works on a store and loading on an engine, in place and one thing after the
other, and either may fail on the way.  Such an `Attempt` leaves what it works on as
it is when it ends, also when it fails: nothing is put back.  A program that has no
stored form is refused before the store is touched.  A text that is not a program is
refused before the engine is touched; under a key that holds nothing there is nothing
to load, which is no error.  What is loaded replaces the program and leaves the
bindings and the format alone.

`Engine.save` and `Engine.load` are what these attempts come to for those who have no
use for anything that failed.
-/
import Keypad.Engine
import Keypad.Stored

namespace Keypad

/-! ## Stores -/

/-- A store of texts under keys. -/
class TextStore (σ : Type) where
  get : σ → String → Option String
  /-- The store with a text under a key, in place of any former one. -/
  set : σ → String → String → σ

/-- A store that behaves as a map. -/
class LawfulTextStore (σ : Type) [TextStore σ] : Prop where
  get_set_self (store : σ) (key text : String) :
    TextStore.get (TextStore.set store key text) key = some text
  get_set_of_ne (store : σ) {key other : String} (text : String) :
    other ≠ key → TextStore.get (TextStore.set store key text) other = TextStore.get store other

structure MemoryStore where
  entries : Std.TreeMap String String

def MemoryStore.empty : MemoryStore := ⟨∅⟩

instance : TextStore MemoryStore where
  get store key := store.entries[key]?
  set store key text := ⟨store.entries.insert key text⟩

instance : LawfulTextStore MemoryStore where
  get_set_self store key text := by simp [TextStore.get, TextStore.set]
  get_set_of_ne store key other text h := by
    simp [TextStore.get, TextStore.set, Std.TreeMap.getElem?_insert, Ne.symm h]

/-! ## Attempts -/

/-- What an attempt works on, as it stands, and what has been reported so far. -/
structure Site (α : Type) where
  held : α
  events : List Event

/-- Work that is done in place and may fail on the way.  What was changed and reported
until then stays changed and reported. -/
abbrev Attempt (α β : Type) := ExceptT Error (StateM (Site α)) β

namespace Attempt

variable {α β : Type}

def report (events : List Event) : Attempt α Unit :=
  modify fun site => { site with events := site.events ++ events }

/-- The result, and what is left whatever the result is. -/
def on (attempt : Attempt α β) (held : α) : Except Error β × Site α :=
  attempt.run.run ⟨held, []⟩

end Attempt

/-! ## Saving and loading -/

namespace Engine

variable {σ : Type} [TextStore σ]

/-- Stores the program under a key. -/
def saveIn (e : Engine) (key : String) : Attempt σ Unit := do
  if let some x := Stored.firstNonFinite e.stored then
    Attempt.report [.refusedToSave key x]
    throw (.persistence (.nonFinite x))
  -- Writing cannot fail: all that has no stored form was refused above.
  let text := Stored.write e.stored
  modify fun site => { site with held := TextStore.set site.held key text }
  Attempt.report [.saved key e.program.length]

/-- Replaces the program by the one under a key, and says whether there was one. -/
def loadFrom (store : σ) (key : String) : Attempt Engine Bool := do
  let some text := TextStore.get store key
    | Attempt.report [.nothingSaved key]
      return false
  let some program := Stored.read text
    | throw (.persistence .unreadable)
  Attempt.report [.loaded key program.length]
  let taken := (← get).held.setProgram program
  modify fun site => { site with held := taken.engine }
  Attempt.report taken.events
  return true

/-- The store in which a program was stored under a key, or the fault. -/
def save (e : Engine) (store : σ) (key : String) : Except Error σ × List Event :=
  let (result, left) := (e.saveIn key).on store
  (result.map fun _ => left.held, left.events)

/-- The engine that has taken over the program under a key, if there was one, or the
fault. -/
def load (e : Engine) (store : σ) (key : String) : Except Error (Outcome Bool) :=
  let (result, left) := (loadFrom store key).on e
  result.map fun found => ⟨found, left.held, left.events⟩

/-! ### How the attempts go -/

section Attempts

variable {e : Engine} {store : σ} {key text : String}

theorem saveIn_of_finite (finite : Stored.firstNonFinite e.stored = none) :
    (e.saveIn key).on store =
      (.ok (), ⟨TextStore.set store key (Stored.write e.stored),
        [.saved key e.program.length]⟩) := by
  rw [saveIn, finite]
  rfl

theorem saveIn_of_nonFinite {x : Float} (found : Stored.firstNonFinite e.stored = some x) :
    (e.saveIn key).on store =
      (.error (.persistence (.nonFinite x)), ⟨store, [.refusedToSave key x]⟩) := by
  rw [saveIn, found]
  rfl

theorem loadFrom_of_missing (missing : TextStore.get store key = none) :
    (loadFrom store key).on e = (.ok false, ⟨e, [.nothingSaved key]⟩) := by
  rw [loadFrom, missing]
  rfl

theorem loadFrom_of_unreadable (found : TextStore.get store key = some text)
    (unreadable : Stored.read text = none) :
    (loadFrom store key).on e = (.error (.persistence .unreadable), ⟨e, []⟩) := by
  rw [loadFrom, found]
  simp only [unreadable]
  rfl

theorem loadFrom_of_read (found : TextStore.get store key = some text)
    {program : List Primitive} (read : Stored.read text = some program) :
    (loadFrom store key).on e =
      (.ok true, ⟨(e.setProgram program).engine,
        .loaded key program.length :: (e.setProgram program).events⟩) := by
  rw [loadFrom, found]
  simp only [read]
  rfl

/-- There is nothing to load, or a text that is not a program, or a program. -/
theorem loadFrom_cases (e : Engine) (store : σ) (key : String) :
    (TextStore.get store key = none ∧
        (loadFrom store key).on e = (.ok false, ⟨e, [.nothingSaved key]⟩)) ∨
      ∃ text, TextStore.get store key = some text ∧
        ((Stored.read text = none ∧
            (loadFrom store key).on e = (.error (.persistence .unreadable), ⟨e, []⟩)) ∨
          ∃ program, Stored.read text = some program ∧
            (loadFrom store key).on e =
              (.ok true, ⟨(e.setProgram program).engine,
                .loaded key program.length :: (e.setProgram program).events⟩)) := by
  cases found : TextStore.get store key with
  | none => exact .inl ⟨rfl, loadFrom_of_missing found⟩
  | some text =>
      refine .inr ⟨text, rfl, ?_⟩
      cases read : Stored.read text with
      | none => exact .inl ⟨rfl, loadFrom_of_unreadable found read⟩
      | some program => exact .inr ⟨program, rfl, loadFrom_of_read found read⟩

theorem save_of_on {result : Except Error Unit} {left : Site σ}
    (went : (e.saveIn key).on store = (result, left)) :
    e.save store key = (result.map fun _ => left.held, left.events) := by
  rw [save, went]

theorem load_of_on {result : Except Error Bool} {left : Site Engine}
    (went : (loadFrom store key).on e = (result, left)) :
    e.load store key = result.map fun found => ⟨found, left.held, left.events⟩ := by
  rw [load, went]

end Attempts

end Engine

end Keypad
