/-
# `Keypad.Proofs.Loading` — what can be loaded, and what it leaves behind

Any text may lie under a key.  It is loaded just if it is a text of the grammar of stored
programs, that is, a JSON array of strings and of numbers in range; every other text is
refused, and the engine is not touched (`Engine.load_eq_ok_iff`).

A program that was loaded has an entry for each element of the array, in the same order,
and can always be saved again.  This rests on one fact about reading.  Wherever the digits
of a number are cut off and however often it is divided, no infinity gets through
(`Numeral.magnitude?_lt_infinity`): a number that would be infinite is out of range, and
then there is no program.
-/
import Keypad.Proofs.Flattening
import Keypad.Proofs.Restoring

namespace Keypad

/-! ## Entries that are read have a text -/

theorem Json.Numeral.isFinite_of_toFloat? {n : Numeral} {x : Float} (read : n.toFloat? = some x) :
    x.isFinite = true := by
  obtain ⟨r, magnitude, rfl⟩ := Option.map_eq_some_iff.mp read
  exact Double.isFinite_ofMagnitude _ (magnitude?_lt_infinity magnitude)

namespace Stored

variable {body : List Char} {p : Primitive} {ps : List Primitive}

theorem ItemText.writable {text : List Char} (h : ItemText text p) : Writable p := by
  cases h with
  | text _ => trivial
  | number _ value => exact Json.Numeral.isFinite_of_toFloat? value

theorem ItemsText.writable (h : ItemsText body ps) : ∀ p ∈ ps, Writable p := by
  induction h with
  | last _ item _ =>
      intro p mem
      rw [List.mem_singleton.mp mem]
      exact item.writable
  | more _ item _ _ ih =>
      intro p mem
      rcases List.mem_cons.mp mem with rfl | later
      · exact item.writable
      · exact ih p later

theorem Denotes.writable {text : String} (h : Denotes text ps) : ∀ p ∈ ps, Writable p := by
  obtain ⟨_, _, _, _, array, _⟩ := h
  cases array with
  | empty _ => exact List.forall_mem_nil _
  | items items => exact items.writable

end Stored

/-! ## The token of an entry -/

namespace Primitive

variable {p : Primitive}

theorem toToken_eq_value_iff {x : Float} : p.toToken = .operand (.value x) ↔ p = .number x := by
  cases p with
  | number y => simp [toToken]
  | text s =>
      rw [toToken]
      split <;> simp

/-- The table of keys is asked first, so no entry becomes a variable that bears the symbol
of a key. -/
theorem toToken_eq_named_iff {name : String} :
    p.toToken = .operand (.named name) ↔ p = .text name ∧ Key.ofSymbol? name = none := by
  cases p with
  | number y => simp [toToken]
  | text s =>
      rw [toToken]
      cases bears : Key.ofSymbol? s with
      | none =>
          simp only [Option.isSome_none, Bool.false_eq_true, if_false, Token.operand.injEq,
            Literal.named.injEq, text.injEq]
          exact ⟨fun same => ⟨same, same ▸ bears⟩, And.left⟩
      | some key =>
          simp only [Option.isSome_some, if_true, reduceCtorEq, text.injEq, false_iff]
          rintro ⟨rfl, free⟩
          rw [bears] at free
          cases free

end Primitive

/-! ## Loading -/

namespace Engine

variable {σ : Type} [TextStore σ] {stored : List Primitive}

/-- What there is to know of a program that has been loaded into an engine. -/
structure Loaded (e : Engine) (key : String) (stored : List Primitive)
    (outcome : Outcome Bool) : Prop where
  found : outcome.result = true
  /-- The program is replaced entry by entry, and nothing else changes. -/
  engine : outcome.engine = e.withProgram (stored.map Primitive.toToken)
  /-- Nothing is reported but that the program was loaded. -/
  events : outcome.events = [.loaded key stored.length]
  finite : AllFinite outcome.engine.program
  free : ∀ name : String, .operand (.named name) ∈ outcome.engine.program →
    Key.ofSymbol? name = none
  saves : ∀ (τ : Type) [TextStore τ] (other : τ) (key' : String),
    (outcome.engine.save other key').1 = .ok (TextStore.set other key' (Stored.write stored))
  stable : outcome.engine.setProgram outcome.engine.stored = ⟨(), outcome.engine, []⟩

theorem events_setProgram (e : Engine) (writable : ∀ p ∈ stored, Stored.Writable p) :
    (e.setProgram stored).events = [] := by
  refine List.filterMap_eq_nil_iff.mpr fun p mem => ?_
  have finite := writable p mem
  cases p with
  | number x => exact if_pos finite
  | text s => rfl

theorem loaded_setProgram (e : Engine) (key : String)
    (writable : ∀ p ∈ stored, Stored.Writable p) :
    Loaded e key stored ⟨true, (e.setProgram stored).engine, [.loaded key stored.length]⟩ where
  found := rfl
  engine := rfl
  events := rfl
  finite := by
    intro x mem
    obtain ⟨p, entered, same⟩ := List.mem_map.mp mem
    obtain rfl := Primitive.toToken_eq_value_iff.mp same
    exact writable _ entered
  free := by
    intro name mem
    obtain ⟨p, entered, same⟩ := List.mem_map.mp mem
    exact (Primitive.toToken_eq_named_iff.mp same).2
  saves := by
    intro τ _ other key'
    have same := e.stored_setProgram stored
    have finite := same.symm ▸ Stored.firstNonFinite_eq_none writable
    rw [save_of_on (saveIn_of_finite finite), same]
    rfl
  stable := by
    rw [stored_setProgram]
    have silent := events_setProgram (e.setProgram stored).engine writable
    rw [← silent]
    rfl

theorem load_of_denotes (e : Engine) {store : σ} {key text : String}
    (kept : TextStore.get store key = some text) (denotes : Stored.Denotes text stored) :
    ∃ outcome : Outcome Bool, e.load store key = .ok outcome ∧ Loaded e key stored outcome := by
  refine ⟨_, ?_, loaded_setProgram e key denotes.writable⟩
  rw [load_of_on (loadFrom_of_read kept denotes.read), events_setProgram e denotes.writable]
  rfl

theorem load_of_not_denotes (e : Engine) {store : σ} {key text : String}
    (kept : TextStore.get store key = some text) (other : ¬∃ stored, Stored.Denotes text stored) :
    e.load store key = .error (.persistence .unreadable) :=
  load_of_on (loadFrom_of_unreadable kept (Stored.read_eq_none_iff.mpr other))

/-- A text is loaded just if it is, up to space, an array of strings and of numbers in
range.  It stands for one program then: the entries that are loaded are the elements in
their order, their numbers are finite, no variable among them bears the symbol of a key,
and the engine can be saved under every key of every store and takes its own program
without a change.  Any other text is refused. -/
theorem load_eq_ok_iff (e : Engine) {store : σ} {key text : String}
    (kept : TextStore.get store key = some text) :
    ((∃ outcome : Outcome Bool, e.load store key = .ok outcome ∧ outcome.result = true) ↔
      ∃ stored, Stored.Denotes text stored) ∧
    (∀ stored, Stored.Denotes text stored →
      ∃ outcome : Outcome Bool, e.load store key = .ok outcome ∧ Loaded e key stored outcome) ∧
    ((¬∃ stored, Stored.Denotes text stored) →
      e.load store key = .error (.persistence .unreadable)) := by
  refine ⟨⟨?_, ?_⟩, fun stored => load_of_denotes e kept, load_of_not_denotes e kept⟩
  · rintro ⟨outcome, loaded, -⟩
    by_contra other
    rw [load_of_not_denotes e kept other] at loaded
    cases loaded
  · rintro ⟨stored, denotes⟩
    obtain ⟨outcome, loaded, facts⟩ := load_of_denotes e kept denotes
    exact ⟨outcome, loaded, facts.found⟩

/-- A text with space, escapes, a pair of surrogates and an exponent; and two that are
refused, for a number out of range and for a comma too many. -/
theorem load_eq_ok_iff_escaped :
    ∃ (kept : String → MemoryStore) (outcome : Outcome Bool),
      (∀ text : String, TextStore.get (kept text) "k" = some text) ∧
      new.load (kept " [ 12.50E+1 ,\"\\u221a\",\n\"\\ud83d\\ude00\"] ") "k" = .ok outcome ∧
      outcome.result = true ∧ outcome.events = [.loaded "k" 3] ∧
      outcome.engine.program = [.operand (.value 125), .operation "√", .operand (.named "😀")] ∧
      new.load (kept "[1e999]") "k" = .error (.persistence .unreadable) ∧
      new.load (kept "[1,]") "k" = .error (.persistence .unreadable) := by
  let store (text : String) : MemoryStore := TextStore.set MemoryStore.empty "k" text
  have kept (text : String) : TextStore.get (store text) "k" = some text :=
    LawfulTextStore.get_set_self _ _ _
  have read : Stored.read " [ 12.50E+1 ,\"\\u221a\",\n\"\\ud83d\\ude00\"] "
      = some [.number 125, .text "√", .text "😀"] := by decide +kernel
  obtain ⟨outcome, loaded, facts⟩ :=
    (load_eq_ok_iff new (kept _)).2.1 _ (Stored.read_eq_some_iff.mp read)
  refine ⟨store, outcome, kept, loaded, facts.found, facts.events, ?_,
    (load_eq_ok_iff new (kept _)).2.2 (Stored.read_eq_none_iff.mp (by decide +kernel)),
    (load_eq_ok_iff new (kept _)).2.2 (Stored.read_eq_none_iff.mp (by decide +kernel))⟩
  rw [facts.engine]
  decide +kernel

end Engine

end Keypad
