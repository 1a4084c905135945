/-
# `Keypad.Proofs.Fragments` — what the fragments of a description are

A replay keeps its description in fragments, and a fragment is a text like any other.
The text does not say what it is: a variable may be called `+`, and another one `√(`.
A unary key that comes while a binary one waits takes the latest fragment for its
operand all the same.  Is it one?

To answer this a second list is kept beside the fragments, of pieces that know where
they come from (`Piece`), and the entries in effect since the last new expression are
noted (`Account`).  The invariant is the shape of that list, the latest piece first,
with one form for each phase (`Account.Shaped`):

| phase | pieces |
| :-- | :-- |
| `empty` | none |
| `value` | a row |
| `waiting` | `b`, and a row below it |
| `second` | operands, at least one, then `b`, and a row below it |

where an operand is a text that was entered, or one wrapped in unary symbols, and a row
is an operand, or a row in a pair of parentheses, or operands above a binary symbol
above a row.  A second operand that is entered twice leaves two operands there, which is
why it need not be one.

That an entry without effect changes nothing is worth saying of a replay that takes the
accumulator and the waiting key out before it knows (`Replay.operate`).  The main
statement is in `Keypad.Proofs.Parentheses`.
-/
import Keypad.Proofs.Expression

namespace Keypad

/-! ## The acts of a replay, one assignment after another -/

namespace Replay

def reset : StateM Replay Unit := set Replay.blank

def setAccumulator (x : Float) : StateM Replay Unit :=
  modify fun r => { r with accumulator := some x }

/-- Puts a fragment at the end. -/
def push (text : String) : StateM Replay Unit :=
  modify fun r => { r with fragments := text :: r.fragments }

/-- Puts a fragment at the beginning. -/
def insertFirst (text : String) : StateM Replay Unit :=
  modify fun r => { r with fragments := r.fragments ++ [text] }

/-- Takes the latest fragment away, if there is one. -/
def pop : StateM Replay (Option String) :=
  modifyGet fun r => (r.fragments.head?, { r with fragments := r.fragments.tail })

def takeAccumulator : StateM Replay (Option Float) :=
  modifyGet fun r => (r.accumulator, { r with accumulator := none })

def takePending : StateM Replay (Option Pending) :=
  modifyGet fun r => (r.pending, { r with pending := none })

/-- An entry, and whether it has an effect. -/
def operate : Entry → StateM Replay Bool
  | .operand x text => do
    if (← get).pending.isNone then reset
    setAccumulator x
    push text
    return true
  | .unary u => do
    match (← get).accumulator with
    | none => return false
    | some x =>
      if (← get).pending.isSome then
        let latest := (← pop).getD ""
        push (u.symbol ++ "(" ++ latest ++ ")")
      else
        insertFirst (u.symbol ++ "(")
        push ")"
      setAccumulator (u.apply x)
      return true
  | .binary b => do
    match ← takeAccumulator with
    | none => return false
    | some x =>
      let first := match ← takePending with
        | some waiting => waiting.perform x
        | none => x
      modify fun r => { r with pending := some ⟨b, first⟩ }
      push b.symbol
      return true
  | .equals => do
    match (← get).pending, (← get).accumulator with
    | some waiting, some x =>
      setAccumulator (waiting.perform x)
      modify fun r => { r with pending := none }
      return true
    | _, _ => return false

/-- Entries one after another, whether they have an effect or not. -/
def operateAll (es : List Entry) : StateM Replay Unit :=
  es.forM fun entry => discard (operate entry)

theorem operate_eq (entry : Entry) (r : Replay) :
    operate entry r = ((r.enter entry).isSome, r.step entry) := by
  obtain ⟨accumulator, pending, fragments⟩ := r
  cases entry with
  | operand x text => cases pending <;> rfl
  | binary b => cases accumulator <;> cases pending <;> rfl
  | equals => cases accumulator <;> cases pending <;> rfl
  | unary u =>
      cases accumulator with
      | none => rfl
      | some x =>
          cases pending with
          | none => rfl
          | some waiting =>
              cases fragments with
              | cons latest earlier => rfl
              | nil =>
                  -- Nothing to take: the empty text is wrapped in its place.
                  have left : operate (.unary u) ⟨some x, some waiting, []⟩
                      = (true, ⟨some (u.apply x), some waiting, [u.symbol ++ "(" ++ "" ++ ")"]⟩) :=
                    rfl
                  rw [String.append_empty] at left
                  exact left

theorem operateAll_eq (es : List Entry) : ∀ r : Replay, operateAll es r = ((), r.run es) := by
  induction es with
  | nil => intro r; rfl
  | cons entry es ih =>
      intro r
      have first : discard (operate entry) r = ((), r.step entry) :=
        congrArg (fun done : Bool × Replay => ((), done.2)) (operate_eq entry r)
      calc operateAll (entry :: es) r
          = operateAll es (discard (operate entry) r).2 := rfl
        _ = ((), (r.step entry).run es) := by rw [first, ih]

/-- What has no effect leaves the accumulator, the waiting key and the fragments as
they were. -/
theorem operate_of_no_effect {entry : Entry} {r : Replay} (h : (operate entry r).1 = false) :
    (operate entry r).2 = r := by
  rw [operate_eq] at h ⊢
  have refused : r.enter entry = none := by simpa using h
  exact congrArg (·.getD r) refused

end Replay

/-! ## Pieces -/

/-- A fragment that knows where it comes from. -/
inductive Piece where
  | operand (text : String)
  /-- A piece with a unary symbol around it. -/
  | wrapped (u : Unary) (inner : Piece)
  /-- What stands for the latest fragment if there is none. -/
  | missing
  | binary (b : Binary)
  | opening (u : Unary)
  | closing

namespace Piece

def text : Piece → String
  | .operand text => text
  | .wrapped u inner => u.symbol ++ "(" ++ inner.text ++ ")"
  | .missing => ""
  | .binary b => b.symbol
  | .opening u => u.symbol ++ "("
  | .closing => ")"

/-- A whole operand: a text that was entered, or one wrapped in unary symbols.  `P` is
known of the text. -/
inductive Complete (P : String → Prop) : Piece → Prop
  | operand {text : String} : P text → Complete P (.operand text)
  | wrapped (u : Unary) {inner : Piece} : Complete P inner → Complete P (.wrapped u inner)

def wrapLatest (u : Unary) : List Piece → List Piece
  | [] => [.wrapped u .missing]
  | latest :: earlier => .wrapped u latest :: earlier

def wrapAll (u : Unary) (pieces : List Piece) : List Piece :=
  .closing :: (pieces ++ [.opening u])

theorem map_text_wrapAll (u : Unary) (pieces : List Piece) :
    (wrapAll u pieces).map text = Replay.wrapAll u.symbol (pieces.map text) := by
  rw [wrapAll, List.map_cons, List.map_append]
  rfl

/-- The pieces of an expression with nothing waiting. -/
inductive Row (P : String → Prop) : List Piece → Prop
  | operand {text : String} : P text → Row P [.operand text]
  | wrapped (u : Unary) {row : List Piece} : Row P row → Row P (wrapAll u row)
  | extended (b : Binary) {operands row : List Piece} : operands ≠ [] →
      (∀ piece ∈ operands, Complete P piece) → Row P row → Row P (operands ++ .binary b :: row)

theorem Row.ne_nil {P : String → Prop} {row : List Piece} (h : Row P row) : row ≠ [] := by
  cases h with
  | operand _ => exact List.cons_ne_nil _ _
  | wrapped _ _ => exact List.cons_ne_nil _ _
  | extended _ _ _ _ => exact List.append_ne_nil_of_right_ne_nil _ (List.cons_ne_nil _ _)

end Piece

/-! ## A replay with its pieces -/

def Entry.text? : Entry → Option String
  | .operand _ text => some text
  | .unary _ | .binary _ | .equals => none

/-- A replay, where its fragments come from, and the entries in effect since the last
new expression, the latest first. -/
structure Account where
  replay : Replay
  pieces : List Piece
  since : List Entry

namespace Account

def blank : Account := ⟨.blank, [], []⟩

/-- The pieces after an entry that has an effect. -/
def piecesAfter (a : Account) : Entry → List Piece
  | .operand _ text => if a.replay.isPending then .operand text :: a.pieces else [.operand text]
  | .unary u => if a.replay.isPending then Piece.wrapLatest u a.pieces else Piece.wrapAll u a.pieces
  | .binary b => .binary b :: a.pieces
  | .equals => a.pieces

/-- The entries since the last new expression, after one that has an effect. -/
def sinceAfter (a : Account) (entry : Entry) : List Entry :=
  if entry.kind = .operand ∧ a.replay.isPending = false then [entry] else entry :: a.since

def step (a : Account) (entry : Entry) : Account :=
  if (a.replay.enter entry).isSome then
    ⟨a.replay.step entry, a.piecesAfter entry, a.sinceAfter entry⟩
  else a

def run (a : Account) (es : List Entry) : Account := es.foldl step a

@[simp] theorem run_nil (a : Account) : a.run [] = a := rfl

@[simp] theorem run_cons (a : Account) (entry : Entry) (es : List Entry) :
    a.run (entry :: es) = (a.step entry).run es := rfl

theorem replay_step (a : Account) (entry : Entry) :
    (a.step entry).replay = a.replay.step entry := by
  rw [step, Replay.step]
  cases a.replay.enter entry <;> rfl

theorem replay_run (es : List Entry) : ∀ a : Account, (a.run es).replay = a.replay.run es := by
  induction es with
  | nil => intro a; rfl
  | cons entry es ih =>
      intro a
      rw [run_cons, ih, replay_step, Replay.run_cons]

/-! ## The shape of the pieces -/

/-- The forms that a replay and its pieces can take, one for each phase. -/
inductive Shaped (P : String → Prop) : Account → Prop
  | empty {since : List Entry} : Shaped P ⟨.blank, [], since⟩
  | value (x : Float) {row : List Piece} {since : List Entry} :
      Piece.Row P row → Shaped P ⟨⟨some x, none, row.map Piece.text⟩, row, since⟩
  | waiting (w : Pending) {row : List Piece} {since : List Entry} :
      Piece.Row P row →
      Shaped P ⟨⟨none, some w, (.binary w.operation :: row).map Piece.text⟩,
        .binary w.operation :: row, since⟩
  | second (x : Float) (w : Pending) {latest : Piece} {operands row : List Piece}
      {since : List Entry} :
      (∀ piece ∈ latest :: operands, Piece.Complete P piece) → Piece.Row P row →
      Shaped P ⟨⟨some x, some w, (latest :: operands ++ .binary w.operation :: row).map Piece.text⟩,
        latest :: operands ++ .binary w.operation :: row, since⟩

namespace Shaped

variable {P : String → Prop} {a : Account}

theorem step (h : Shaped P a) {entry : Entry} (known : ∀ x text, entry = .operand x text → P text) :
    Shaped P (a.step entry) := by
  cases h with
  | empty =>
      cases entry with
      | operand x text => exact .value x (.operand (known x text rfl))
      | unary _ | binary _ | equals => exact .empty
  | @value x row since shape =>
      cases entry with
      -- An operand that finds nothing waiting is a row by itself, whatever the row was.
      | operand y text => exact .value y (.operand (known y text rfl))
      | equals => exact .value x shape
      | binary b => exact .waiting ⟨b, x⟩ shape
      | unary u =>
          have wrapped : Shaped P ⟨⟨some (u.apply x), none, (Piece.wrapAll u row).map Piece.text⟩,
              Piece.wrapAll u row, .unary u :: since⟩ := .value (u.apply x) (shape.wrapped u)
          rw [Piece.map_text_wrapAll] at wrapped
          exact wrapped
  | waiting w shape =>
      cases entry with
      | unary _ | binary _ | equals => exact .waiting w shape
      | operand y text =>
          have entered : ∀ piece ∈ [Piece.operand text], piece.Complete P :=
            List.forall_mem_singleton.mpr (.operand (known y text rfl))
          exact .second y w entered shape
  | @second x w latest operands row since complete shape =>
      obtain ⟨last, others⟩ := List.forall_mem_cons.mp complete
      cases entry with
      | operand y text =>
          have entered : Piece.Complete P (.operand text) := .operand (known y text rfl)
          exact .second y w (List.forall_mem_cons.mpr ⟨entered, complete⟩) shape
      -- The latest operand is wrapped, and those that it replaced are not.
      | unary u =>
          exact .second (u.apply x) w (List.forall_mem_cons.mpr ⟨last.wrapped u, others⟩) shape
      -- From here on all that there is makes one row.
      | binary b =>
          exact .waiting ⟨b, w.perform x⟩
            (.extended w.operation (List.cons_ne_nil _ _) complete shape)
      | equals =>
          exact .value (w.perform x) (.extended w.operation (List.cons_ne_nil _ _) complete shape)

theorem run {es : List Entry} (known : ∀ x text, Entry.operand x text ∈ es → P text) :
    ∀ {a : Account}, Shaped P a → Shaped P (a.run es) := by
  induction es with
  | nil => exact id
  | cons entry es ih =>
      intro a h
      have here : ∀ x text, entry = .operand x text → P text :=
        fun x text same => known x text (same ▸ List.mem_cons_self)
      exact ih (fun x text mem => known x text (List.mem_cons_of_mem entry mem)) (h.step here)

theorem fragments_eq (h : Shaped P a) : a.replay.fragments = a.pieces.map Piece.text := by
  cases h <;> rfl

/-- No number and no waiting key, no fragments. -/
theorem fragments_eq_nil_iff (h : Shaped P a) :
    a.replay.fragments = [] ↔ a.replay.accumulator = none ∧ a.replay.pending = none := by
  rw [h.fragments_eq, List.map_eq_nil_iff]
  cases h with
  | empty => exact iff_of_true rfl ⟨rfl, rfl⟩
  | value x shape => exact iff_of_false shape.ne_nil (fun both => nomatch both.1)
  | waiting w _ => exact iff_of_false (List.cons_ne_nil _ _) (fun both => nomatch both.2)
  | second x w _ _ => exact iff_of_false (List.cons_ne_nil _ _) (fun both => nomatch both.2)

/-- Above the symbol that waits there are whole operands only, and there is one exactly
if the accumulator holds a number. -/
theorem of_pending (h : Shaped P a) {w : Pending} (waits : a.replay.pending = some w) :
    ∃ operands row : List Piece, a.pieces = operands ++ .binary w.operation :: row ∧
      (∀ piece ∈ operands, piece.Complete P) ∧
      (a.replay.accumulator.isSome = true ↔ operands ≠ []) := by
  cases h with
  | empty => cases waits
  | value _ _ => cases waits
  | @waiting _ row =>
      cases waits
      exact ⟨[], row, rfl, List.forall_mem_nil _, iff_of_false Bool.false_ne_true (· rfl)⟩
  | @second _ _ latest operands row _ complete =>
      cases waits
      exact ⟨latest :: operands, row, rfl, complete, iff_of_true rfl (List.cons_ne_nil _ _)⟩

/-- A unary key with a binary one waiting finds a whole operand to wrap. -/
theorem pop_eq (h : Shaped P a) {w : Pending} (waits : a.replay.pending = some w)
    (held : a.replay.accumulator.isSome = true) (u : Unary) :
    ∃ (latest : Piece) (earlier : List Piece), a.pieces = latest :: earlier ∧ latest.Complete P ∧
      (Replay.pop a.replay).1 = some latest.text ∧
      (Replay.operate (.unary u) a.replay).2.fragments
        = (.wrapped u latest :: earlier).map Piece.text := by
  cases h with
  | empty => cases waits
  | value _ _ => cases waits
  | waiting _ _ => cases held
  | second _ _ complete _ => exact ⟨_, _, rfl, (List.forall_mem_cons.mp complete).1, rfl, rfl⟩

end Shaped

end Account

/-! ## The operands of a program -/

/-- What an operand key enters is written as its symbol. -/
theorem Key.text_entry {key : Key} {draws : Draws} {x : Float} {text : String}
    (h : (key.entry draws).1 = .operand x text) : text = key.symbol := by
  cases key with
  | constant c | draw => exact (Entry.operand.inj h).2.symm
  | unary _ | binary _ | equals => cases h

theorem Token.text_entry {format : NumberFormat} {bindings : Bindings} {draws : Draws} {x : Float}
    {text : String} {token : Token}
    (h : (token.entry format bindings draws).1 = some (.operand x text)) :
    (∃ literal, token = .operand literal ∧ text = literal.text format) ∨
      ∃ key : Key, text = key.symbol := by
  cases token with
  | operand literal =>
      have entered := Option.some.inj h
      rw [literal.entry_eq] at entered
      exact .inl ⟨literal, rfl, (Entry.operand.inj entered).2.symm⟩
  | operation symbol =>
      simp only [Token.entry] at h
      cases known : Key.ofSymbol? symbol with
      | none =>
          rw [known] at h
          cases h
      | some key =>
          rw [known] at h
          exact .inr ⟨key, Key.text_entry (Option.some.inj h)⟩

/-- The text of an operand is that of a literal of the program, or a symbol. -/
theorem operand_mem_entries {format : NumberFormat} {bindings : Bindings} {x : Float}
    {text : String} (program : List Token) :
    ∀ {draws : Draws}, .operand x text ∈ (entries format bindings program draws).1 →
      (∃ literal, .operand literal ∈ program ∧ text = literal.text format) ∨
        ∃ key : Key, text = key.symbol := by
  induction program with
  | nil =>
      intro draws mem
      cases mem
  | cons token program ih =>
      intro draws mem
      have parts : .operand x text ∈ (token.entry format bindings draws).1.toList
          ++ (entries format bindings program (token.entry format bindings draws).2).1 := mem
      cases List.mem_append.mp parts with
      | inl here =>
          cases Token.text_entry (Option.mem_toList.mp here) with
          | inl entered =>
              obtain ⟨literal, same, written⟩ := entered
              exact .inl ⟨literal, same ▸ List.mem_cons_self, written⟩
          | inr symbol => exact .inr symbol
      | inr later =>
          cases ih later with
          | inl entered =>
              obtain ⟨literal, mem, written⟩ := entered
              exact .inl ⟨literal, List.mem_cons_of_mem token mem, written⟩
          | inr symbol => exact .inr symbol

end Keypad
