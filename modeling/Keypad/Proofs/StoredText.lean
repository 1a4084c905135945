/-
# `Keypad.Proofs.StoredText` — a stored program is read as it was written

What is written for a program is one of the texts of the grammar.  A string is escaped
character by character (`charText_escape`), so whatever is in it comes back.  A number is
written as a numeral in range, and comes back as what that numeral is read as.

Hence reading a text that was written gives the program back, but for its numbers
(`read_write`).
-/
import Keypad.Proofs.Rereading
import Keypad.Proofs.StoredGrammar

namespace Keypad

namespace Json

/-! ## Strings -/

theorem hexValue?_control :
    ∀ n < 0x20, hexValue? ['0', '0', Nat.digitChar (n / 16), Nat.digitChar (n % 16)] = some n := by
  decide

theorem charText_escape (c : Char) : CharText (escape c) c := by
  rw [escape]
  split_ifs with special backspace tab newline page carriage control
  · refine .escape (.short c ?_)
    rcases special with rfl | rfl <;> rfl
  · exact .escape (.short 'b' (backspace ▸ rfl))
  · exact .escape (.short 't' (tab ▸ rfl))
  · exact .escape (.short 'n' (newline ▸ rfl))
  · exact .escape (.short 'f' (page ▸ rfl))
  · exact .escape (.short 'r' (carriage ▸ rfl))
  · exact .escape (.code rfl (hexValue?_control c.toNat control))
  · rw [not_or] at special
    exact .plain c special.1 special.2 (Nat.not_lt.mp control)

theorem textBody_escape (s : List Char) : TextBody (s.flatMap escape) s := by
  induction s with
  | nil => exact .nil
  | cons c s ih => exact .cons (charText_escape c) ih

end Json

namespace Stored

open Json

/-! ## Entries -/

/-- A stored entry after it was written and read. -/
def reread : Primitive → Primitive
  | .number x => .number (Json.reread x)
  | .text s => .text s

/-- An entry that has a text. -/
def Writable : Primitive → Prop
  | .number x => x.isFinite = true
  | .text _ => True

theorem itemText_write {p : Primitive} (writable : Writable p) :
    ItemText (writeItem p) (reread p) := by
  cases p with
  | text s =>
      have text := ItemText.text (textBody_escape s.toList)
      rwa [String.ofList_toList] at text
  | number x =>
      obtain ⟨n, written, value⟩ := exists_writtenAs_writeNumber writable
      exact .number written value

/-! ## Programs -/

theorem space_nil : Space [] := List.forall_mem_nil _

theorem itemsText_write (ps : List Primitive) :
    ∀ p : Primitive, Writable p → (∀ q ∈ ps, Writable q) →
      ItemsText ([','].intercalate ((p :: ps).map writeItem)) ((p :: ps).map reread) := by
  induction ps with
  | nil =>
      intro p writable _
      have text := ItemsText.last space_nil (itemText_write writable) space_nil
      simpa [List.intercalate] using text
  | cons q ps ih =>
      intro p writable all
      have rest := ih q (all q List.mem_cons_self) fun r mem => all r (List.mem_cons_of_mem q mem)
      have text := ItemsText.more space_nil (itemText_write writable) space_nil rest
      simpa [List.intercalate] using text

theorem denotes_write {program : List Primitive} (writable : ∀ p ∈ program, Writable p) :
    Denotes (write program) (program.map reread) := by
  have array : ArrayText (write program).toList (program.map reread) := by
    rw [write, String.toList_ofList]
    cases program with
    | nil => exact .empty space_nil
    | cons p ps =>
        refine .items (itemsText_write ps p (writable p List.mem_cons_self) ?_)
        exact fun q mem => writable q (List.mem_cons_of_mem p mem)
  exact ⟨[], _, [], space_nil, array, space_nil, (List.append_nil _).symm⟩

/-- A program that was written is read, with each number as its own text is read. -/
theorem read_write {program : List Primitive} (writable : ∀ p ∈ program, Writable p) :
    read (write program) = some (program.map reread) :=
  (denotes_write writable).read

/-- Nothing stands in the way of writing a program of such entries. -/
theorem firstNonFinite_eq_none {program : List Primitive} (writable : ∀ p ∈ program, Writable p) :
    firstNonFinite program = none := by
  rw [firstNonFinite, List.findSome?_eq_none_iff]
  intro p mem
  have finite := writable p mem
  cases p with
  | number x => exact if_pos finite
  | text s => rfl

end Stored

end Keypad
