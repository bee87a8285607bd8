import Mathlib.Data.List.Basic
import Opcodes.Error

/-! Numerals and fields. A decimal numeral has no superfluous zeros; every code is written as one, and
   read back. A line is fields with spaces between them, as many as there may be. Columns count
   characters, whatever the bytes of their encoding. -/
namespace Opcodes.Text

/-- The value of a numeral: some digits, with no zero in front of others. -/
def decimal? (cs : List Char) : Option Nat :=
  if cs.all Char.isDigit ∧ cs ≠ [] ∧ (cs.head? = some '0' → cs.length = 1) then
    some (Nat.ofDigitChars 10 cs 0)
  else none

theorem leading_zero_is_zero (n : Nat) (zero : (Nat.toDigits 10 n).head? = some '0') : n = 0 := by
  induction n using Nat.strongRecOn with
  | ind n ih =>
    by_cases small : n < 10
    · rw [Nat.toDigits_of_lt_base small] at zero
      exact Nat.digitChar_eq_zero.mp (Option.some.inj zero)
    · rw [Nat.toDigits_of_base_le (by decide) (by omega),
        List.head?_append_of_ne_nil _ Nat.toDigits_ne_nil] at zero
      have := ih (n / 10) (by omega) zero
      omega

theorem digits_are_digits (n : Nat) : ∀ c ∈ Nat.toDigits 10 n, c.isDigit = true :=
  fun _ member => Nat.isDigit_of_mem_toDigits (by decide) (by decide) member

@[simp] theorem decimal_of_digits (n : Nat) : decimal? (Nat.toDigits 10 n) = some n := by
  have proper : (Nat.toDigits 10 n).head? = some '0' → (Nat.toDigits 10 n).length = 1 := by
    intro zero
    rw [leading_zero_is_zero n zero, Nat.toDigits_zero]
    rfl
  have digits : (Nat.toDigits 10 n).all Char.isDigit = true :=
    List.all_eq_true.mpr (digits_are_digits n)
  rw [decimal?, if_pos ⟨digits, Nat.toDigits_ne_nil, proper⟩, Nat.ofDigitChars_ten_toDigits]

theorem code_digits (code : Code) : code.decimal.toList = Nat.toDigits 10 code.toNat :=
  Nat.toList_repr

/-- What stands between spaces on a line, and the column where it starts. -/
structure Field where
  column : Nat
  text : String
  deriving DecidableEq, Repr

/-- The parts between single spaces. A part without a character is no field. -/
def fieldsOfParts (column : Nat) : List (List Char) → List Field
  | [] => []
  | part :: rest =>
    let later := fieldsOfParts (column + part.length + 1) rest
    if part = [] then later else ⟨column, String.ofList part⟩ :: later

def fieldsFrom (column : Nat) (cs : List Char) : List Field := fieldsOfParts column (cs.splitOn ' ')

def fields (line : String) : List Field := fieldsFrom 0 line.toList

def IsFieldText (cs : List Char) : Prop := cs ≠ [] ∧ ' ' ∉ cs

theorem fields_from_spaces (column count : Nat) (cs : List Char) :
    fieldsFrom column (List.replicate count ' ' ++ cs) = fieldsFrom (column + count) cs := by
  induction count generalizing column with
  | zero => rfl
  | succ count ih =>
    have split := List.splitOn_append_cons_self_of_not_mem (List.not_mem_nil (a := ' '))
      (List.replicate count ' ' ++ cs)
    have first : fieldsFrom column (List.replicate (count + 1) ' ' ++ cs) =
        fieldsFrom (column + 1) (List.replicate count ' ' ++ cs) := by
      rw [fieldsFrom, List.replicate_succ, List.cons_append, ← List.nil_append (' ' :: _), split]
      rfl
    rw [first, ih, Nat.add_assoc, Nat.add_comm 1]

section Part
variable {part : List Char} (one : IsFieldText part) (column : Nat)
include one

theorem fields_from_part (rest : List Char) :
    fieldsFrom column (part ++ ' ' :: rest) =
      ⟨column, String.ofList part⟩ :: fieldsFrom (column + part.length + 1) rest := by
  rw [fieldsFrom, List.splitOn_append_cons_self_of_not_mem one.2, fieldsOfParts]
  exact if_neg one.1

theorem fields_from_last : fieldsFrom column part = [⟨column, String.ofList part⟩] := by
  rw [fieldsFrom, List.splitOn_eq_singleton one.2, fieldsOfParts]
  exact if_neg one.1

end Part

/-- Three fields, of which the first is padded in front and the second behind. A field that is
    wider than its place pushes those behind it on. -/
theorem fields_of_padded {a b c : List Char} (first : IsFieldText a) (second : IsFieldText b)
    (third : IsFieldText c) (before after : Nat) :
    fieldsFrom 0 (a.leftpad before ' ' ++ ' ' :: ' ' :: (b.rightpad after ' ' ++ ' ' :: c)) =
      [⟨before - a.length, String.ofList a⟩, ⟨max before a.length + 2, String.ofList b⟩,
        ⟨max before a.length + max after b.length + 3, String.ofList c⟩] := by
  have gap : b.rightpad after ' ' ++ ' ' :: c =
      b ++ ' ' :: (List.replicate (after - b.length) ' ' ++ c) := by
    have moved : List.replicate (after - b.length) ' ' ++ ' ' :: c =
        ' ' :: (List.replicate (after - b.length) ' ' ++ c) := by
      rw [List.append_cons, ← List.replicate_succ', List.replicate_succ, List.cons_append]
    rw [List.rightpad, List.append_assoc, moved]
  have space (column : Nat) (cs : List Char) :
      fieldsFrom column (' ' :: cs) = fieldsFrom (column + 1) cs :=
    fields_from_spaces column 1 cs
  have widthA : 0 + (before - a.length) + a.length + 1 + 1 = max before a.length + 2 := by omega
  have widthB : max before a.length + 2 + b.length + 1 + (after - b.length) =
      max before a.length + max after b.length + 3 := by omega
  rw [gap, List.leftpad, List.append_assoc, fields_from_spaces, fields_from_part first, space,
    fields_from_part second, fields_from_spaces, fields_from_last third, widthA, widthB,
    Nat.zero_add]

end Opcodes.Text
