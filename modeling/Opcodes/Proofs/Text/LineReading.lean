import Mathlib.Data.List.TakeDrop
import Mathlib.Data.List.TakeWhile
import Opcodes.Proofs.Text.Fields
import Opcodes.Proofs.Unicode.Plain
import Opcodes.Text

/-! Reading a text by its lines. A line of code with two names in it is read by the words around
   them: a name is a longest run of plain characters, so nothing has to be escaped. -/
namespace Opcodes.Text
open Unicode

/-- The lines of a text whose last line is ended, too. -/
def lines? (text : String) : Option (List String) :=
  let parts := text.toList.splitOn '\n'
  if parts.getLast? = some [] then some (parts.dropLast.map String.ofList) else none

def Unbroken (line : String) : Prop := '\n' ∉ line.toList

instance (line : String) : Decidable (Unbroken line) :=
  inferInstanceAs (Decidable ('\n' ∉ line.toList))

theorem unbroken_append {a b : String} (first : Unbroken a) (second : Unbroken b) :
    Unbroken (a ++ b) := by
  unfold Unbroken at *
  rw [String.toList_append, List.mem_append]
  exact not_or.mpr ⟨first, second⟩

theorem plain_unbroken {text : String} (plain : IsPlainText text) : Unbroken text := by
  intro member
  exact absurd (plain '\n' member) (by decide)

theorem decimal_plain (code : Code) : IsPlainText code.decimal := by
  intro c member
  rw [code_digits] at member
  have digit := digits_are_digits code.toNat c member
  have first : CodeRange.contains ⟨0x30, 0x39⟩ c.toNat = true := by
    simp only [Char.isDigit, Bool.and_eq_true, decide_eq_true_eq, ge_iff_le,
      UInt32.le_iff_toNat_le] at digit
    simp only [CodeRange.contains, Bool.and_eq_true, decide_eq_true_eq]
    exact digit
  exact List.any_eq_true.mpr ⟨_, List.mem_cons_self, first⟩

theorem split_lines (lines : List String) (unbroken : ∀ line ∈ lines, Unbroken line) :
    (ofLines lines).toList.splitOn '\n' = lines.map String.toList ++ [[]] := by
  induction lines with
  | nil => rfl
  | cons line lines ih =>
    have first : Unbroken line := unbroken line List.mem_cons_self
    have rest := ih fun other member => unbroken other (List.mem_cons_of_mem line member)
    have text : (ofLines (line :: lines)).toList =
        line.toList ++ '\n' :: (ofLines lines).toList := by
      simp [ofLines]
    rw [text, List.splitOn_append_cons_self_of_not_mem first, rest]
    rfl

theorem lines_of_lines (lines : List String) (unbroken : ∀ line ∈ lines, Unbroken line) :
    lines? (ofLines lines) = some lines := by
  simp [lines?, split_lines lines unbroken, Function.comp_def]

def between? (before after line : String) : Option String := do
  let rest ← line.toList.dropPrefix? before.toList
  let held ← rest.dropSuffix? after.toList
  return String.ofList held

theorem drop_prefix {α : Type} [BEq α] [LawfulBEq α] (before rest : List α) :
    (before ++ rest).dropPrefix? before = some rest :=
  List.dropPrefix?_append_of_beq rest (BEq.refl before)

theorem drop_suffix (held after : List Char) :
    (held ++ after).dropSuffix? after = some held :=
  List.dropSuffix?_eq_some_iff.mpr ⟨after, rfl, BEq.refl after⟩

theorem between_of_line (before after held : String) :
    between? before after (before ++ held ++ after) = some held := by
  simp [between?, drop_prefix, drop_suffix]

/-- A line with room for two names. -/
structure Row where
  before : String
  between : String
  after : String

namespace Row

def write (row : Row) (a b : String) : String := row.before ++ a ++ row.between ++ b ++ row.after

def read? (row : Row) (line : String) : Option (String × String) := do
  let rest ← line.toList.dropPrefix? row.before.toList
  let (a, rest) := rest.span isPlain
  let rest ← rest.dropPrefix? row.between.toList
  let (b, rest) := rest.span isPlain
  if rest = row.after.toList then some (String.ofList a, String.ofList b) else none

def isFence (text : String) : Bool := text.toList.head?.any (!isPlain ·)

/-- After either name comes a character that is not plain, and all is on one line. -/
def keepsApart (row : Row) : Bool :=
  isFence row.between && isFence row.after &&
    !(row.before ++ row.between ++ row.after).toList.contains '\n'

theorem span_to_fence {name : List Char} {fence : String} (rest : List Char)
    (plain : ∀ c ∈ name, isPlain c = true) (fenced : isFence fence = true) :
    (name ++ (fence.toList ++ rest)).span isPlain = (name, fence.toList ++ rest) := by
  obtain ⟨c, first, stop⟩ := (Option.any_eq_true _ _).mp fenced
  obtain ⟨more, text⟩ := List.head?_eq_some_iff.mp first
  have stops : isPlain c = false := by simpa using stop
  rw [List.span_eq_takeWhile_dropWhile, List.takeWhile_append_of_pos plain,
    List.dropWhile_append_of_pos plain, text]
  simp [stops]

theorem read_write {row : Row} (apart : row.keepsApart = true) {a b : String}
    (plainA : IsPlainText a) (plainB : IsPlainText b) : row.read? (row.write a b) = some (a, b) := by
  obtain ⟨⟨fenceA, fenceB⟩, _⟩ : (isFence row.between = true ∧ isFence row.after = true) ∧ _ := by
    simpa only [keepsApart, Bool.and_eq_true] using apart
  have line : (row.write a b).toList = row.before.toList ++
      (a.toList ++ (row.between.toList ++ (b.toList ++ row.after.toList))) := by
    simp only [write, String.toList_append, List.append_assoc]
  have first := span_to_fence (b.toList ++ row.after.toList) plainA fenceA
  have second : (b.toList ++ row.after.toList).span isPlain = (b.toList, row.after.toList) := by
    simpa using span_to_fence [] plainB fenceB
  simp [read?, line, drop_prefix, first, second, -List.span_eq_takeWhile_dropWhile]

theorem write_unbroken (row : Row) (apart : row.keepsApart = true) {a b : String}
    (plainA : IsPlainText a) (plainB : IsPlainText b) : Unbroken (row.write a b) := by
  obtain ⟨before, between, after⟩ :
      Unbroken row.before ∧ Unbroken row.between ∧ Unbroken row.after := by
    simp only [keepsApart, Bool.and_eq_true, Bool.not_eq_true', List.contains_eq_mem,
      decide_eq_false_iff_not, String.toList_append, List.mem_append, not_or, and_assoc] at apart
    exact apart.2.2
  have first := unbroken_append (unbroken_append before (plain_unbroken plainA)) between
  exact unbroken_append (unbroken_append first (plain_unbroken plainB)) after

def named? (row : Row) (line : String) : Option (String × Nat) := do
  let (name, digits) ← row.read? line
  return (name, ← decimal? digits.toList)

def numbered? (row : Row) (line : String) : Option (Nat × String) := do
  let (digits, name) ← row.read? line
  return (← decimal? digits.toList, name)

theorem named_write {row : Row} (apart : row.keepsApart = true) {name : String}
    (plain : IsPlainText name) (code : Code) :
    row.named? (row.write name code.decimal) = some (name, code.toNat) := by
  simp [named?, read_write apart plain (decimal_plain code), code_digits]

theorem numbered_write {row : Row} (apart : row.keepsApart = true) {name : String}
    (plain : IsPlainText name) (code : Code) :
    row.numbered? (row.write code.decimal name) = some (code.toNat, name) := by
  simp [numbered?, read_write apart (decimal_plain code) plain, code_digits]

end Row

/-- The rows at the head of some lines, up to the first line that is none. -/
def rowsOf {α : Type} (row? : String → Option α) : List String → List α × List String
  | [] => ([], [])
  | line :: rest =>
    match row? line with
    | none => ([], line :: rest)
    | some row =>
      let (rows, last) := rowsOf row? rest
      (row :: rows, last)

abbrev LineReader (α : Type) := StateT (List String) Option α

namespace LineReader

def fixed (expected : List String) : LineReader Unit :=
  fun lines => (lines.dropPrefix? expected).map ((), ·)

def optional (expected : String) : LineReader Bool
  | line :: rest => if line = expected then some (true, rest) else some (false, line :: rest)
  | [] => some (false, [])

def between (before after : String) : LineReader String
  | line :: rest => (between? before after line).map (·, rest)
  | [] => none

def rows {α : Type} (row? : String → Option α) : LineReader (List α) :=
  fun lines => some (rowsOf row? lines)

def read? {α : Type} (reader : LineReader α) (text : String) : Option α := do
  match ← reader (← lines? text) with
  | (value, []) => some value
  | (_, _ :: _) => none

def Reads {α : Type} (reader : LineReader α) (lines : List String) (value : α)
    (rest : List String) : Prop := reader lines = some (value, rest)

theorem reads_bind {α β : Type} {reader : LineReader α} {next : α → LineReader β}
    {lines middle rest : List String} {a : α} {b : β} (first : Reads reader lines a middle)
    (second : Reads (next a) middle b rest) : Reads (reader >>= next) lines b rest := by
  unfold Reads at *
  simp only [bind, StateT.bind, first, Option.bind_some]
  exact second

theorem reads_fixed (expected rest : List String) :
    Reads (fixed expected) (expected ++ rest) () rest := by
  simp [Reads, fixed, drop_prefix]

theorem reads_present (line : String) (rest : List String) :
    Reads (optional line) (line :: rest) true rest :=
  if_pos rfl

theorem reads_absent {expected line : String} (other : line ≠ expected) (rest : List String) :
    Reads (optional expected) (line :: rest) false (line :: rest) :=
  if_neg other

theorem reads_between (before after held : String) (rest : List String) :
    Reads (between before after) ((before ++ held ++ after) :: rest) held rest := by
  simp [Reads, between, between_of_line]

theorem reads_rows {α β : Type} {row? : String → Option β} {write : α → String} {value : α → β}
    {items : List α} (inverse : ∀ item ∈ items, row? (write item) = some (value item))
    {stop : String} (stops : row? stop = none) (rest : List String) :
    Reads (rows row?) (items.map write ++ stop :: rest) (items.map value) (stop :: rest) := by
  unfold Reads rows
  refine congrArg some ?_
  induction items with
  | nil => simp [rowsOf, stops]
  | cons item items ih =>
    have first := inverse item List.mem_cons_self
    have later := ih fun other member => inverse other (List.mem_cons_of_mem item member)
    simp [rowsOf, first, later]

theorem read_text {α : Type} {reader : LineReader α} {lines : List String} {value : α}
    (unbroken : ∀ line ∈ lines, Unbroken line) (reads : Reads reader lines value []) :
    reader.read? (ofLines lines) = some value := by
  unfold Reads at reads
  simp [read?, lines_of_lines lines unbroken, reads]

end LineReader
end Opcodes.Text
