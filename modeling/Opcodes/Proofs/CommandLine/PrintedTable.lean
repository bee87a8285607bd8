import Mathlib.Data.Nat.Digits.Defs
import Opcodes.Proofs.CommandLine.Effects
import Opcodes.Proofs.Table.Numbering
import Opcodes.Proofs.Text.Fields
import Opcodes.Proofs.Text.LineReading
import Opcodes.Proofs.Unicode.Casing

/-! The table that a command line prints, read back from its lines. Padding alone keeps nothing apart,
   since a long name or a large code leaves none; that names have no spaces does. -/
namespace Opcodes.CommandLine
open Files Text Unicode

def plainLine (entry : Entry) : String :=
  String.ofList (entry.code.decimal.toList.leftpad 4 ' ') ++
    ("  " ++ String.ofList (entry.mnemonic.name.toList.rightpad 16 ' ') ++ " ") ++
    entry.mnemonic.upper

/-- The entry on a line of a printed table, by the first two of its fields. -/
def entryOfLine? (line : String) : Option Entry :=
  match (fields line).map (·.text) with
  | [code, mnemonic, _] => (decimal? code.toList).map fun number => ⟨⟨mnemonic⟩, .ofNat number⟩
  | _ => none

def printedTable? (text : String) : Option Table := do
  let lines ← lines? text
  let entries ← lines.mapM entryOfLine?
  return ⟨entries⟩

theorem plain_output (entries : List Entry) :
    Text.render false (entries.flatMap listLine) = ofLines (entries.map plainLine) := by
  induction entries with
  | nil => rfl
  | cons entry entries ih =>
    have line : Text.render false (listLine entry) = plainLine entry ++ "\n" := by
      simp [Text.render, listLine, plainLine, Fragment.render, Fragment.styled, Fragment.plain,
        String.join, String.append_assoc]
    have parts : Text.render false ((entry :: entries).flatMap listLine) =
        Text.render false (listLine entry) ++ Text.render false (entries.flatMap listLine) := by
      simp only [Text.render, List.flatMap_cons, List.map_append, String.join_append]
    rw [parts, line, ih]
    simp [ofLines]

theorem plain_is_field {text : String} (plain : IsPlainText text) (some : text ≠ "") :
    IsFieldText text.toList := by
  refine ⟨mt String.toList_eq_nil_iff.mp some, ?_⟩
  intro space
  exact absurd (plain ' ' space) (by decide)

def HasWord (entry : Entry) : Prop :=
  IsPlainText entry.mnemonic.name ∧ entry.mnemonic.name ≠ ""

theorem listed_has_word {source : String} {entry : Entry}
    (listed : entry ∈ (Table.ofListing source).entries) : HasWord entry :=
  ⟨Table.entry_plain listed, (Listing.mnemonic_is_word (Table.entry_listed listed)).1⟩

theorem decimal_not_empty (code : Code) : code.decimal ≠ "" := by
  have digits : code.decimal.toList ≠ [] := by
    rw [code_digits]
    exact Nat.toDigits_ne_nil
  exact mt String.toList_eq_nil_iff.mpr digits

theorem line_chars (entry : Entry) :
    (plainLine entry).toList = entry.code.decimal.toList.leftpad 4 ' ' ++
      ' ' :: ' ' :: (entry.mnemonic.name.toList.rightpad 16 ' ' ++
        ' ' :: entry.mnemonic.upper.toList) := by
  simp [plainLine]

section Line
variable {entry : Entry} (word : HasWord entry)
include word

theorem fields_of_line :
    fields (plainLine entry) =
      [⟨4 - entry.code.decimal.length, entry.code.decimal⟩,
        ⟨max 4 entry.code.decimal.length + 2, entry.mnemonic.name⟩,
        ⟨max 4 entry.code.decimal.length + max 16 entry.mnemonic.name.length + 3,
          entry.mnemonic.upper⟩] := by
  have code := plain_is_field (decimal_plain entry.code) (decimal_not_empty entry.code)
  have name := plain_is_field word.1 word.2
  have upper := plain_is_field (upper_plain word.1) (upper_not_empty word.2)
  rw [fields, line_chars, Mnemonic.upper, fields_of_padded code name upper]
  simp only [String.length_toList, String.ofList_toList]

theorem line_unbroken : Unbroken (plainLine entry) := by
  have code := plain_unbroken (decimal_plain entry.code)
  have name := plain_unbroken word.1
  have upper := plain_unbroken (upper_plain word.1)
  intro broken
  rw [line_chars] at broken
  simp only [List.leftpad, List.rightpad, List.mem_append, List.mem_cons, List.mem_replicate]
    at broken
  rcases broken with (space | digit) | space | space | (letter | space) | space | letter
  · exact absurd space.2 (by decide)
  · exact code digit
  · exact absurd space (by decide)
  · exact absurd space (by decide)
  · exact name letter
  · exact absurd space.2 (by decide)
  · exact absurd space (by decide)
  · exact upper letter

theorem entry_of_line : entryOfLine? (plainLine entry) = some entry := by
  rw [entryOfLine?, fields_of_line word]
  simp [code_digits]

end Line

section Entries
variable {entries : List Entry} (words : ∀ entry ∈ entries, HasWord entry)
include words

theorem lines_of_output :
    lines? (Text.render false (entries.flatMap listLine)) = some (entries.map plainLine) := by
  rw [plain_output]
  apply lines_of_lines
  intro line member
  obtain ⟨entry, listed, rfl⟩ := List.mem_map.mp member
  exact line_unbroken (words entry listed)

theorem entries_of_lines : (entries.map plainLine).mapM entryOfLine? = some entries := by
  induction entries with
  | nil => rfl
  | cons entry entries ih =>
    obtain ⟨first, later⟩ := List.forall_mem_cons.mp words
    rw [List.map_cons, List.mapM_cons, entry_of_line first, ih later]
    rfl

theorem table_of_output :
    printedTable? (Text.render false (entries.flatMap listLine)) = some ⟨entries⟩ := by
  rw [printedTable?, lines_of_output words]
  change ((entries.map plainLine).mapM entryOfLine?).bind _ = _
  rw [entries_of_lines words]
  rfl

end Entries

theorem run_lists {arguments : List String} {inv : Invocation} {tree : Tree} {source : String}
    {table : Table} (parsed : Request.ofArguments arguments = .ok (.work inv))
    (lists : inv.mode = .list) (given : inv.HasSource tree source)
    (numbered : (inv.settings source).table.result = .ok table) (colour : Bool) :
    (run arguments tree).1.stdout colour =
      Text.render colour ((Table.ofListing source).entries.flatMap listLine) := by
  have same : table = .ofListing source := Settings.table_of_listing numbered
  rw [run_request parsed, Request.perform, Invocation.perform_on,
    Invocation.answer_with_source given, lists]
  simp only [list_numbered numbered, same]
  rfl

/-- The lines of a printed table are its entries, one after the other, and each has three fields
    that the spaces keep apart: the code, the mnemonic and the upper-cased name. As long as the
    first two fit their places, the last two stand in the same columns on all lines. -/
theorem printed_table_reads_back (arguments : List String) (inv : Invocation) (tree : Tree)
    (source : String) (table : Table) (parsed : Request.ofArguments arguments = .ok (.work inv))
    (lists : inv.mode = .list) (given : inv.HasSource tree source)
    (numbered : (inv.settings source).table.result = .ok table)
    (bound : (Listing.mnemonics source).length ≤ UInt32.size) :
    ∃ lines, lines? ((run arguments tree).1.stdout false) = some lines ∧
      lines.length = (Listing.mnemonics source).length ∧
      (∀ i m, (Listing.mnemonics source)[i]? = some m →
        ∃ line first second third, lines[i]? = some line ∧
          fields line = [⟨first, Nat.repr i⟩, ⟨second, m.name⟩, ⟨third, m.upper⟩] ∧
          (i < 10000 → m.name.length ≤ 16 → second = 6 ∧ third = 23)) ∧
      printedTable? ((run arguments tree).1.stdout false) = some table := by
  have words : ∀ entry ∈ (Table.ofListing source).entries, HasWord entry :=
    fun _ => listed_has_word
  have same : table = .ofListing source := Settings.table_of_listing numbered
  rw [run_lists parsed lists given numbered]
  refine ⟨(Table.ofListing source).entries.map plainLine, lines_of_output words, ?_, ?_, ?_⟩
  · rw [List.length_map]
    exact Table.size_of_mnemonics _
  · intro i m there
    have entry : (Table.ofListing source).entries[i]? = some ⟨m, .ofNat i⟩ := by
      rw [Table.ofListing, Table.entry_at, there, Option.map_some]
    have code : (UInt32.ofNat i).toNat = i := Table.position_is_code bound there
    have fields := fields_of_line (words _ (List.mem_of_getElem? entry))
    rw [Code.decimal, code] at fields
    refine ⟨plainLine ⟨m, .ofNat i⟩, _, _, _, ?_, fields, ?_⟩
    · rw [List.getElem?_map, entry, Option.map_some]
    · intro small short
      have digits : (Nat.repr i).length ≤ 4 := Nat.repr_length i 4 (by decide) small
      change m.name.length ≤ 16 at short
      simp only
      omega
  · rw [table_of_output words, same]

theorem printed_table_of_words :
    ∃ (arguments : List String) (tree : Tree) (inv : Invocation) (source : String)
      (lines : List String) (line : String) (column : Nat),
      arguments = ["-iops", "--list"] ∧ source = "straße a_name_of_17_char" ∧
      tree.find? ["ops"] = some (.file source.toUTF8) ∧
      Request.ofArguments arguments = .ok (.work inv) ∧ inv.mode = .list ∧
      inv.HasSource tree source ∧
      (inv.settings source).table.result = .ok (.ofListing source) ∧
      (Listing.mnemonics source).length ≤ UInt32.size ∧
      lines? ((run arguments tree).1.stdout false) = some lines ∧ lines.length = 2 ∧
      lines[0]? = some line ∧
      fields line = [⟨column, "0"⟩, ⟨6, "straße"⟩, ⟨23, "STRASSE"⟩] ∧
      printedTable? ((run arguments tree).1.stdout false) = some (.ofListing source) := by
  let arguments : List String := ["-iops", "--list"]
  let source : String := "straße a_name_of_17_char"
  let tree : Tree := ⟨[(["ops"], .file source.toUTF8)]⟩
  let inv : Invocation := { input := some "ops", mode := .list }
  have parsed : Request.ofArguments arguments = .ok (.work inv) := by decide +kernel
  have given : inv.HasSource tree source := by
    change tree.read "ops" = .ok source.toUTF8
    decide +kernel
  have listing : Listing.mnemonics source = [⟨"straße"⟩, ⟨"a_name_of_17_char"⟩] := by
    decide +kernel
  have bound : (Listing.mnemonics source).length ≤ UInt32.size := by
    rw [listing]
    decide
  have numbered : (inv.settings source).table.result = .ok (.ofListing source) := rfl
  have upper : (⟨"straße"⟩ : Mnemonic).upper = "STRASSE" := by decide +kernel
  have zero : Nat.repr 0 = "0" := by decide
  obtain ⟨lines, broken, count, row, readBack⟩ :=
    printed_table_reads_back arguments inv tree source _ parsed rfl given numbered bound
  rw [listing] at count row
  obtain ⟨line, first, second, third, there, held, columns⟩ := row 0 ⟨"straße"⟩ rfl
  obtain ⟨rfl, rfl⟩ := columns (by decide) (by decide)
  rw [upper, zero] at held
  exact ⟨arguments, tree, inv, source, lines, line, first, rfl, rfl, rfl, parsed, rfl, given,
    numbered, bound, broken, count, there, held, readBack⟩

end Opcodes.CommandLine
