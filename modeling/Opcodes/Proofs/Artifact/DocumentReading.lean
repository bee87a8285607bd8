import Opcodes.Generation
import Opcodes.Proofs.Table.Numbering
import Opcodes.Proofs.Text.JsonReading

/-! A document, read as JSON, holds the table that it was made from. -/
namespace Opcodes.Artifact.Document
open Json

def rowValue (mnemonic : Mnemonic) (code : Nat) : Value :=
  .object [("mnemonic", .text mnemonic.name), ("code", .number ⟨code, 0⟩),
    ("name", .text mnemonic.upper)]

def entryValue (entry : Entry) : Value := rowValue entry.mnemonic entry.code.toNat

theorem reads_row (entry : Entry) {state : State} {stack : List Frame}
    (opens : state.step .openObject = some (.objectOpened stack)) :
    Reads ⟨.between, state⟩ (row entry).toList
      ⟨.between, .complete (entryValue entry) stack⟩ := by
  let name := ("mnemonic", Value.text entry.mnemonic.name)
  let code := ("code", Value.number ⟨entry.code.toNat, 0⟩)
  have brace : Reader.step ⟨.between, state⟩ '\x7b' = some ⟨.between, .objectOpened stack⟩ := by
    simp [Reader.step, Place.step, Place.start, isBlank, mark?, opens]
  have spaces : Reads ⟨.between, state⟩ "    ".toList ⟨.between, state⟩ := rfl
  have opened : Reads ⟨.between, state⟩ "    \x7b\n".toList ⟨.between, .objectOpened stack⟩ :=
    reads_append spaces (reads_cons brace rfl)
  have atName : Reads ⟨.between, .objectOpened stack⟩ "      \"mnemonic\": ".toList
      ⟨.between, .value (.object [] "mnemonic" :: stack)⟩ := rfl
  have nameDone : Reads ⟨.between, .complete name.2 (.object [] "mnemonic" :: stack)⟩
      ",\n".toList ⟨.between, .key [name] stack⟩ := rfl
  have atCode : Reads ⟨.between, .key [name] stack⟩ "      \"code\": ".toList
      ⟨.between, .value (.object [name] "code" :: stack)⟩ := rfl
  have codeDone : Reads ⟨.between, .complete code.2 (.object [name] "code" :: stack)⟩
      ",\n".toList ⟨.between, .key [code, name] stack⟩ := rfl
  have atUpper : Reads ⟨.between, .key [code, name] stack⟩ "      \"name\": ".toList
      ⟨.between, .value (.object [code, name] "name" :: stack)⟩ := rfl
  have closed : Reads
      ⟨.between, .complete (.text entry.mnemonic.upper) (.object [code, name] "name" :: stack)⟩
      ("\n".toList ++ "    \x7d".toList) ⟨.between, .complete (entryValue entry) stack⟩ := rfl
  unfold row
  simp only [String.toList_append, List.append_assoc, Text.code_digits]
  refine reads_append opened (reads_append atName (reads_append (reads_quoted _ rfl) ?_))
  refine reads_append nameDone (reads_append atCode (reads_numeral _ rfl rfl ?_))
  exact reads_append codeDone (reads_append atUpper (reads_append (reads_quoted _ rfl) closed))

/-- Rows with commas between them, of which the last is complete but not yet in its list. -/
theorem reads_rows (entries : List Entry) (entry : Entry) (items : List Value) (state : State)
    {stack : List Frame}
    (opens : state.step .openObject = some (.objectOpened (.list items :: stack))) :
    ∃ last before, Reads ⟨.between, state⟩
      (String.intercalate ",\n" ((entry :: entries).map row)).toList
      ⟨.between, .complete last (.list before :: stack)⟩ ∧
      (last :: before).reverse = items.reverse ++ (entry :: entries).map entryValue := by
  induction entries generalizing entry items state with
  | nil => exact ⟨entryValue entry, items, by simpa using reads_row entry opens, by simp⟩
  | cons next entries ih =>
    obtain ⟨last, before, rest, whole⟩ := ih next (entryValue entry :: items)
      (.value (.list (entryValue entry :: items) :: stack)) rfl
    refine ⟨last, before, ?_, by simpa using whole⟩
    have comma : Reads ⟨.between, .complete (entryValue entry) (.list items :: stack)⟩
        ",\n".toList ⟨.between, .value (.list (entryValue entry :: items) :: stack)⟩ := rfl
    rw [List.map_cons, List.map_cons, String.intercalate_cons_cons, String.toList_append,
      String.toList_append]
    exact reads_append (reads_append (reads_row entry opens) comma) rest

theorem reads_list (entries : List Entry) (stack : List Frame) :
    Reads ⟨.between, .value stack⟩ (list (entries.map row)).toList
      ⟨.between, .complete (.list (entries.map entryValue)) stack⟩ := by
  cases entries with
  | nil => rfl
  | cons entry entries =>
    obtain ⟨last, before, rows, whole⟩ :=
      reads_rows entries entry [] (.listOpened stack) rfl
    have opened : Reads ⟨.between, .value stack⟩ "[\n".toList ⟨.between, .listOpened stack⟩ := rfl
    have closed : Reads ⟨.between, .complete last (.list before :: stack)⟩ "\n  ]".toList
        ⟨.between, .complete (.list (last :: before).reverse) stack⟩ := rfl
    rw [whole] at closed
    unfold list
    rw [if_neg (by simp), String.toList_append, String.toList_append]
    exact reads_append (reads_append opened rows) closed

def documentValue (rows : List Value) : Value := .object [("opcodes", .list rows)]

theorem read_render (table : Table) :
    read (render table) = some (documentValue (table.entries.map entryValue)) := by
  let rows := Value.list (table.entries.map entryValue)
  have opened : Reads ⟨.between, .value []⟩ "\x7b\n  \"opcodes\": ".toList
      ⟨.between, .value [.object [] "opcodes"]⟩ := rfl
  have closed : Reads ⟨.between, .complete rows [.object [] "opcodes"]⟩
      ("\n\x7d\n".toList ++ [' ']) ⟨.between, .complete (.object [("opcodes", rows)]) []⟩ := rfl
  have whole : Reads ⟨.between, .value []⟩ ((render table).toList ++ [' '])
      ⟨.between, .complete (.object [("opcodes", rows)]) []⟩ := by
    unfold render
    rw [String.toList_append, String.toList_append, List.append_assoc, List.append_assoc]
    exact reads_append opened (reads_append (reads_list table.entries _) closed)
  unfold Json.read
  rw [whole]
  rfl

def mnemonicOf : Value → Option Mnemonic
  | .object [("mnemonic", .text name), _, _] => some ⟨name⟩
  | _ => none

def mnemonicsOf : Value → Option (List Mnemonic)
  | .object [("opcodes", .list rows)] => rows.mapM mnemonicOf
  | _ => none

theorem mnemonics_of_document (entries : List Entry) :
    mnemonicsOf (documentValue (entries.map entryValue)) = some (entries.map (·.mnemonic)) := by
  have each : mnemonicOf ∘ entryValue = fun entry => pure entry.mnemonic := rfl
  rw [documentValue, mnemonicsOf, List.mapM_map, each, List.mapM_pure]
  rfl

theorem render_decodes (ms : List Mnemonic) :
    (Json.read (render (.ofMnemonics ms))).bind mnemonicsOf = some ms := by
  rw [read_render, Option.bind_some, mnemonics_of_document, Table.mnemonics_of_entries]

/-- A document is the listing and nothing else: it lists each mnemonic with its position and its
    upper-cased name, and it can be made again from the mnemonics alone. -/
theorem document_holds_listing (ms : List Mnemonic) (bound : ms.length ≤ UInt32.size) :
    (∀ settings : Settings, settings.target = .json →
      settings.render (.ofMnemonics ms) = .ok (render (.ofMnemonics ms))) ∧
    Json.read (render (.ofMnemonics ms)) =
      some (documentValue (ms.zipIdx.map fun (m, position) => rowValue m position)) ∧
    (∀ others, render (.ofMnemonics others) = render (.ofMnemonics ms) → others = ms) ∧
    ∃ decoded, (Json.read (render (.ofMnemonics ms))).bind mnemonicsOf = some decoded ∧
      render (.ofMnemonics decoded) = render (.ofMnemonics ms) := by
  refine ⟨?_, ?_, ?_, ms, render_decodes ms, rfl⟩
  · intro settings json
    rw [Settings.render, json]
  · rw [read_render]
    exact congrArg (some ∘ documentValue) (Table.map_entries rowValue ms bound)
  · intro others same
    have decoded := render_decodes others
    rw [same, render_decodes] at decoded
    exact (Option.some.inj decoded).symm

theorem document_holds_escapes :
    [(⟨"a\"\\\n\x01"⟩ : Mnemonic), ⟨""⟩, ⟨"straße"⟩, ⟨""⟩].length ≤ UInt32.size ∧
    Json.read (render (.ofMnemonics [⟨"a\"\\\n\x01"⟩, ⟨""⟩, ⟨"straße"⟩, ⟨""⟩])) =
      some (documentValue [rowValue ⟨"a\"\\\n\x01"⟩ 0, rowValue ⟨""⟩ 1, rowValue ⟨"straße"⟩ 2,
        rowValue ⟨""⟩ 3]) :=
  ⟨by decide, (document_holds_listing _ (by decide)).2.1⟩

end Opcodes.Artifact.Document
