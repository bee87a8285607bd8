import Opcodes.Artifact
import Opcodes.Proofs.Table.Numbering
import Opcodes.Proofs.Text.LineReading

/-! A script, read line by line, holds the listing that it was made from. Mnemonics stand in it
   as they are, and no word character can be taken for a part of the layout. -/
namespace Opcodes.Artifact.Script
open Text LineReader

def keyRow : Row := ⟨"\t", ": ", ","⟩

def caseRow : Row := ⟨"\tcase ", ": return '", "';"⟩

structure Reading where
  names : ScriptNames
  keys : List (String × Nat)
  cases : List (Nat × String)

def reader : LineReader Reading := do
  let map ← between "const " " = Object.freeze(\x7b"
  let keys ← rows keyRow.named?
  fixed ["\x7d);", ""]
  let function ← between "function " "(op) \x7b"
  fixed ["\tswitch(op) \x7b"]
  let cases ← rows caseRow.numbered?
  fixed ["\t\x7d", "\x7d", "",
    "module.exports = \x7b" ++ map ++ ", " ++ function ++ "\x7d;"]
  return ⟨⟨map, function⟩, keys, cases⟩

/-- The object: of several keys of one name the last one counts. -/
def Reading.codeMap (reading : Reading) : Std.TreeMap String Code :=
  reading.keys.foldl (fun found (name, number) => found.insert name (.ofNat number)) ∅

/-- The function: the first case of the number counts, and there is no other way out. -/
def Reading.nameOf? (reading : Reading) (number : Nat) : Option String :=
  reading.cases.lookup number

def Reading.ofTable (names : ScriptNames) (table : Table) : Reading where
  names := names
  keys := table.entries.map fun e => (e.mnemonic.name, e.code.toNat)
  cases := table.entries.map fun e => (e.code.toNat, e.mnemonic.upper)

def Reading.ofMnemonics (names : ScriptNames) (ms : List Mnemonic) : Reading where
  names := names
  keys := ms.zipIdx.map fun (m, position) => (m.name, position)
  cases := ms.zipIdx.map fun (m, position) => (position, m.upper)

section Layout
variable {table : Table} (plain : ∀ e ∈ table.entries, Unicode.IsPlainText e.mnemonic.name)
include plain

theorem reads_lines (names : ScriptNames) :
    Reads reader (lines names table) (.ofTable names table) [] := by
  have key : ∀ e ∈ table.entries,
      keyRow.named? (keyLine e) = some (e.mnemonic.name, e.code.toNat) := by
    intro e listed
    exact Row.named_write (by decide) (plain e listed) e.code
  have case : ∀ e ∈ table.entries,
      caseRow.numbered? (caseLine e) = some (e.code.toNat, e.mnemonic.upper) := by
    intro e listed
    exact Row.numbered_write (by decide) (Unicode.upper_plain (plain e listed)) e.code
  unfold lines
  simp only [List.append_assoc, List.cons_append, List.nil_append]
  refine reads_bind (reads_between _ _ names.map _) (reads_bind (reads_rows key rfl _) ?_)
  refine reads_bind (reads_fixed _ _) (reads_bind (reads_between _ _ names.function _) ?_)
  refine reads_bind (reads_fixed _ _) (reads_bind (reads_rows case rfl _) ?_)
  exact reads_bind (reads_fixed _ []) rfl

theorem lines_unbroken {names : ScriptNames} (map : Unbroken names.map)
    (function : Unbroken names.function) : ∀ line ∈ lines names table, Unbroken line := by
  have key : ∀ e ∈ table.entries, Unbroken (keyLine e) := by
    intro e listed
    exact Row.write_unbroken keyRow (by decide) (plain e listed) (decimal_plain e.code)
  have case : ∀ e ∈ table.entries, Unbroken (caseLine e) := by
    intro e listed
    have name := Unicode.upper_plain (plain e listed)
    exact Row.write_unbroken caseRow (by decide) (decimal_plain e.code) name
  have opening : Unbroken ("const " ++ names.map ++ " = Object.freeze(\x7b") :=
    unbroken_append (unbroken_append (by decide) map) (by decide)
  have header : Unbroken ("function " ++ names.function ++ "(op) \x7b") :=
    unbroken_append (unbroken_append (by decide) function) (by decide)
  have exported : Unbroken ("module.exports = \x7b" ++ names.map ++ ", " ++ names.function ++
      "\x7d;") := by
    refine unbroken_append (unbroken_append ?_ function) (by decide)
    exact unbroken_append (unbroken_append (by decide) map) (by decide)
  unfold lines
  simp only [List.forall_mem_append, List.forall_mem_cons, List.forall_mem_map, List.not_mem_nil,
    false_implies, implies_true, and_true, and_assoc]
  exact ⟨opening, key, by decide, by decide, header, by decide, case, by decide, by decide,
    by decide, exported⟩

theorem read_lines {names : ScriptNames} (map : Unbroken names.map)
    (function : Unbroken names.function) :
    reader.read? (ofLines (lines names table)) = some (.ofTable names table) :=
  read_text (lines_unbroken plain map function) (reads_lines plain names)

end Layout

theorem render_of_mnemonics (names : ScriptNames) (ms : List Mnemonic) :
    render names (.ofMnemonics ms) =
      match ms.find? (!·.standsUnquoted) with
      | some m => .error (.notAnIdentifier m.name)
      | none => .ok (ofLines (lines names (.ofMnemonics ms))) := by
  have found : ms.find? (!·.standsUnquoted) =
      ((Table.ofMnemonics ms).entries.find? (!·.mnemonic.standsUnquoted)).map (·.mnemonic) := by
    conv_lhs => rw [← Table.mnemonics_of_entries ms, List.find?_map]
    rfl
  rw [render, found]
  cases (Table.ofMnemonics ms).entries.find? (!·.mnemonic.standsUnquoted) <;> rfl

theorem error_is_first {names : ScriptNames} {ms : List Mnemonic} {e : Error} :
    render names (.ofMnemonics ms) = .error e ↔
      ∃ before m after, ms = before ++ m :: after ∧ (∀ b ∈ before, b.standsUnquoted = true) ∧
        m.standsUnquoted = false ∧ e = .notAnIdentifier m.name := by
  rw [render_of_mnemonics]
  constructor
  · intro failed
    split at failed
    · rename_i m found
      obtain ⟨quoted, before, after, split, earlier⟩ := List.find?_eq_some_iff_append.mp found
      exact ⟨before, m, after, split, by simpa using earlier, by simpa using quoted,
        (Except.error.inj failed).symm⟩
    · cases failed
  · rintro ⟨before, m, after, split, earlier, quoted, rfl⟩
    have found : ms.find? (!·.standsUnquoted) = some m :=
      List.find?_eq_some_iff_append.mpr ⟨by simpa using quoted, before, after, split,
        by simpa using earlier⟩
    rw [found]

theorem fails_iff_quoted {names : ScriptNames} {ms : List Mnemonic} :
    (∃ e, render names (.ofMnemonics ms) = .error e) ↔ ∃ m ∈ ms, m.standsUnquoted = false := by
  rw [render_of_mnemonics]
  constructor
  · rintro ⟨e, failed⟩
    split at failed
    · rename_i m found
      exact ⟨m, List.mem_of_find?_eq_some found, by simpa using List.find?_some found⟩
    · cases failed
  · rintro ⟨m, listed, quoted⟩
    split
    · exact ⟨_, rfl⟩
    · rename_i none
      have := List.find?_eq_none.mp none m listed
      simp [quoted] at this

theorem render_text {names : ScriptNames} {ms : List Mnemonic} {text : String}
    (rendered : render names (.ofMnemonics ms) = .ok text) :
    text = ofLines (lines names (.ofMnemonics ms)) := by
  rw [render_of_mnemonics] at rendered
  split at rendered
  · cases rendered
  · exact (Except.ok.inj rendered).symm

theorem render_bare (names : ScriptNames) (source : String)
    (bare : ∀ m ∈ Listing.mnemonics source, m.standsUnquoted = true) :
    render names (.ofListing source) = .ok (ofLines (lines names (.ofListing source))) := by
  have none : (Listing.mnemonics source).find? (!·.standsUnquoted) = none := by
    apply List.find?_eq_none.mpr
    intro m listed
    simp [bare m listed]
  rw [Table.ofListing, render_of_mnemonics, none]

theorem code_map_of_table (names : ScriptNames) (table : Table) :
    (Reading.ofTable names table).codeMap = table.codeMap := by
  simp [Reading.codeMap, Reading.ofTable, Table.codeMap, List.foldl_map]

theorem reading_of_mnemonics (names : ScriptNames) (ms : List Mnemonic)
    (bound : ms.length ≤ UInt32.size) :
    Reading.ofTable names (.ofMnemonics ms) = Reading.ofMnemonics names ms := by
  have keys := Table.map_entries (fun m position => (m.name, position)) ms bound
  have cases := Table.map_entries (fun m position => (position, m.upper)) ms bound
  rw [Reading.ofTable, Reading.ofMnemonics, keys, cases]

theorem name_of_number (names : ScriptNames) (ms : List Mnemonic) (number : Nat) :
    (Reading.ofMnemonics names ms).nameOf? number = ms[number]?.map Mnemonic.upper :=
  Table.lookup_numbered Mnemonic.upper ms number

def Reading.mnemonics (reading : Reading) : List Mnemonic :=
  reading.keys.map fun (name, _) => ⟨name⟩

theorem mnemonics_of_reading (names : ScriptNames) (ms : List Mnemonic) :
    (Reading.ofTable names (.ofMnemonics ms)).mnemonics = ms := by
  rw [Reading.mnemonics, Reading.ofTable, List.map_map]
  exact Table.mnemonics_of_entries ms

theorem read_listing {source text : String} {names : ScriptNames} (map : Unbroken names.map)
    (function : Unbroken names.function)
    (rendered : render names (.ofListing source) = .ok text) :
    reader.read? text = some (.ofTable names (.ofListing source)) := by
  rw [render_text rendered]
  exact read_lines (fun _ listed => Table.entry_plain listed) map function

/-- A script fails on the first mnemonic that cannot stand unquoted, and on nothing else. From any
    other listing it can be read back: the names, the keys and the cases, each in order. -/
theorem script_holds_listing (source : String) (names : ScriptNames)
    (bound : (Listing.mnemonics source).length ≤ UInt32.size) (map : Unbroken names.map)
    (function : Unbroken names.function) :
    ((∃ e, render names (.ofListing source) = .error e) ↔
      ∃ m ∈ Listing.mnemonics source, m.standsUnquoted = false) ∧
    (∀ e, render names (.ofListing source) = .error e ↔
      ∃ before m after, Listing.mnemonics source = before ++ m :: after ∧
        (∀ b ∈ before, b.standsUnquoted = true) ∧ m.standsUnquoted = false ∧
        e = .notAnIdentifier m.name) ∧
    ∀ text, render names (.ofListing source) = .ok text →
      ∃ reading, reader.read? text = some reading ∧ reading.names = names ∧
        reading.keys = (Listing.mnemonics source).zipIdx.map (fun (m, i) => (m.name, i)) ∧
        reading.cases = (Listing.mnemonics source).zipIdx.map (fun (m, i) => (i, m.upper)) ∧
        reading.codeMap = (Table.ofListing source).codeMap ∧
        (∀ code : Code, code.toNat < (Table.ofListing source).size →
          ∃ name, (Table.ofListing source).nameOf code = .ok name ∧
            reading.nameOf? code.toNat = some name) ∧
        (∀ number, (Table.ofListing source).size ≤ number → reading.nameOf? number = none) ∧
        ∀ other, render names (.ofListing other) = .ok text →
          Listing.mnemonics other = Listing.mnemonics source := by
  have size : (Table.ofListing source).size = (Listing.mnemonics source).length :=
    Table.size_of_mnemonics _
  refine ⟨fails_iff_quoted, fun e => error_is_first, ?_⟩
  intro text rendered
  have readText := read_listing map function rendered
  have numbered := reading_of_mnemonics names (Listing.mnemonics source) bound
  refine ⟨.ofMnemonics names (Listing.mnemonics source), numbered ▸ readText, rfl, rfl, rfl, ?_,
    ?_, ?_, ?_⟩
  · rw [← numbered]
    exact code_map_of_table names _
  · intro code known
    rw [size] at known
    refine ⟨(Listing.mnemonics source)[code.toNat].upper, ?_, ?_⟩
    · rw [Table.ofListing, Table.name_of_position, List.getElem?_eq_getElem known]
    · rw [name_of_number, List.getElem?_eq_getElem known, Option.map_some]
  · intro number beyond
    rw [size] at beyond
    rw [name_of_number, List.getElem?_eq_none beyond, Option.map_none]
  · intro other same
    have readOther := (read_listing map function same).symm.trans readText
    have mnemonics := congrArg Reading.mnemonics (Option.some.inj readOther)
    rwa [Table.ofListing, Table.ofListing, mnemonics_of_reading, mnemonics_of_reading] at mnemonics

theorem script_holds_repeats :
    ((Listing.mnemonics "add pop_ add").length ≤ UInt32.size ∧ Unbroken ({} : ScriptNames).map ∧
      Unbroken ({} : ScriptNames).function) ∧
    ∃ text reading, render {} (.ofListing "add pop_ add") = .ok text ∧
      reader.read? text = some reading ∧
      reading.keys = [("add", 0), ("pop_", 1), ("add", 2)] ∧
      reading.cases = [(0, "ADD"), (1, "POP_"), (2, "ADD")] := by
  have listing : Listing.mnemonics "add pop_ add" = [⟨"add"⟩, ⟨"pop_"⟩, ⟨"add"⟩] := by
    decide +kernel
  have bare : [(⟨"add"⟩ : Mnemonic), ⟨"pop_"⟩, ⟨"add"⟩].find? (!·.standsUnquoted) = none := by
    decide +kernel
  have rendered : render {} (.ofListing "add pop_ add") =
      .ok (ofLines (lines {} (.ofListing "add pop_ add"))) := by
    rw [Table.ofListing, render_of_mnemonics, listing, bare]
  have bound : (Listing.mnemonics "add pop_ add").length ≤ UInt32.size := by
    rw [listing]
    decide
  obtain ⟨_, _, held⟩ := script_holds_listing "add pop_ add" {} bound (by decide) (by decide)
  obtain ⟨reading, read, _, keys, cases, _⟩ := held _ rendered
  rw [listing] at keys cases
  refine ⟨⟨bound, by decide, by decide⟩, _, reading, rendered, read, keys, cases.trans ?_⟩
  decide +kernel

end Opcodes.Artifact.Script
