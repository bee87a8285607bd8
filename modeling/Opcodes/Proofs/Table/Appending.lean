import Opcodes.Proofs.Listing.Joining
import Opcodes.Table

/-! A listing that goes on behind another one. The first listing keeps its codes, and those of the
   second one follow. Nothing is said about strict numbering, which may refuse the whole where it
   takes both parts. -/
namespace Opcodes

def Entry.after (count : Nat) (entry : Entry) : Entry :=
  { entry with code := .ofNat (count + entry.code.toNat) }

namespace Table

structure Continues (first second whole : Table) : Prop where
  entries : whole.entries = first.entries ++ second.entries.map (Entry.after first.size)
  codes : ∀ entry ∈ second.entries,
    (entry.after first.size).code.toNat = first.size + entry.code.toNat
  names : ∀ code : Code, code.toNat < first.size → whole.nameOf code = first.nameOf code
  later : ∀ (name : String) (code : Code), second.codeOf? name = some code →
    ∃ found, whole.codeOf? name = some found ∧ found.toNat = first.size + code.toNat
  earlier : ∀ name, second.codeOf? name = none → whole.codeOf? name = first.codeOf? name

theorem code_after (count position : Nat) :
    UInt32.ofNat (count + (UInt32.ofNat position).toNat) = .ofNat (count + position) := by
  apply UInt32.toNat_inj.mp
  simp

theorem entries_after (before added : List Mnemonic) :
    (ofMnemonics (before ++ added)).entries =
      (ofMnemonics before).entries ++
        (ofMnemonics added).entries.map (Entry.after before.length) := by
  simp only [ofMnemonics, List.zipIdx_append, Nat.zero_add, List.map_append, List.map_map]
  rw [List.zipIdx_eq_map_add (i := before.length), List.map_map]
  congr 1
  apply List.map_congr_left
  intro pair _
  exact congrArg (Entry.mk pair.1) (code_after _ _).symm

theorem code_inside {ms : List Mnemonic} {entry : Entry}
    (member : entry ∈ (ofMnemonics ms).entries) : entry.code.toNat < ms.length := by
  obtain ⟨pair, numbered, rfl⟩ := List.mem_map.mp member
  have inside := List.snd_lt_of_mem_zipIdx numbered
  have reduced : (UInt32.ofNat pair.2).toNat ≤ pair.2 := by
    rw [UInt32.toNat_ofNat']
    exact Nat.mod_le _ _
  simp only [Nat.add_zero] at inside
  exact Nat.lt_of_le_of_lt reduced inside

theorem code_of_entry {table : Table} {name : String} {code : Code}
    (found : table.codeOf? name = some code) : ∃ entry ∈ table.entries, entry.code = code := by
  obtain ⟨entry, last, rfl⟩ := Option.map_eq_some_iff.mp found
  exact ⟨entry, List.mem_reverse.mp (List.mem_of_find?_eq_some last), rfl⟩

/-- The second part is searched first, since the last declaration counts. -/
theorem code_of_parts (first second : List Entry) (name : String) :
    (⟨first ++ second⟩ : Table).codeOf? name =
      ((⟨second⟩ : Table).codeOf? name).or ((⟨first⟩ : Table).codeOf? name) := by
  simp only [codeOf?, List.reverse_append, List.find?_append, Option.map_or]

theorem code_of_moved (count : Nat) (entries : List Entry) (name : String) :
    (⟨entries.map (Entry.after count)⟩ : Table).codeOf? name =
      ((⟨entries⟩ : Table).codeOf? name).map fun code => .ofNat (count + code.toNat) := by
  simp only [codeOf?, ← List.map_reverse, List.find?_map, Option.map_map]
  rfl

theorem continues_of_mnemonics {before added : List Mnemonic}
    (bound : before.length + added.length ≤ UInt32.size) :
    Continues (ofMnemonics before) (ofMnemonics added) (ofMnemonics (before ++ added)) := by
  have size : (ofMnemonics before).size = before.length := size_of_mnemonics before
  have codes : ∀ entry ∈ (ofMnemonics added).entries,
      (entry.after before.length).code.toNat = before.length + entry.code.toNat := by
    intro entry member
    have inside := code_inside member
    apply UInt32.toNat_ofNat_of_lt'
    omega
  have lookup : ∀ name, (ofMnemonics (before ++ added)).codeOf? name =
      (((ofMnemonics added).codeOf? name).map fun code =>
        UInt32.ofNat (before.length + code.toNat)).or ((ofMnemonics before).codeOf? name) := by
    intro name
    rw [← code_of_moved, ← code_of_parts, ← entries_after]
  constructor
  · rw [size]
    exact entries_after before added
  · rw [size]
    exact codes
  · intro code inside
    rw [nameOf, entries_after, List.getElem?_append_left inside]
    rfl
  · intro name code found
    obtain ⟨entry, member, rfl⟩ := code_of_entry found
    rw [size, lookup, found]
    exact ⟨_, rfl, codes entry member⟩
  · intro name absent
    rw [lookup, absent]
    rfl

end Table

/-- With a separator between them, two listings give their mnemonics one after the other, and the
    table of the first one is continued. So words come back from any text that they are joined to. -/
theorem appending_never_renumbers :
    (∀ (s t : String) (c : Char), Unicode.isWord c = false →
      Listing.mnemonics (s.push c ++ t) = Listing.mnemonics s ++ Listing.mnemonics t ∧
      ((Listing.mnemonics s).length + (Listing.mnemonics t).length ≤ UInt32.size →
        Table.Continues (.ofListing s) (.ofListing t) (.ofListing (s.push c ++ t)))) ∧
    ∀ front parts, Listing.Separated front parts →
      Listing.mnemonics (Listing.joined front parts) = parts.map fun part => ⟨part.1⟩ := by
  constructor
  · intro s t c apart
    have whole := Listing.mnemonics_append s t apart
    constructor
    · exact whole
    · intro bound
      have continued := Table.continues_of_mnemonics bound
      rw [← whole] at continued
      exact continued
  · intro front parts separated
    exact Listing.mnemonics_of_joined separated

theorem appending_keeps_first_codes :
    Unicode.isWord '\n' = false ∧
    (Listing.mnemonics "pop_ add").length + (Listing.mnemonics "sub add é").length ≤ UInt32.size ∧
    Table.Continues (.ofListing "pop_ add") (.ofListing "sub add é")
      (.ofListing "pop_ add\nsub add é") ∧
    Listing.Separated "  " [("pop_", ", "), ("add", "→"), ("é", "")] ∧
    Listing.mnemonics "  pop_, add→é" = [⟨"pop_"⟩, ⟨"add"⟩, ⟨"é"⟩] := by
  have apart : Unicode.isWord '\n' = false := by decide +kernel
  have bound : (Listing.mnemonics "pop_ add").length + (Listing.mnemonics "sub add é").length ≤
      UInt32.size := by
    have first : (Listing.mnemonics "pop_ add").length = 2 := by decide +kernel
    have second : (Listing.mnemonics "sub add é").length = 3 := by decide +kernel
    rw [first, second]
    decide
  have separated : Listing.Separated "  " [("pop_", ", "), ("add", "→"), ("é", "")] := by
    constructor
    · decide +kernel
    · decide +kernel
    · decide +kernel
    · decide
  have text : Listing.joined "  " [("pop_", ", "), ("add", "→"), ("é", "")] = "  pop_, add→é" := by
    decide +kernel
  obtain ⟨appended, joined⟩ := appending_never_renumbers
  obtain ⟨_, continued⟩ := appended "pop_ add" "sub add é" '\n' apart
  have words := joined _ _ separated
  rw [text] at words
  exact ⟨apart, bound, continued bound, separated, words⟩

end Opcodes
