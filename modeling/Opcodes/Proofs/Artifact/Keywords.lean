import Opcodes.Proofs.Artifact.EnumerationReading
import Opcodes.Proofs.Mnemonic.Variant

/-! Why one reserved variant is enough. Every keyword but one starts with a small letter or is an
   underscore, and no variant does. A name with a line break in it can bring in lines of its own;
   such a name is no word, and what its lines say is not looked at here. -/
namespace Opcodes.Artifact.Enumeration
open Text LineReader

/-- The strict keywords and the reserved ones, those of later editions included. -/
def keywords : List String :=
  ["_", "as", "async", "await", "break", "const", "continue", "crate", "dyn", "else", "enum",
   "extern", "false", "fn", "for", "if", "impl", "in", "let", "loop", "match", "mod", "move", "mut",
   "pub", "ref", "return", "self", "Self", "static", "struct", "super", "trait", "true", "type",
   "unsafe", "use", "where", "while", "abstract", "become", "box", "do", "final", "gen", "macro",
   "override", "priv", "try", "typeof", "unsized", "virtual", "yield"]

/-- The text has an underscore, or it starts with a small letter of ASCII. -/
def isSmall (text : String) : Bool :=
  text.toList.contains '_' || text.toList.head?.any Char.isLower

theorem keywords_are_small : keywords.all (fun word => word == "Self" || isSmall word) = true := by
  decide +kernel

section Variant
variable {m : Mnemonic}

theorem variant_no_underscore : '_' ∉ m.variant.toList := by
  rw [Mnemonic.variant, String.toList_ofList]
  exact Mnemonic.variant_from_no_underscore true m.name.toList

theorem variant_opens_no_small : ∀ c ∈ m.variant.toList.head?, c.isLower = false := by
  intro c first
  rw [Mnemonic.variant, String.toList_ofList] at first
  obtain ⟨later, made⟩ := List.head?_eq_some_iff.mp first
  obtain ⟨_, image⟩ := Mnemonic.variant_from_opens made
  exact Unicode.upper_char_not_small image

theorem variant_not_small : isSmall m.variant = false := by
  have first : m.variant.toList.head?.any Char.isLower = false := by
    cases opens : m.variant.toList.head? with
    | none => rfl
    | some c => exact variant_opens_no_small c opens
  simp [isSmall, first, variant_no_underscore]

theorem keyword_variant (keyword : m.variant ∈ keywords) : m.variant = "Self" := by
  have known := List.all_eq_true.mp keywords_are_small m.variant keyword
  simpa [variant_not_small] using known

theorem legal_is_no_keyword (legal : isLegalVariant m.variant = true) :
    m.variant ∉ keywords := by
  intro keyword
  rw [keyword_variant keyword] at legal
  revert legal
  decide +kernel

end Variant

def Reading.written (reading : Reading) : List String :=
  reading.variants.map Prod.fst ++ reading.codeArms.map Prod.snd ++ reading.nameArms.map Prod.fst

theorem written_of_arms {enumName variant : String} {arms : List Arm} :
    variant ∈ (Reading.ofArms enumName arms).written ↔ ∃ arm ∈ arms, arm.variant = variant := by
  simp [Reading.written, Reading.ofArms]

section Rendered
variable {enumName text : String} {table : Table} (rendered : render enumName table = .ok text)
include rendered

theorem rendered_no_keyword : ∀ arm ∈ table.entries.map armOf, arm.variant ∉ keywords := by
  intro arm member
  obtain ⟨entry, listed, rfl⟩ := List.mem_map.mp member
  exact legal_is_no_keyword (render_legal rendered _ (List.mem_map_of_mem listed))

theorem read_no_keyword (name : Unbroken enumName)
    (plain : ∀ entry ∈ table.entries, Unicode.IsPlainText entry.mnemonic.name) :
    ∃ reading, reader.read? text = some reading ∧
      ∀ variant ∈ reading.written, variant ∉ keywords := by
  refine ⟨_, read_rendered rendered name plain, ?_⟩
  intro variant member
  obtain ⟨arm, listed, rfl⟩ := written_of_arms.mp member
  exact rendered_no_keyword rendered arm listed

end Rendered

/-- No variant has an underscore or starts with a small letter, so `Self` is the only keyword that
    one can be. An enumeration that is made has no keyword for a variant, and none is found where
    its text is read back. -/
theorem one_reserved_variant_is_enough :
    (∀ m : Mnemonic, '_' ∉ m.variant.toList ∧
      (∀ c ∈ m.variant.toList.head?, c.isLower = false) ∧
      (m.variant ∈ keywords → m.variant = "Self")) ∧
    (∀ enumName table text, render enumName table = .ok text →
      text = ofLines (lines enumName (table.entries.map armOf)) ∧
        ∀ arm ∈ table.entries.map armOf, arm.variant ∉ keywords) ∧
    ∀ enumName table text, render enumName table = .ok text → Unbroken enumName →
      (∀ entry ∈ table.entries, Unicode.IsPlainText entry.mnemonic.name) →
        ∃ reading, reader.read? text = some reading ∧
          ∀ variant ∈ reading.written, variant ∉ keywords := by
  refine ⟨?_, ?_, ?_⟩
  · intro m
    exact ⟨variant_no_underscore, variant_opens_no_small, keyword_variant⟩
  · intro enumName table text rendered
    exact ⟨(render_parts rendered).1, rendered_no_keyword rendered⟩
  · intro enumName table text rendered name plain
    exact read_no_keyword rendered name plain

/-- A word can become `Self` by a letter beyond ASCII. Keywords themselves can be words of a listing,
    since their variants are none. -/
theorem keywords_can_be_listed :
    (⟨"_ſelf"⟩ : Mnemonic).variant ∈ keywords ∧ (⟨"_ſelf"⟩ : Mnemonic).variant = "Self" ∧
    ∃ text reading, render "Opcode" (.ofListing "fn type_ self_x") = .ok text ∧
      Unbroken "Opcode" ∧
      (∀ entry ∈ (Table.ofListing "fn type_ self_x").entries,
        Unicode.IsPlainText entry.mnemonic.name) ∧
      (∀ arm ∈ (Table.ofListing "fn type_ self_x").entries.map armOf, arm.variant ∉ keywords) ∧
      reader.read? text = some reading ∧ ∀ variant ∈ reading.written, variant ∉ keywords := by
  obtain ⟨names, made, readBack⟩ := one_reserved_variant_is_enough
  obtain ⟨_, _, only⟩ := names ⟨"_ſelf"⟩
  have keyword : (⟨"_ſelf"⟩ : Mnemonic).variant ∈ keywords := by decide +kernel
  obtain ⟨text, rendered⟩ : ∃ text, render "Opcode" (.ofListing "fn type_ self_x") = .ok text :=
    ok_of_succeeds (by decide +kernel)
  have name : Unbroken "Opcode" := by decide
  have plain : ∀ entry ∈ (Table.ofListing "fn type_ self_x").entries,
      Unicode.IsPlainText entry.mnemonic.name := fun _ listed => Table.entry_plain listed
  obtain ⟨_, arms⟩ := made _ _ _ rendered
  obtain ⟨reading, read, written⟩ := readBack _ _ _ rendered name plain
  exact ⟨keyword, only keyword, text, reading, rendered, name, plain, arms, read, written⟩

end Opcodes.Artifact.Enumeration
