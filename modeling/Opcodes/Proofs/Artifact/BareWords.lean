import Opcodes.Proofs.Artifact.EnumerationReading
import Opcodes.Proofs.Artifact.ScriptReading
import Opcodes.Proofs.Unicode.Casing

/-! Mnemonics that are no bare words: the empty one, and those that start with a numeral. A script
   takes none of them. An enumeration looks for a letter at the start of the variant instead, and
   some numerals are letters. -/
namespace Opcodes

theorem Mnemonic.quoted_cases {m : Mnemonic} (quoted : m.standsUnquoted = false) :
    m.name.toList = [] ∨ ∃ c rest, m.name.toList = c :: rest ∧ Unicode.isNumeric c = true := by
  unfold standsUnquoted at quoted
  split at quoted
  · rename_i empty
    exact Or.inl empty
  · rename_i c rest text
    exact Or.inr ⟨c, rest, text, by simpa using quoted⟩

namespace Artifact

theorem Script.refuses_quoted (names : ScriptNames) {table : Table} {m : Mnemonic}
    (quoted : m.standsUnquoted = false) (member : m ∈ table.entries.map (·.mnemonic)) :
    ∃ e, Script.render names table = .error e := by
  obtain ⟨entry, listed, rfl⟩ := List.mem_map.mp member
  unfold render
  split
  · exact ⟨_, rfl⟩
  · rename_i none
    have bare := List.find?_eq_none.mp none entry listed
    simp [quoted] at bare

namespace Enumeration

theorem refuses_illegal (enumName : String) {table : Table} {m : Mnemonic}
    (illegal : isLegalVariant m.variant = false) (member : m ∈ table.entries.map (·.mnemonic)) :
    ∃ e, render enumName table = .error e := by
  cases rendered : render enumName table with
  | error e => exact ⟨e, rfl⟩
  | ok text =>
    have legal := render_legal rendered m member
    rw [illegal] at legal
    cases legal

theorem accepts_one (enumName : String) {m : Mnemonic}
    (legal : isLegalVariant m.variant = true) :
    ∃ text, render enumName (.ofMnemonics [m]) = .ok text := by
  have accepted : arms (.ofMnemonics [m]) = .ok [⟨m.variant, 0, m.upper⟩] := by
    simp [arms, armsFrom, Table.ofMnemonics, legal]
  rw [render, accepted]
  exact ⟨_, rfl⟩

theorem legal_of_numeral {m : Mnemonic} {c : Char} {rest : List Char}
    (text : m.name.toList = c :: rest) (numeral : Unicode.isNumeric c = true) :
    isLegalVariant m.variant = Unicode.isAlphabetic c := by
  have apart : c ≠ '_' := by
    intro underscore
    rw [underscore] at numeral
    revert numeral
    decide +kernel
  obtain ⟨d, upper, image, letter⟩ := Unicode.upper_numeral numeral
  have variant : m.variant.toList = d :: Mnemonic.variantFrom false rest := by
    simp [Mnemonic.variant, text, Mnemonic.variantFrom, apart, upper]
  have unreserved : m.variant ≠ "Self" := by
    intro reserved
    rw [reserved] at variant
    obtain rfl := (List.cons.inj variant).1
    revert image
    decide +kernel
  simp [isLegalVariant, variant, unreserved, letter]

theorem legal_of_quoted {m : Mnemonic} (quoted : m.standsUnquoted = false) :
    isLegalVariant m.variant = m.name.toList.head?.any Unicode.isAlphabetic := by
  rcases Mnemonic.quoted_cases quoted with empty | ⟨c, rest, text, numeral⟩
  · simp [isLegalVariant, Mnemonic.variant, Mnemonic.variantFrom, empty]
  · rw [legal_of_numeral text numeral, text]
    rfl

end Enumeration

/-- What the two do with a mnemonic that is no bare word, whatever else the table holds. A script is
    refused. An enumeration is refused too, unless the mnemonic starts with a numeral that is a
    letter. -/
theorem bare_word_refusals_iff (m : Mnemonic) (quoted : m.standsUnquoted = false) :
    (∀ names table, m ∈ table.entries.map (·.mnemonic) →
      ∃ e, Script.render names table = .error e) ∧
    ((∀ enumName table, m ∈ table.entries.map (·.mnemonic) →
        ∃ e, Enumeration.render enumName table = .error e) ↔
      ∀ c ∈ m.name.toList.head?, Unicode.isAlphabetic c = false) := by
  have legal := Enumeration.legal_of_quoted quoted
  constructor
  · intro names table member
    exact Script.refuses_quoted names quoted member
  · constructor
    · intro refused c first
      by_contra letter
      rw [first, Option.any_some, Bool.eq_true_of_not_eq_false letter] at legal
      obtain ⟨text, accepted⟩ := Enumeration.accepts_one "Opcode" legal
      obtain ⟨e, failed⟩ := refused "Opcode" (.ofMnemonics [m]) (by simp [Table.ofMnemonics])
      rw [accepted] at failed
      cases failed
    · intro unlettered enumName table member
      apply Enumeration.refuses_illegal enumName _ member
      rw [legal]
      cases first : m.name.toList.head? with
      | none => rfl
      | some c => exact unlettered c first

theorem digits_are_refused :
    (⟨"2nd"⟩ : Mnemonic).standsUnquoted = false ∧
    (∃ e, Script.render {} (.ofMnemonics [⟨"add"⟩, ⟨"2nd"⟩]) = .error e) ∧
    ∃ e, Enumeration.render "Opcode" (.ofMnemonics [⟨"add"⟩, ⟨"2nd"⟩]) = .error e := by
  have quoted : (⟨"2nd"⟩ : Mnemonic).standsUnquoted = false := by decide +kernel
  have member : (⟨"2nd"⟩ : Mnemonic) ∈
      (Table.ofMnemonics [⟨"add"⟩, ⟨"2nd"⟩]).entries.map (·.mnemonic) := by
    rw [Table.mnemonics_of_entries]
    decide
  obtain ⟨script, enumeration⟩ := bare_word_refusals_iff ⟨"2nd"⟩ quoted
  refine ⟨quoted, script {} _ member, enumeration.mpr ?_ "Opcode" _ member⟩
  intro c first
  obtain rfl := Option.some.inj first
  decide +kernel

/-- The Roman numeral is no bare word, and the enumeration takes it. -/
theorem roman_numeral_is_taken :
    (⟨"Ⅳ"⟩ : Mnemonic).standsUnquoted = false ∧
    (∃ e, Script.render {} (.ofMnemonics [⟨"Ⅳ"⟩]) = .error e) ∧
    ∃ text, Enumeration.render "Opcode" (.ofMnemonics [⟨"Ⅳ"⟩]) = .ok text := by
  have quoted : (⟨"Ⅳ"⟩ : Mnemonic).standsUnquoted = false := by decide +kernel
  have legal : Enumeration.isLegalVariant (⟨"Ⅳ"⟩ : Mnemonic).variant = true := by decide +kernel
  refine ⟨quoted, ?_, Enumeration.accepts_one "Opcode" legal⟩
  exact Script.refuses_quoted {} quoted (by simp [Table.ofMnemonics])

end Artifact
end Opcodes
