import Opcodes.Proofs.Artifact.EnumerationReading
import Opcodes.Proofs.Artifact.ScriptReading
import Opcodes.Proofs.Unicode.Plain
import Opcodes.Proofs.Unicode.Settling

/-! Names in literals. Scripts and enumerations put the upper-cased name between quotes as it is. For
   a word nothing in the name can close the literal early or stand for something else. A name that
   is no word, which a table can have as well, is not looked at here. -/
namespace Opcodes.Artifact
open Unicode

/-- What a literal holds and what comes after it, read from behind its opening quote on. Escapes are
    not taken: a backslash, like a control, ends the reading in vain. -/
def closing? (quote : Char) : List Char → Option (List Char × List Char)
  | [] => none
  | c :: rest =>
    if c = quote then some ([], rest)
    else if c = '\\' || isControl c then none
    else (closing? quote rest).map fun (held, after) => (c :: held, after)

/-- The text of the first literal of the line, and the rest of the line behind it. -/
def literal? (quote : Char) (line : String) : Option (String × String) :=
  (closing? quote (line.toList.dropWhile (· ≠ quote)).tail).map fun (held, after) =>
    (String.ofList held, String.ofList after)

theorem closing_of_plain {quote : Char} (quoting : isPlain quote = false) {held : List Char}
    (plain : ∀ c ∈ held, isPlain c = true) (after : List Char) :
    closing? quote (held ++ quote :: after) = some (held, after) := by
  induction held with
  | nil => simp [closing?]
  | cons c held ih =>
    have first := plain c List.mem_cons_self
    have harmless := harmless_of_plain first
    have rest := ih fun d member => plain d (List.mem_cons_of_mem c member)
    have apart := plain_apart first quoting
    simp [closing?, apart, harmless.no_backslash, harmless.no_control, rest]

/-- On a line for two plain names, the second one between quotes, no quote comes before the one in
    front of it. -/
theorem literal_of_row (row : Text.Row) (gap : List Char) {quote : Char} {after : String}
    (quoting : isPlain quote = false) (unopened : quote ∉ row.before.toList ++ gap)
    (opening : row.between.toList = gap ++ [quote])
    (closing : row.after.toList = quote :: after.toList) {a b : String} (plainA : IsPlainText a)
    (plainB : IsPlainText b) : literal? quote (row.write a b) = some (b, after) := by
  have line : (row.write a b).toList =
      (row.before.toList ++ a.toList ++ gap) ++ quote :: (b.toList ++ quote :: after.toList) := by
    simp [Text.Row.write, opening, closing]
  have passed : ∀ c ∈ row.before.toList ++ a.toList ++ gap, decide (c ≠ quote) = true := by
    intro c member
    apply decide_eq_true
    rintro rfl
    simp only [List.mem_append, not_or] at unopened member
    rcases member with (before | name) | between
    · exact unopened.1 before
    · exact plain_apart (plainA c name) quoting rfl
    · exact unopened.2 between
  rw [literal?, line, List.dropWhile_append_of_pos passed, List.dropWhile_cons_of_neg (by simp),
    List.tail_cons, closing_of_plain quoting plainB]
  simp

section Lines
variable {m : Mnemonic} (plain : IsPlainText m.name) (code : Code)
include plain

theorem literal_of_case_line :
    literal? '\'' (Script.caseLine ⟨m, code⟩) = some (m.upper, ";") := by
  change literal? '\'' (Script.caseRow.write code.decimal m.upper) = _
  apply literal_of_row Script.caseRow ": return ".toList
  · decide
  · decide
  · decide
  · decide
  · exact Text.decimal_plain code
  · exact upper_plain plain

theorem literal_of_name_line :
    literal? '"' (Enumeration.nameLine ⟨m.variant, code, m.upper⟩) = some (m.upper, ",") := by
  change literal? '"' (Enumeration.nameRow.write m.variant m.upper) = _
  apply literal_of_row Enumeration.nameRow " => ".toList
  · decide
  · decide
  · decide
  · decide
  · exact variant_plain plain
  · exact upper_plain plain

end Lines

theorem upper_empty_iff (m : Mnemonic) : m.upper = "" ↔ m.name = "" := by
  constructor
  · intro empty
    by_contra some
    exact upper_not_empty some empty
  · intro empty
    rw [Mnemonic.upper, empty]
    rfl

theorem upper_not_small (m : Mnemonic) : ∀ c ∈ m.upper.toList, c.isLower = false := by
  intro d member
  obtain ⟨c, _, image⟩ := mem_upper_iff.mp member
  exact upper_char_not_small image

/-- Upper-casing is done once for all. Of a word neither the upper-cased name nor the variant has a
    character that could do harm in a literal, so the literal on the line of a case or of a name holds
    the upper-cased name and nothing else. No upper-cased name has a small letter of ASCII, and only
    that of the empty name is empty. -/
theorem names_stay_in_literals :
    (∀ m : Mnemonic, (⟨m.upper⟩ : Mnemonic).upper = m.upper) ∧
    (∀ m : Mnemonic, (∀ c ∈ m.name.toList, isWord c = true) →
      (∀ c ∈ m.upper.toList, IsHarmless c) ∧ (∀ c ∈ m.variant.toList, IsHarmless c) ∧
      ∀ code, literal? '\'' (Script.caseLine ⟨m, code⟩) = some (m.upper, ";") ∧
        literal? '"' (Enumeration.nameLine ⟨m.variant, code, m.upper⟩) = some (m.upper, ",")) ∧
    ∀ m : Mnemonic, (∀ c ∈ m.upper.toList, c.isLower = false) ∧ (m.upper = "" ↔ m.name = "") := by
  refine ⟨?_, ?_, ?_⟩
  · intro m
    exact upper_upper m.name
  · intro m word
    have plain : IsPlainText m.name := fun c member => word_is_plain (word c member)
    refine ⟨?_, ?_, ?_⟩
    · intro c member
      exact harmless_of_plain (upper_plain plain c member)
    · intro c member
      exact harmless_of_plain (variant_plain plain c member)
    · intro code
      exact ⟨literal_of_case_line plain code, literal_of_name_line plain code⟩
  · intro m
    exact ⟨upper_not_small m, upper_empty_iff m⟩

theorem apostrophe_stays_in_literal :
    ∃ m : Mnemonic, m = ⟨"_ŉß9ǰ"⟩ ∧ (∀ c ∈ m.name.toList, isWord c = true) ∧
      m.upper = "_ʼNSS9J̌" ∧ m.variant = "ʼNß9ǰ" ∧
      (∀ c ∈ m.upper.toList, IsHarmless c) ∧ (∀ c ∈ m.variant.toList, IsHarmless c) ∧
      Script.caseLine ⟨m, 7⟩ = "\tcase 7: return '_ʼNSS9J̌';" ∧
      literal? '\'' "\tcase 7: return '_ʼNSS9J̌';" = some ("_ʼNSS9J̌", ";") ∧
      literal? '"' (Enumeration.nameLine ⟨m.variant, 7, m.upper⟩) = some ("_ʼNSS9J̌", ",") ∧
      (⟨"_ʼNSS9J̌"⟩ : Mnemonic).upper = "_ʼNSS9J̌" := by
  let m : Mnemonic := ⟨"_ŉß9ǰ"⟩
  have word : ∀ c ∈ m.name.toList, isWord c = true :=
    List.all_eq_true.mp (by decide +kernel)
  have upper : m.upper = "_ʼNSS9J̌" := by decide +kernel
  have line : Script.caseLine ⟨m, 7⟩ = "\tcase 7: return '_ʼNSS9J̌';" := by decide +kernel
  obtain ⟨again, harmless, _⟩ := names_stay_in_literals
  obtain ⟨named, varied, literals⟩ := harmless m word
  obtain ⟨case, arm⟩ := literals 7
  have settled := again m
  rw [line, upper] at case
  rw [upper] at settled
  refine ⟨m, rfl, word, upper, ?_, named, varied, line, case, ?_, settled⟩
  · decide +kernel
  · rw [arm, upper]

end Opcodes.Artifact
