import Opcodes.Proofs.Artifact.ScriptReading
import Opcodes.Proofs.Unicode.Identifier

/-! The keys of a script, which stand without quotes. A script refuses a mnemonic that starts with a
   numeral and looks no further, so a word that starts with a mark becomes a key and is no name. -/
namespace Opcodes.Artifact.Script
open Text LineReader Unicode

def Reading.keyNames (reading : Reading) : List String := reading.keys.map Prod.fst

theorem key_names_of_listing (names : ScriptNames) (source : String) :
    (Reading.ofTable names (.ofListing source)).keyNames =
      (Listing.mnemonics source).map (·.name) := by
  conv_rhs => rw [← Table.mnemonics_of_entries (Listing.mnemonics source), List.map_map]
  rw [Reading.keyNames, Reading.ofTable, List.map_map]
  rfl

theorem rendered_is_bare {source text : String} {names : ScriptNames}
    (rendered : render names (.ofListing source) = .ok text) :
    ∀ m ∈ Listing.mnemonics source, m.standsUnquoted = true := by
  intro m listed
  by_contra quoted
  have refused : ∃ e, render names (.ofMnemonics (Listing.mnemonics source)) = .error e :=
    fails_iff_quoted.mpr ⟨m, listed, Bool.eq_false_iff.mpr quoted⟩
  obtain ⟨e, failed⟩ := refused
  rw [Table.ofListing, failed] at rendered
  cases rendered

section Words
variable {classes : IdentifierClasses} {m : Mnemonic}

theorem word_property_name_iff (word : ∀ c ∈ m.name.toList, isWord c = true) :
    classes.isPropertyName m.name = true ↔
      ∃ c rest, m.name.toList = c :: rest ∧ (c = '_' ∨ classes.start c = true) ∧
        ∀ d ∈ rest, classes.continues d = true ∨ isJoiner d = true := by
  have noDollar : ∀ c, isWord c = true → c ≠ '$' := by
    rintro _ dollar rfl
    revert dollar
    decide +kernel
  rw [IdentifierClasses.isPropertyName, is_spelled_iff]
  constructor
  · rintro ⟨c, rest, text, first, later⟩
    rw [text, List.forall_mem_cons] at word
    simp only [Bool.or_eq_true, decide_eq_true_eq, noDollar c word.1, or_false] at first
    refine ⟨c, rest, text, first.symm, ?_⟩
    intro d member
    simpa [noDollar d (word.2 d member)] using later d member
  · rintro ⟨c, rest, text, first, later⟩
    refine ⟨c, rest, text, ?_, ?_⟩
    · rcases first with rfl | start
      · simp
      · simp [start]
    · intro d member
      rcases later d member with continues | joiner
      · simp [continues]
      · simp [joiner]

theorem property_name_opens_with_letter
    (letters : ∀ c, isWord c = true → classes.start c = true → isAlphabetic c = true)
    (word : ∀ c ∈ m.name.toList, isWord c = true) (held : classes.isPropertyName m.name = true) :
    opensWithLetter m.name = true := by
  obtain ⟨c, rest, text, first, _⟩ := (word_property_name_iff word).mp held
  have inWord : isWord c = true := word c (by simp [text])
  rcases first with rfl | start
  · simp [opensWithLetter, text]
  · simp [opensWithLetter, text, letters c inWord start]

theorem bare_word_opens_iff (word : ∀ c ∈ m.name.toList, isWord c = true)
    (bare : m.standsUnquoted = true) :
    opensWithLetter m.name = true ↔ ∀ c ∈ m.name.toList.head?, isFollower c = false := by
  unfold Mnemonic.standsUnquoted at bare
  split at bare
  · cases bare
  · rename_i c rest text
    have inWord : isWord c = true := word c (by simp [text])
    have unnumbered : isNumeric c = false := by simpa using bare
    by_cases underscore : c = '_'
    · simp [opensWithLetter, isFollower, text, underscore]
    · simp [opensWithLetter, isFollower, text, underscore, inWord, unnumbered]

end Words

/-- When the keys of a script are names, given the two properties that make a name. The script
    itself only sees to it that no numeral comes first. -/
theorem keys_are_property_names_iff (classes : IdentifierClasses)
    (letters : ∀ c, isWord c = true → classes.start c = true → isAlphabetic c = true)
    (source text : String) (names : ScriptNames) (map : Unbroken names.map)
    (function : Unbroken names.function) (rendered : render names (.ofListing source) = .ok text) :
    ∃ reading, reader.read? text = some reading ∧
      reading.keyNames = (Listing.mnemonics source).map (·.name) ∧
      ((∀ name ∈ reading.keyNames, classes.isPropertyName name = true) ↔
        ∀ m ∈ Listing.mnemonics source, ∃ c rest, m.name.toList = c :: rest ∧
          (c = '_' ∨ classes.start c = true) ∧
          ∀ d ∈ rest, classes.continues d = true ∨ isJoiner d = true) ∧
      (∀ name ∈ reading.keyNames, classes.isPropertyName name = true →
        opensWithLetter name = true) ∧
      ((∀ name ∈ reading.keyNames, opensWithLetter name = true) ↔
        ∀ m ∈ Listing.mnemonics source, ∀ c ∈ m.name.toList.head?, isFollower c = false) := by
  have bare := rendered_is_bare rendered
  have word : ∀ m ∈ Listing.mnemonics source, ∀ c ∈ m.name.toList, isWord c = true :=
    fun m listed => (Listing.mnemonic_is_word listed).2
  refine ⟨_, read_listing map function rendered, key_names_of_listing names source, ?_, ?_, ?_⟩
  · rw [key_names_of_listing, List.forall_mem_map]
    exact forall₂_congr fun m listed => word_property_name_iff (word m listed)
  · rw [key_names_of_listing, List.forall_mem_map]
    intro m listed held
    exact property_name_opens_with_letter letters (word m listed) held
  · rw [key_names_of_listing, List.forall_mem_map]
    exact forall₂_congr fun m listed => bare_word_opens_iff (word m listed) (bare m listed)

theorem ascii_keys_are_names :
    (∀ c, isWord c = true → IdentifierClasses.ascii.start c = true → isAlphabetic c = true) ∧
    ∃ text reading, render {} (.ofListing "_tmp2 add pop_ add") = .ok text ∧
      reader.read? text = some reading ∧ reading.keyNames = ["_tmp2", "add", "pop_", "add"] ∧
      ∀ name ∈ reading.keyNames, IdentifierClasses.ascii.isPropertyName name = true ∧
        opensWithLetter name = true := by
  have letters : ∀ c, isWord c = true → IdentifierClasses.ascii.start c = true →
      isAlphabetic c = true := fun c _ => IdentifierClasses.ascii_starts_alphabetic c
  have listing : Listing.mnemonics "_tmp2 add pop_ add" =
      [⟨"_tmp2"⟩, ⟨"add"⟩, ⟨"pop_"⟩, ⟨"add"⟩] := by
    decide +kernel
  have rendered := render_bare {} "_tmp2 add pop_ add" (by decide +kernel)
  obtain ⟨reading, read, keys, _, opens, _⟩ := keys_are_property_names_iff .ascii letters _ _ {}
    (by decide) (by decide) rendered
  rw [listing] at keys
  refine ⟨letters, _, reading, rendered, read, keys, ?_⟩
  have held : ∀ name ∈ reading.keyNames, IdentifierClasses.ascii.isPropertyName name = true := by
    rw [keys]
    decide
  intro name member
  exact ⟨held name member, opens name member (held name member)⟩

/-- A combining accent after a space opens a word, and this word is a key. -/
theorem mark_opens_a_key :
    ∃ text reading, render {} (.ofListing "add \u0301x") = .ok text ∧
      reader.read? text = some reading ∧ reading.keyNames = ["add", "\u0301x"] ∧
      opensWithLetter "\u0301x" = false ∧
      ∀ classes : IdentifierClasses,
        (∀ c, isWord c = true → classes.start c = true → isAlphabetic c = true) →
        classes.isPropertyName "\u0301x" = false := by
  have listing : Listing.mnemonics "add \u0301x" = [⟨"add"⟩, ⟨"\u0301x"⟩] := by decide +kernel
  have rendered := render_bare {} "add \u0301x" (by decide +kernel)
  have keys := key_names_of_listing {} "add \u0301x"
  rw [listing] at keys
  have opens : opensWithLetter "\u0301x" = false := by decide +kernel
  refine ⟨_, _, rendered, read_listing (by decide) (by decide) rendered, keys, opens, ?_⟩
  intro classes letters
  by_contra held
  have listed : (⟨"\u0301x"⟩ : Mnemonic) ∈ Listing.mnemonics "add \u0301x" := by
    rw [listing]
    decide
  have word := (Listing.mnemonic_is_word listed).2
  have letter := property_name_opens_with_letter letters word (Bool.eq_true_of_not_eq_false held)
  rw [opens] at letter
  cases letter

end Opcodes.Artifact.Script
