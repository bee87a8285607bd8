import Opcodes.Unicode.Classes

/-! Identifiers. Which characters start one and which ones go on in it, the Unicode standard says;
   here both properties are given. Programming languages add characters of their own. -/
namespace Opcodes.Unicode

/-- The two properties of a version of the standard. What starts an identifier goes on in one. -/
structure IdentifierClasses where
  start : Char → Bool
  continues : Char → Bool
  start_continues : ∀ c, start c = true → continues c = true

/-- The zero width non-joiner and the zero width joiner. -/
def isJoiner (c : Char) : Bool := c = '\u200c' || c = '\u200d'

def isSpelled (first later : Char → Bool) (text : String) : Bool :=
  match text.toList with
  | [] => false
  | c :: rest => first c && rest.all later

theorem is_spelled_iff (first later : Char → Bool) (text : String) :
    isSpelled first later text = true ↔
      ∃ c rest, text.toList = c :: rest ∧ first c = true ∧ ∀ d ∈ rest, later d = true := by
  unfold isSpelled
  cases text.toList with
  | nil => simp
  | cons c rest =>
    rw [Bool.and_eq_true, List.all_eq_true]
    constructor
    · intro spelled
      exact ⟨c, rest, rfl, spelled⟩
    · rintro ⟨_, _, same, spelled⟩
      obtain ⟨rfl, rfl⟩ := List.cons.inj same
      exact spelled

namespace IdentifierClasses

def isIdentifier (classes : IdentifierClasses) (text : String) : Bool :=
  isSpelled classes.start classes.continues text

theorem is_identifier_iff {classes : IdentifierClasses} {text : String} :
    classes.isIdentifier text = true ↔
      (∃ c ∈ text.toList.head?, classes.start c = true) ∧
        ∀ c ∈ text.toList, classes.continues c = true := by
  rw [isIdentifier, is_spelled_iff]
  cases text.toList with
  | nil => simp
  | cons c rest =>
    constructor
    · rintro ⟨_, _, same, start, later⟩
      obtain ⟨rfl, rfl⟩ := List.cons.inj same
      exact ⟨⟨c, rfl, start⟩, List.forall_mem_cons.mpr ⟨classes.start_continues c start, later⟩⟩
    · rintro ⟨⟨_, same, start⟩, all⟩
      obtain rfl := Option.some.inj same
      exact ⟨c, rest, rfl, start, (List.forall_mem_cons.mp all).2⟩

/-- A key of an object literal that needs no quotes. -/
def isPropertyName (classes : IdentifierClasses) (text : String) : Bool :=
  isSpelled (fun c => classes.start c || c = '$' || c = '_')
    (fun c => classes.continues c || c = '$' || isJoiner c) text

def asciiLetters : List CodeRange := [⟨0x41, 0x5A⟩, ⟨0x61, 0x7A⟩]

/-- That part of the two properties which lies in ASCII. -/
def ascii : IdentifierClasses where
  start := inRanges asciiLetters
  continues c := inRanges asciiLetters c || inRanges [⟨0x30, 0x39⟩, ⟨0x5F, 0x5F⟩] c
  start_continues c letter := by simp [letter]

theorem ascii_starts_alphabetic (c : Char) (start : ascii.start c = true) :
    isAlphabetic c = true := by
  have letters : ∀ range ∈ asciiLetters, range ∈ alphabeticRanges := by decide
  obtain ⟨range, listed, inside⟩ := (in_ranges_iff asciiLetters c).mp start
  exact (in_ranges_iff alphabeticRanges c).mpr ⟨range, letters range listed, inside⟩

end IdentifierClasses

def opensWithLetter (text : String) : Bool :=
  text.toList.head?.any fun c => c = '_' || isAlphabetic c

/-- The word characters that are no letters, no numerals and not the underscore: marks, the other
    connectors and the joiners. -/
def isFollower (c : Char) : Bool :=
  isWord c && !isAlphabetic c && !isNumeric c && c ≠ '_'

end Opcodes.Unicode
