import Mathlib.Data.List.Basic
import Opcodes.Mnemonic.Variant
import Opcodes.Unicode.Classes

/-! Plain characters stand for themselves wherever they are written in a line of code. Every word
   character is plain, and so is all that upper-casing makes of a plain one. They are told by ranges,
   but also by what they are not: white space, controls, or any sign of ASCII but the underscore. -/
namespace Opcodes.Unicode

/-- Of ASCII the letters, the digits and the underscore; beyond ASCII everything but controls and
    white space. -/
def plainRanges : List CodeRange :=
  [⟨0x30, 0x39⟩, ⟨0x41, 0x5A⟩, ⟨0x5F, 0x5F⟩, ⟨0x61, 0x7A⟩, ⟨0xA1, 0x167F⟩, ⟨0x1681, 0x1FFF⟩,
   ⟨0x200B, 0x2027⟩, ⟨0x202A, 0x202E⟩, ⟨0x2030, 0x205E⟩, ⟨0x2060, 0x2FFF⟩, ⟨0x3001, 0xD7FF⟩,
   ⟨0xE000, 0x10FFFF⟩]

def isPlainCode (n : Nat) : Bool := plainRanges.any (·.contains n)

def isPlain (c : Char) : Bool := inRanges plainRanges c

def CodeRange.isWithin (inner outer : CodeRange) : Bool :=
  outer.first ≤ inner.first && inner.last ≤ outer.last

def CodeRange.isPlain (range : CodeRange) : Bool := plainRanges.any (range.isWithin ·)

theorem code_in_ranges {ranges : List CodeRange} {range : CodeRange}
    (covered : ranges.any (range.isWithin ·) = true) {n : Nat} (lower : range.first ≤ n)
    (upper : n ≤ range.last) : ranges.any (·.contains n) = true := by
  obtain ⟨outer, listed, within⟩ := List.any_eq_true.mp covered
  simp only [CodeRange.isWithin, Bool.and_eq_true, decide_eq_true_eq] at within
  refine List.any_eq_true.mpr ⟨outer, listed, ?_⟩
  simp only [CodeRange.contains, Bool.and_eq_true, decide_eq_true_eq]
  omega

theorem word_ranges_plain : wordRanges.all CodeRange.isPlain = true := by decide +kernel

theorem word_is_plain {c : Char} (word : isWord c = true) : isPlain c = true := by
  obtain ⟨range, listed, lower, upper⟩ := (in_ranges_iff wordRanges c).mp word
  exact code_in_ranges (List.all_eq_true.mp word_ranges_plain range listed) lower upper

def CaseRun.images (run : CaseRun) : CodeRange := ⟨run.image, run.image + (run.last - run.first)⟩

theorem run_images_plain : caseRuns.all (·.images.isPlain) = true := by decide +kernel

theorem expansion_images_plain : caseExpansions.all (·.images.all isPlainCode) = true := by
  decide +kernel

/-- A character becomes what its expansion says, or it moves with a run, or it stays. -/
theorem upper_codes_cases (n : Nat) :
    (∃ expansion ∈ caseExpansions, expansion.source = n ∧ upperCodes n = expansion.images) ∨
    (∃ run ∈ caseRuns, run.contains n = true ∧ upperCodes n = [run.imageOf n]) ∨
    upperCodes n = [n] := by
  unfold upperCodes
  split
  · rename_i expansion found
    have source : expansion.source = n := by simpa using List.find?_some found
    exact Or.inl ⟨expansion, List.mem_of_find?_eq_some found, source, rfl⟩
  · split
    · rename_i run found
      have moved := List.find?_some found
      exact Or.inr (Or.inl ⟨run, List.mem_of_find?_eq_some found, moved, rfl⟩)
    · exact Or.inr (Or.inr rfl)

/-- The stride of a run plays no part: the images lie between the first one and the last. -/
theorem image_in_images {run : CaseRun} {n : Nat} (moved : run.contains n = true) :
    run.images.first ≤ run.imageOf n ∧ run.imageOf n ≤ run.images.last := by
  simp only [CaseRun.contains, Bool.and_eq_true, decide_eq_true_eq] at moved
  simp only [CaseRun.images, CaseRun.imageOf]
  omega

theorem image_plain_or_same {n image : Nat} (member : image ∈ upperCodes n) :
    isPlainCode image = true ∨ image = n := by
  rcases upper_codes_cases n with ⟨expansion, listed, _, images⟩ | ⟨run, listed, moved, images⟩ | same
  · rw [images] at member
    have all := List.all_eq_true.mp expansion_images_plain expansion listed
    exact Or.inl (List.all_eq_true.mp all image member)
  · rw [images, List.mem_singleton] at member
    obtain ⟨lower, upper⟩ := image_in_images moved
    rw [member]
    exact Or.inl (code_in_ranges (List.all_eq_true.mp run_images_plain run listed) lower upper)
  · rw [same, List.mem_singleton] at member
    exact Or.inr member

theorem plain_ranges_valid :
    plainRanges.all (fun r => r.last < 0xD800 || (0xDFFF < r.first && r.last < 0x110000)) = true := by
  decide

theorem plain_code_valid {n : Nat} (plain : isPlainCode n = true) : n.isValidChar := by
  obtain ⟨range, listed, held⟩ := List.any_eq_true.mp plain
  have valid := List.all_eq_true.mp plain_ranges_valid range listed
  simp only [CodeRange.contains, Bool.and_eq_true, Bool.or_eq_true, decide_eq_true_eq] at held valid
  unfold Nat.isValidChar
  omega

theorem code_of_char {n : Nat} (valid : n.isValidChar) : (Char.ofNat n).toNat = n := by
  rw [Char.ofNat, dif_pos valid]
  rfl

theorem upper_codes_valid (c : Char) : ∀ image ∈ upperCodes c.toNat, image.isValidChar := by
  intro image member
  rcases image_plain_or_same member with plain | rfl
  · exact plain_code_valid plain
  · exact c.valid

theorem upper_char_codes {c d : Char} : d ∈ upperChar c ↔ d.toNat ∈ upperCodes c.toNat := by
  constructor
  · intro member
    obtain ⟨image, listed, rfl⟩ := List.mem_map.mp member
    rwa [code_of_char (upper_codes_valid c image listed)]
  · intro member
    exact List.mem_map.mpr ⟨d.toNat, member, Char.ofNat_toNat d⟩

theorem upper_char_plain {c : Char} (plain : isPlain c = true) :
    ∀ d ∈ upperChar c, isPlain d = true := by
  intro d member
  rcases image_plain_or_same (upper_char_codes.mp member) with image | same
  · exact image
  · rwa [Char.toNat_inj.mp same]

theorem mem_upper_iff {text : String} {d : Char} :
    d ∈ (upper text).toList ↔ ∃ c ∈ text.toList, d ∈ upperChar c := by
  rw [upper, String.toList_ofList, List.mem_flatMap]

def IsPlainText (text : String) : Prop := ∀ c ∈ text.toList, isPlain c = true

theorem upper_plain {text : String} (plain : IsPlainText text) : IsPlainText (upper text) := by
  intro d member
  obtain ⟨c, listed, image⟩ := mem_upper_iff.mp member
  exact upper_char_plain (plain c listed) d image

theorem variant_from_plain {cs : List Char} (plain : ∀ c ∈ cs, isPlain c = true) (atHead : Bool) :
    ∀ d ∈ Mnemonic.variantFrom atHead cs, isPlain d = true := by
  induction cs generalizing atHead with
  | nil => simp [Mnemonic.variantFrom]
  | cons c cs ih =>
    have first := plain c List.mem_cons_self
    have rest := ih fun d member => plain d (List.mem_cons_of_mem c member)
    intro d member
    rw [Mnemonic.variantFrom] at member
    split at member
    · exact rest true d member
    · rcases List.mem_append.mp member with head | later
      · cases atHead with
        | true => exact upper_char_plain first d head
        | false => rwa [List.mem_singleton.mp head]
      · exact rest false d later

theorem variant_plain {m : Mnemonic} (plain : IsPlainText m.name) : IsPlainText m.variant := by
  intro d member
  rw [Mnemonic.variant, String.toList_ofList] at member
  exact variant_from_plain plain true d member

def whiteSpaceRanges : List CodeRange :=
  [⟨0x9, 0xD⟩, ⟨0x20, 0x20⟩, ⟨0x85, 0x85⟩, ⟨0xA0, 0xA0⟩, ⟨0x1680, 0x1680⟩, ⟨0x2000, 0x200A⟩,
   ⟨0x2028, 0x2029⟩, ⟨0x202F, 0x202F⟩, ⟨0x205F, 0x205F⟩, ⟨0x3000, 0x3000⟩]

def isWhiteSpace (c : Char) : Bool := inRanges whiteSpaceRanges c

def controlRanges : List CodeRange := [⟨0x0, 0x1F⟩, ⟨0x7F, 0x9F⟩]

def isControl (c : Char) : Bool := inRanges controlRanges c

structure IsHarmless (c : Char) : Prop where
  no_double_quote : c ≠ '"'
  no_single_quote : c ≠ '\''
  no_backslash : c ≠ '\\'
  no_white_space : isWhiteSpace c = false
  no_control : isControl c = false
  ascii_of_word : c.toNat < 0x80 → c.isAlphanum = true ∨ c = '_'

theorem between_iff (c : Char) (first last : UInt32) :
    (decide (c.val ≥ first) && decide (c.val ≤ last)) = true ↔
      first.toNat ≤ c.toNat ∧ c.toNat ≤ last.toNat := by
  simp only [Bool.and_eq_true, decide_eq_true_eq, ge_iff_le, UInt32.le_iff_toNat_le,
    Char.toNat_val]

theorem ascii_word_iff (c : Char) :
    c.isAlphanum = true ∨ c = '_' ↔
      0x30 ≤ c.toNat ∧ c.toNat ≤ 0x39 ∨ 0x41 ≤ c.toNat ∧ c.toNat ≤ 0x5A ∨ c.toNat = 0x5F ∨
        0x61 ≤ c.toNat ∧ c.toNat ≤ 0x7A := by
  have small : c.isLower = true ↔ 0x61 ≤ c.toNat ∧ c.toNat ≤ 0x7A := between_iff c _ _
  have digit : c.isDigit = true ↔ 0x30 ≤ c.toNat ∧ c.toNat ≤ 0x39 := between_iff c _ _
  have capital : c.isUpper = true ↔ 0x41 ≤ c.toNat ∧ c.toNat ≤ 0x5A := by
    have bounds : c.isUpper = (decide (c.val ≥ 'A'.val) && decide (c.val ≤ 'Z'.val)) :=
      Bool.decide_and _ _
    rw [bounds]
    exact between_iff c _ _
  have underscore : c = '_' ↔ c.toNat = 0x5F := Char.toNat_inj.symm
  have kinds : c.isAlphanum = (c.isUpper || c.isLower || c.isDigit) := rfl
  rw [kinds, Bool.or_eq_true, Bool.or_eq_true, capital, small, digit, underscore]
  omega

theorem is_plain_iff (c : Char) :
    isPlain c = true ↔ isWhiteSpace c = false ∧ isControl c = false ∧
      (c.toNat < 0x80 → c.isAlphanum = true ∨ c = '_') := by
  have valid := c.valid
  simp only [UInt32.isValidChar, Nat.isValidChar, Char.toNat_val] at valid
  rw [ascii_word_iff]
  simp only [isPlain, isWhiteSpace, isControl, inRanges, plainRanges, whiteSpaceRanges,
    controlRanges, List.any_cons, List.any_nil, CodeRange.contains, Bool.or_false, Bool.or_eq_true,
    Bool.and_eq_true, Bool.or_eq_false_iff, Bool.and_eq_false_iff, decide_eq_true_eq,
    decide_eq_false_iff_not]
  omega

section Plain
variable {c : Char} (plain : isPlain c = true)
include plain

theorem plain_apart {sign : Char} (notPlain : isPlain sign = false) : c ≠ sign := by
  rintro rfl
  rw [plain] at notPlain
  cases notPlain

theorem harmless_of_plain : IsHarmless c := by
  obtain ⟨space, control, word⟩ := (is_plain_iff c).mp plain
  have doubleQuote : c ≠ '"' := plain_apart plain (by decide)
  have singleQuote : c ≠ '\'' := plain_apart plain (by decide)
  have backslash : c ≠ '\\' := plain_apart plain (by decide)
  exact ⟨doubleQuote, singleQuote, backslash, space, control, word⟩

end Plain

end Opcodes.Unicode
