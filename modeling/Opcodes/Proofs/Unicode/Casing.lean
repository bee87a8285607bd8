import Opcodes.Proofs.Unicode.Plain
import Opcodes.Unicode.Classes

/-! Upper-casing told by its images. An uncased character stays as it is, and no other character
   becomes it. A numeral becomes one numeral, which is a letter just when the first one is. -/
namespace Opcodes.Unicode

theorem expansions_not_empty : caseExpansions.all (!·.images.isEmpty) = true := by decide +kernel

theorem upper_char_cons (c : Char) : ∃ d later, upperChar c = d :: later := by
  have someImage : upperCodes c.toNat ≠ [] := by
    rcases upper_codes_cases c.toNat with
      ⟨expansion, listed, _, images⟩ | ⟨run, _, _, images⟩ | same
    · have filled := List.all_eq_true.mp expansions_not_empty expansion listed
      rw [images]
      simpa using filled
    · simp [images]
    · simp [same]
  apply List.exists_cons_of_ne_nil
  simpa [upperChar] using someImage

theorem upper_not_empty {text : String} (some : text ≠ "") : upper text ≠ "" := by
  have chars : text.toList ≠ [] := mt String.toList_eq_nil_iff.mp some
  obtain ⟨c, rest, chars⟩ := List.exists_cons_of_ne_nil chars
  obtain ⟨d, later, image⟩ := upper_char_cons c
  simp [upper, chars, image]

theorem upper_codes_unchanged {n : Nat} (unexpanded : ∀ e ∈ caseExpansions, e.source ≠ n)
    (unmoved : ∀ run ∈ caseRuns, run.contains n = false) : upperCodes n = [n] := by
  rcases upper_codes_cases n with ⟨expansion, listed, source, _⟩ | ⟨run, listed, moved, _⟩ | same
  · exact absurd source (unexpanded expansion listed)
  · rw [unmoved run listed] at moved
    cases moved
  · exact same

/-- In no run and in no expansion, neither as a source nor among the images. -/
def isUncased (c : Char) : Bool :=
  caseRuns.all (fun run => !run.contains c.toNat && !run.images.contains c.toNat) &&
    caseExpansions.all (fun expansion =>
      expansion.source != c.toNat && !expansion.images.contains c.toNat)

section Uncased
variable {c d : Char}

theorem uncased_iff : isUncased c = true ↔
    (∀ run ∈ caseRuns, run.contains c.toNat = false ∧ run.images.contains c.toNat = false) ∧
    ∀ expansion ∈ caseExpansions, expansion.source ≠ c.toNat ∧ c.toNat ∉ expansion.images := by
  simp [isUncased]

theorem upper_char_uncased (uncased : isUncased c = true) : upperChar c = [c] := by
  obtain ⟨runs, expansions⟩ := uncased_iff.mp uncased
  have same : upperCodes c.toNat = [c.toNat] := by
    apply upper_codes_unchanged
    · intro expansion listed
      exact (expansions expansion listed).1
    · intro run listed
      exact (runs run listed).1
  rw [upperChar, same, List.map_singleton, Char.ofNat_toNat]

theorem becomes_uncased (uncased : isUncased d = true) (member : d ∈ upperChar c) : c = d := by
  obtain ⟨runs, expansions⟩ := uncased_iff.mp uncased
  rw [upper_char_codes] at member
  rcases upper_codes_cases c.toNat with
    ⟨expansion, listed, _, images⟩ | ⟨run, listed, moved, images⟩ | same
  · rw [images] at member
    exact absurd member (expansions expansion listed).2
  · rw [images, List.mem_singleton] at member
    obtain ⟨lower, upper⟩ := image_in_images moved
    have outside := (runs run listed).2
    rw [← member] at lower upper
    simp [CodeRange.contains, lower, upper] at outside
  · rw [same, List.mem_singleton] at member
    exact (Char.toNat_inj.mp member).symm

end Uncased

theorem filter_upper_char {p : Char → Bool} (uncased : ∀ c, p c = true → isUncased c = true)
    (c : Char) : (upperChar c).filter p = [c].filter p := by
  by_cases kept : p c = true
  · rw [upper_char_uncased (uncased c kept)]
  · have none : (upperChar c).filter p = [] := by
      apply List.filter_eq_nil_iff.mpr
      intro d member found
      obtain rfl := becomes_uncased (uncased d found) member
      exact kept found
    rw [none, List.filter_cons_of_neg kept, List.filter_nil]

/-- Such a run moves letters to letters that are numerals. -/
def CaseRun.keepsLetters (run : CaseRun) : Bool :=
  alphabeticRanges.any ((⟨run.first, run.last⟩ : CodeRange).isWithin ·) &&
    alphabeticRanges.any (run.images.isWithin ·) && numericRanges.any (run.images.isWithin ·)

def CaseRun.isApart (run : CaseRun) (range : CodeRange) : Bool :=
  Nat.blt run.last range.first || Nat.blt range.last run.first

theorem numeral_runs_keep_letters :
    caseRuns.all (fun run => numericRanges.all run.isApart || run.keepsLetters) = true := by
  decide +kernel

theorem expansions_of_no_numerals :
    caseExpansions.all (fun expansion =>
      !numericRanges.any (·.contains expansion.source)) = true := by
  decide +kernel

theorem numeral_run {run : CaseRun} (listed : run ∈ caseRuns) {c : Char}
    (moved : run.contains c.toNat = true) (numeral : isNumeric c = true) :
    run.keepsLetters = true := by
  have related := List.all_eq_true.mp numeral_runs_keep_letters run listed
  rcases (Bool.or_eq_true _ _).mp related with apart | keeps
  · obtain ⟨range, numerals, inside⟩ := List.any_eq_true.mp numeral
    have outside := List.all_eq_true.mp apart range numerals
    simp only [CaseRun.contains, CodeRange.contains, CaseRun.isApart, Bool.and_eq_true,
      Bool.or_eq_true, decide_eq_true_eq, Nat.blt_eq] at moved inside outside
    omega
  · exact keeps

/-- A numeral becomes one numeral. Letter numerals stay letters, and no other numeral becomes a
    letter. -/
theorem upper_numeral {c : Char} (numeral : isNumeric c = true) :
    ∃ d, upperChar c = [d] ∧ isNumeric d = true ∧ isAlphabetic d = isAlphabetic c := by
  rcases upper_codes_cases c.toNat with
    ⟨expansion, listed, source, _⟩ | ⟨run, listed, moved, images⟩ | same
  · have apart := List.all_eq_true.mp expansions_of_no_numerals expansion listed
    rw [source] at apart
    simp only [isNumeric, inRanges] at numeral
    simp [numeral] at apart
  · have keeps := numeral_run listed moved numeral
    simp only [CaseRun.keepsLetters, Bool.and_eq_true] at keeps
    obtain ⟨⟨sources, letters⟩, numerals⟩ := keeps
    obtain ⟨lower, upper⟩ := image_in_images moved
    have valid := upper_codes_valid c (run.imageOf c.toNat) (by simp [images])
    have letter : isAlphabetic c = true := by
      simp only [CaseRun.contains, Bool.and_eq_true, decide_eq_true_eq] at moved
      exact code_in_ranges sources moved.1.1 moved.1.2
    have image : (Char.ofNat (run.imageOf c.toNat)).toNat = run.imageOf c.toNat :=
      code_of_char valid
    refine ⟨Char.ofNat (run.imageOf c.toNat), ?_, ?_, ?_⟩
    · rw [upperChar, images, List.map_singleton]
    · rw [isNumeric, inRanges, image]
      exact code_in_ranges numerals lower upper
    · rw [letter, isAlphabetic, inRanges, image]
      exact code_in_ranges letters lower upper
  · refine ⟨c, ?_, numeral, rfl⟩
    rw [upperChar, same, List.map_singleton, Char.ofNat_toNat]

end Opcodes.Unicode
