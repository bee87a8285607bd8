import Opcodes.Proofs.Unicode.Casing

/-! Upper-casing settles at once: what a character becomes stays as it is from then on. No image is
   the source of anything, so a second upper-casing has nothing left to do. -/
namespace Opcodes.Unicode

def CaseRun.single (n : Nat) : CaseRun := ⟨n, n, 1, n⟩

def caseSources : List CaseRun := caseRuns ++ caseExpansions.map fun e => .single e.source

/-- No image of the run is a source of the other one. The two may overlap where both take every
    second code point, the images the even ones and the sources the odd ones or the other way. -/
def CaseRun.misses (run other : CaseRun) : Bool :=
  other.isApart run.images ||
    Nat.beq other.stride 2 && (Nat.beq run.stride 2 || Nat.beq run.first run.last) &&
      Nat.beq ((run.image + other.first) % 2) 1

theorem run_images_no_sources : caseRuns.all (caseSources.all ·.misses) = true := by
  decide +kernel

theorem expansion_images_no_sources :
    caseExpansions.all (·.images.all fun n => caseSources.all (CaseRun.single n).misses) = true := by
  decide +kernel

theorem missed {run other : CaseRun} (misses : run.misses other = true) {n : Nat}
    (moved : run.contains n = true) : other.contains (run.imageOf n) = false := by
  by_contra again
  rw [Bool.not_eq_false] at again
  simp only [CaseRun.misses, CaseRun.isApart, CaseRun.images, Bool.or_eq_true, Bool.and_eq_true,
    Nat.blt_eq, Nat.beq_eq] at misses
  simp only [CaseRun.contains, Bool.and_eq_true, decide_eq_true_eq, beq_iff_eq] at moved again
  simp only [CaseRun.imageOf] at again
  rcases misses with apart | ⟨⟨spaced, imagesSpaced⟩, parity⟩
  · omega
  · rw [spaced] at again
    rcases imagesSpaced with imagesSpaced | alone
    · rw [imagesSpaced] at moved
      omega
    · omega

theorem single_contains (n : Nat) : (CaseRun.single n).contains n = true := by
  simp [CaseRun.single, CaseRun.contains]

theorem single_image (n : Nat) : (CaseRun.single n).imageOf n = n := by
  simp [CaseRun.single, CaseRun.imageOf]

theorem upper_codes_no_source {n : Nat} (none : ∀ run ∈ caseSources, run.contains n = false) :
    upperCodes n = [n] := by
  apply upper_codes_unchanged
  · rintro expansion listed rfl
    have source : CaseRun.single expansion.source ∈ caseSources :=
      List.mem_append_right caseRuns (List.mem_map_of_mem listed)
    simpa [single_contains] using none _ source
  · intro run listed
    exact none run (List.mem_append_left _ listed)

theorem upper_codes_settled {n image : Nat} (member : image ∈ upperCodes n) :
    upperCodes image = [image] := by
  rcases upper_codes_cases n with ⟨expansion, listed, _, images⟩ | ⟨run, listed, moved, images⟩ | same
  · rw [images] at member
    have all := List.all_eq_true.mp expansion_images_no_sources expansion listed
    have misses := List.all_eq_true.mp (List.all_eq_true.mp all image member)
    apply upper_codes_no_source
    intro source member
    simpa [single_image] using missed (misses source member) (single_contains image)
  · rw [images, List.mem_singleton] at member
    subst image
    have misses := List.all_eq_true.mp (List.all_eq_true.mp run_images_no_sources run listed)
    apply upper_codes_no_source
    intro source member
    exact missed (misses source member) moved
  · simp only [same, List.mem_singleton] at member
    rw [member, same]

theorem upper_char_settled {c d : Char} (member : d ∈ upperChar c) : upperChar d = [d] := by
  have settled := upper_codes_settled (upper_char_codes.mp member)
  simp [upperChar, settled]

theorem upper_settled {cs : List Char} (settled : ∀ c ∈ cs, upperChar c = [c]) :
    cs.flatMap upperChar = cs := by
  induction cs with
  | nil => rfl
  | cons c cs ih =>
    have first := settled c List.mem_cons_self
    have rest := ih fun d member => settled d (List.mem_cons_of_mem c member)
    simp [first, rest]

theorem upper_char_twice (c : Char) : (upperChar c).flatMap upperChar = upperChar c :=
  upper_settled fun _ member => upper_char_settled member

theorem upper_upper (text : String) : upper (upper text) = upper text := by
  simp only [upper, String.toList_ofList, List.flatMap_assoc, upper_char_twice]

theorem small_letters_change : ∀ k < 26, upperCodes (0x61 + k) ≠ [0x61 + k] := by decide +kernel

/-- No character becomes a small letter of ASCII, since those letters are not settled. -/
theorem upper_char_not_small {c d : Char} (member : d ∈ upperChar c) : d.isLower = false := by
  by_contra small
  rw [Bool.not_eq_false] at small
  have settled := upper_codes_settled (upper_char_codes.mp member)
  obtain ⟨above, below⟩ := Bool.and_eq_true_iff.mp small
  have lower : 0x61 ≤ d.toNat := UInt32.le_iff_toNat_le.mp (of_decide_eq_true above)
  have upper : d.toNat ≤ 0x7A := UInt32.le_iff_toNat_le.mp (of_decide_eq_true below)
  have place : 0x61 + (d.toNat - 0x61) = d.toNat := by omega
  have changes := small_letters_change (d.toNat - 0x61) (by omega)
  rw [place] at changes
  exact changes settled

end Opcodes.Unicode
