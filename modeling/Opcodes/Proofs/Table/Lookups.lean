import Opcodes.Proofs.Shadowing
import Opcodes.Proofs.Table.Numbering

/-! What is looked up in a table and what is found there, told by positions in the list of its
   mnemonics. From a name to its code and back is the way to the upper-cased name; from a code to its
   mnemonic and back leads to a later code where the mnemonic repeats. -/
namespace Opcodes.Table

section Listed
variable {ms : List Mnemonic} (bound : ms.length ≤ UInt32.size)
include bound

theorem name_of_found {name : String} {code : Code}
    (found : (ofMnemonics ms).codeOf? name = some code) :
    (ofMnemonics ms).nameOf code = .ok (Unicode.upper name) := by
  have last : IsLast ms ⟨name⟩ code.toNat := (code_of_iff_last bound).mp found
  rw [name_of_position, last.1]
  rfl

theorem found_no_earlier {code : Code} {m : Mnemonic} (there : ms[code.toNat]? = some m) :
    ∃ last, (ofMnemonics ms).codeOf? m.name = some last ∧ code ≤ last := by
  obtain ⟨position, notBefore, isLast⟩ := exists_last_from there
  have place := position_is_code bound isLast.1
  refine ⟨.ofNat position, ?_, ?_⟩
  · apply (code_of_iff_last bound).mpr
    rw [place]
    exact isLast
  · rw [UInt32.le_iff_toNat_le, place]
    exact notBefore

theorem all_found_iff :
    (∀ (code : Code) (m : Mnemonic), ms[code.toNat]? = some m →
      (ofMnemonics ms).codeOf? m.name = some code) ↔ ms.Nodup := by
  rw [List.nodup_iff_getElem?_ne_getElem?]
  constructor
  · intro found i j ordered inside same
    obtain ⟨m, again⟩ : ∃ m, ms[j]? = some m := ⟨_, List.getElem?_eq_getElem inside⟩
    have there := same.trans again
    have first := position_is_code bound there
    have second := position_is_code bound again
    rw [← first] at there
    rw [← second] at again
    have codes : UInt32.ofNat i = .ofNat j :=
      Option.some.inj ((found _ _ there).symm.trans (found _ _ again))
    rw [codes, second] at first
    omega
  · intro distinct code m there
    apply (code_of_iff_last bound).mpr
    refine ⟨there, ?_⟩
    intro k beyond again
    have inside := (List.getElem?_eq_some_iff.mp again).1
    exact distinct _ _ beyond inside (there.trans again.symm)

theorem accepted_iff_distinct : (∃ table, ofDistinct ms = .ok table) ↔ ms.Nodup := by
  rw [← no_repeats_iff bound]
  constructor
  · intro accepts
    obtain ⟨table, accepted⟩ := accepts
    exact (of_distinct accepted).2
  · intro none
    exact ⟨_, of_distinct_nil none⟩

end Listed

/-- Both look-ups by name give the last position of the name, and the look-up by code what stands at
    the position. No name finds a declaration before any of its own, and each of them finds itself
    exactly when the list can be numbered strictly. -/
theorem lookups_tell_positions (ms : List Mnemonic) (bound : ms.length ≤ UInt32.size) :
    (∀ name, (ofMnemonics ms).codeMap[name]? = (ofMnemonics ms).codeOf? name) ∧
    (∀ (name : String) (code : Code),
      (ofMnemonics ms).codeOf? name = some code ↔ IsLast ms ⟨name⟩ code.toNat) ∧
    (∀ name, (ofMnemonics ms).codeOf? name = none ↔ (⟨name⟩ : Mnemonic) ∉ ms) ∧
    (∀ (name : String) (code : Code), (ofMnemonics ms).codeOf? name = some code →
      (ofMnemonics ms).nameOf code = .ok (Unicode.upper name)) ∧
    (∀ (code : Code) (m : Mnemonic), ms[code.toNat]? = some m →
      (ofMnemonics ms).nameOf code = .ok m.upper) ∧
    (∀ code : Code, ms.length ≤ code.toNat →
      (ofMnemonics ms).nameOf code = .error (.unknownCode code)) ∧
    (∀ (code : Code) (m : Mnemonic), ms[code.toNat]? = some m →
      ∃ last, (ofMnemonics ms).codeOf? m.name = some last ∧ code ≤ last) ∧
    ((∀ (code : Code) (m : Mnemonic), ms[code.toNat]? = some m →
        (ofMnemonics ms).codeOf? m.name = some code) ↔
      ∃ table, ofDistinct ms = .ok table) := by
  refine ⟨?_, ?_, ?_, ?_, ?_, ?_, ?_, ?_⟩
  · exact code_map_lookup (ofMnemonics ms)
  · intro name code
    exact code_of_iff_last bound
  · intro name
    exact code_of_none_iff
  · intro name code found
    exact name_of_found bound found
  · intro code m there
    rw [name_of_position, there]
  · intro code beyond
    rw [name_of_position, List.getElem?_eq_none beyond]
  · intro code m there
    exact found_no_earlier bound there
  · rw [all_found_iff bound, accepted_iff_distinct bound]

theorem repeated_name_finds_last :
    ∃ ms : List Mnemonic, ms = [⟨"pop_"⟩, ⟨"add"⟩, ⟨"pop_"⟩] ∧ ms.length ≤ UInt32.size ∧
      (ofMnemonics ms).codeMap["pop_"]? = some 2 ∧
      (ofMnemonics ms).codeOf? "pop_" = some 2 ∧
      (ofMnemonics ms).nameOf 2 = .ok "POP_" ∧
      (ofMnemonics ms).codeOf? "sub" = none ∧
      (ofMnemonics ms).nameOf 3 = .error (.unknownCode 3) ∧
      ¬ ∃ table, ofDistinct ms = .ok table := by
  let ms : List Mnemonic := [⟨"pop_"⟩, ⟨"add"⟩, ⟨"pop_"⟩]
  have bound : ms.length ≤ UInt32.size := by decide
  obtain ⟨map, last, absent, back, _, beyond, _, strict⟩ := lookups_tell_positions ms bound
  have found : (ofMnemonics ms).codeOf? "pop_" = some 2 := by
    apply (last "pop_" 2).mpr
    refine ⟨rfl, ?_⟩
    intro k after
    rw [List.getElem?_eq_none after]
    exact nofun
  have upper : Unicode.upper "pop_" = "POP_" := by decide +kernel
  refine ⟨ms, rfl, bound, ?_, found, ?_, ?_, ?_, ?_⟩
  · rw [map, found]
  · rw [back _ _ found, upper]
  · apply (absent "sub").mpr
    decide
  · exact beyond 3 (by decide)
  · intro accepted
    have first := strict.mpr accepted 0 ⟨"pop_"⟩ rfl
    rw [found] at first
    revert first
    decide

end Opcodes.Table
