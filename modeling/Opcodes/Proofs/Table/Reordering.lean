import Mathlib.Data.List.FinRange
import Opcodes.Proofs.Table.Lookups
import Opcodes.Proofs.Table.RepeatChains

/-! Mnemonics in another order. Codes move with their mnemonics, and what does not depend on an order
   stays: the names, the number of repeats, and whether strict numbering takes the list. Nothing is
   said about the code that a repeated name finds, which the order decides. -/
namespace Opcodes.Table

/-- Every position gets what stands at the position that `p` gives for it. -/
def reordered (ms : List Mnemonic) (p : Equiv.Perm (Fin ms.length)) : List Mnemonic :=
  List.ofFn fun i => ms[p i]

theorem reordered_perm (ms : List Mnemonic) (p : Equiv.Perm (Fin ms.length)) :
    (reordered ms p).Perm ms := by
  have moved := p.ofFn_comp_perm fun i => ms[i]
  have whole : (List.ofFn fun i : Fin ms.length => ms[i]) = ms := List.ofFn_getElem
  rw [whole] at moved
  exact moved

theorem reordered_at {ms : List Mnemonic} (p : Equiv.Perm (Fin ms.length)) (i : Fin ms.length) :
    (reordered ms p)[i.val]? = some ms[p i] := by
  simp [reordered]

section Listed
variable {ms : List Mnemonic} (bound : ms.length ≤ UInt32.size)

theorem named_entries (ms : List Mnemonic) :
    (ofMnemonics ms).entries.map (fun e => (e.mnemonic, e.mnemonic.upper)) =
      ms.map fun m => (m, m.upper) := by
  conv_rhs => rw [← mnemonics_of_entries ms]
  simp

theorem mem_code_map {name : String} :
    name ∈ (ofMnemonics ms).codeMap ↔ (⟨name⟩ : Mnemonic) ∈ ms := by
  rw [Std.TreeMap.mem_iff_isSome_getElem?, code_map_lookup, Option.isSome_iff_ne_none, ne_eq,
    code_of_none_iff, not_not]

include bound

theorem name_at {position : Nat} {m : Mnemonic} (there : ms[position]? = some m) :
    (ofMnemonics ms).nameOf (.ofNat position) = .ok m.upper := by
  rw [name_of_position, position_is_code bound there, there]

theorem found_at (distinct : ms.Nodup) {position : Nat} {m : Mnemonic}
    (there : ms[position]? = some m) :
    (ofMnemonics ms).codeOf? m.name = some (.ofNat position) := by
  apply (all_found_iff bound).mpr distinct
  rw [position_is_code bound there]
  exact there

end Listed

section Permuted
variable {ms other : List Mnemonic} (perm : other.Perm ms)
include perm

theorem names_of_perm (name : String) :
    name ∈ (ofMnemonics other).codeMap ↔ name ∈ (ofMnemonics ms).codeMap := by
  simp only [mem_code_map, perm.mem_iff]

theorem count_names_of_perm :
    (ofMnemonics other).codeMap.size = (ofMnemonics ms).codeMap.size := by
  have keys : (ofMnemonics other).codeMap.keys.Perm (ofMnemonics ms).codeMap.keys := by
    apply (List.perm_ext_iff_of_nodup Std.TreeMap.nodup_keys Std.TreeMap.nodup_keys).mpr
    intro name
    simp only [Std.TreeMap.mem_keys, names_of_perm perm]
  simpa only [Std.TreeMap.length_keys] using keys.length_eq

theorem count_repeats_of_perm :
    (ofMnemonics other).repeats.length = (ofMnemonics ms).repeats.length := by
  have names := count_names_of_perm perm
  have before := size_counts_names_and_repeats ms
  have after := size_counts_names_and_repeats other
  have declarations := perm.length_eq
  simp only [size_of_mnemonics] at before after
  omega

theorem accepted_of_perm (bound : ms.length ≤ UInt32.size) :
    (∃ table, ofDistinct other = .ok table) ↔ ∃ table, ofDistinct ms = .ok table := by
  have enough : other.length ≤ UInt32.size := perm.length_eq.trans_le bound
  rw [accepted_iff_distinct bound, accepted_iff_distinct enough, perm.nodup_iff]

end Permuted

section Reordered
variable {ms : List Mnemonic} (bound : ms.length ≤ UInt32.size) (p : Equiv.Perm (Fin ms.length))
include bound

theorem name_of_reordered (i : Fin ms.length) :
    (ofMnemonics (reordered ms p)).nameOf (.ofNat i) = .ok ms[p i].upper := by
  have enough : (reordered ms p).length ≤ UInt32.size :=
    (reordered_perm ms p).length_eq.trans_le bound
  exact name_at enough (reordered_at p i)

theorem codes_of_reordered (distinct : ms.Nodup) {m : Mnemonic} (listed : m ∈ ms) :
    ∃ i : Fin ms.length, (ofMnemonics (reordered ms p)).codeOf? m.name = some (.ofNat i) ∧
      (ofMnemonics ms).codeOf? m.name = some (.ofNat (p i)) := by
  have perm := reordered_perm ms p
  have enough : (reordered ms p).length ≤ UInt32.size := perm.length_eq.trans_le bound
  obtain ⟨position, inside, rfl⟩ := List.getElem_of_mem listed
  let i : Fin ms.length := p.symm ⟨position, inside⟩
  have moved : (p i).val = position := by simp [i]
  have there : (reordered ms p)[i.val]? = some ms[position] := by
    simp only [reordered_at, Fin.getElem_fin, moved]
  have before : ms[(p i).val]? = some ms[position] := by simp [moved]
  exact ⟨i, found_at enough (perm.nodup_iff.mpr distinct) there, found_at bound distinct before⟩

end Reordered

/-- A table of reordered mnemonics has the same names under permuted codes and otherwise counts the
    same. Where no mnemonic repeats, a name that is found at a code is found in the table before at
    the code that the permutation gives. -/
theorem reordering_permutes_codes (ms : List Mnemonic) (bound : ms.length ≤ UInt32.size)
    (p : Equiv.Perm (Fin ms.length)) :
    (∀ i : Fin ms.length,
      (ofMnemonics (reordered ms p)).nameOf (.ofNat i) = (ofMnemonics ms).nameOf (.ofNat (p i)) ∧
      (ofMnemonics (reordered ms p)).nameOf (.ofNat i) = .ok ms[p i].upper) ∧
    ((ofMnemonics (reordered ms p)).entries.map fun e => (e.mnemonic, e.mnemonic.upper)).Perm
      ((ofMnemonics ms).entries.map fun e => (e.mnemonic, e.mnemonic.upper)) ∧
    (∀ name, name ∈ (ofMnemonics (reordered ms p)).codeMap ↔ name ∈ (ofMnemonics ms).codeMap) ∧
    (ofMnemonics (reordered ms p)).repeats.length = (ofMnemonics ms).repeats.length ∧
    ((∃ table, ofDistinct (reordered ms p) = .ok table) ↔ ∃ table, ofDistinct ms = .ok table) ∧
    ∀ table, ofDistinct ms = .ok table →
      (∀ m ∈ ms, ∃ i : Fin ms.length,
        (ofMnemonics (reordered ms p)).codeOf? m.name = some (.ofNat i) ∧
        (ofMnemonics ms).codeOf? m.name = some (.ofNat (p i))) ∧
      ∀ m, m ∉ ms → (ofMnemonics (reordered ms p)).codeOf? m.name = none ∧
        (ofMnemonics ms).codeOf? m.name = none := by
  have perm := reordered_perm ms p
  refine ⟨?_, ?_, names_of_perm perm, count_repeats_of_perm perm, accepted_of_perm perm bound, ?_⟩
  · intro i
    have name := name_of_reordered bound p i
    have before : ms[(p i).val]? = some ms[p i] := by simp
    exact ⟨name.trans (name_at bound before).symm, name⟩
  · simp only [named_entries]
    exact perm.map _
  · intro table accepted
    have distinct := (accepted_iff_distinct bound).mp ⟨table, accepted⟩
    constructor
    · intro m listed
      exact codes_of_reordered bound p distinct listed
    · intro m unlisted
      exact ⟨code_of_none_iff.mpr (mt perm.mem_iff.mp unlisted), code_of_none_iff.mpr unlisted⟩

theorem rotated_names_are_found :
    ∃ (ms : List Mnemonic) (p : Equiv.Perm (Fin ms.length)),
      ms = [⟨"inc"⟩, ⟨"dec"⟩, ⟨"pop_"⟩] ∧ ms.length ≤ UInt32.size ∧
      reordered ms p = [⟨"pop_"⟩, ⟨"inc"⟩, ⟨"dec"⟩] ∧
      (ofMnemonics (reordered ms p)).nameOf 0 = .ok "POP_" ∧
      (∃ table, ofDistinct ms = .ok table) ∧ (∃ table, ofDistinct (reordered ms p) = .ok table) ∧
      (∃ i : Fin ms.length,
        (ofMnemonics (reordered ms p)).codeOf? "inc" = some (.ofNat i) ∧
        (ofMnemonics ms).codeOf? "inc" = some (.ofNat (p i))) ∧
      (ofMnemonics (reordered ms p)).codeOf? "sub" = none := by
  let ms : List Mnemonic := [⟨"inc"⟩, ⟨"dec"⟩, ⟨"pop_"⟩]
  let p : Equiv.Perm (Fin ms.length) :=
    (Equiv.swap (0 : Fin 3) 1).trans (Equiv.swap (1 : Fin 3) 2)
  have bound : ms.length ≤ UInt32.size := by decide
  have order : reordered ms p = [⟨"pop_"⟩, ⟨"inc"⟩, ⟨"dec"⟩] := by decide +kernel
  have upper : ms[p (0 : Fin 3)].upper = "POP_" := by decide +kernel
  have accepted : ofDistinct ms = .ok (ofMnemonics ms) := by decide +kernel
  obtain ⟨names, _, _, _, both, codes⟩ := reordering_permutes_codes ms bound p
  obtain ⟨listed, unlisted⟩ := codes _ accepted
  have first := (names (0 : Fin 3)).2
  rw [upper] at first
  exact ⟨ms, p, rfl, bound, order, first, ⟨_, accepted⟩, both.mpr ⟨_, accepted⟩,
    listed ⟨"inc"⟩ (by decide), (unlisted ⟨"sub"⟩ (by decide)).1⟩

end Opcodes.Table
