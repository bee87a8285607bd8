import Opcodes.Proofs.Artifact.VariantFaults
import Opcodes.Proofs.Mnemonic.Variant

/-! What two mnemonics have in common that make the same variant. An enumeration refuses the second
   of them, however long the list is, and their upper-cased names are the same apart from
   underscores. Such names can differ in more than underscores as they are spelled. -/
namespace Opcodes.Artifact.Enumeration

/-- Every code that `taken` holds is that of a position where the variant has been made. -/
def Recalls (taken : Std.TreeMap String Code) (before : List Mnemonic) : Prop :=
  ∀ (variant : String) (code : Code), taken[variant]? = some code →
    ∃ position, MadeAt before variant position ∧ code = .ofNat position

theorem recalls_nothing (before : List Mnemonic) : Recalls ∅ before := by
  intro variant code known
  simp at known

section Scan
variable {taken : Std.TreeMap String Code} {before rest : List Mnemonic} {m : Mnemonic}

theorem recalls_next (recalls : Recalls taken before) :
    Recalls (taken.insert m.variant (.ofNat before.length)) (before ++ [m]) := by
  intro variant code known
  rw [Std.TreeMap.getElem?_insert] at known
  by_cases same : m.variant = variant
  · simp only [same, Std.ReflCmp.compare_self, if_true, Option.some.injEq] at known
    exact ⟨before.length, made_append.mpr (Or.inr ⟨rfl, same⟩), known.symm⟩
  · rw [if_neg (by simpa using same)] at known
    obtain ⟨position, made, rfl⟩ := recalls variant code known
    exact ⟨position, made_append.mpr (Or.inl made), rfl⟩

theorem clash_positions (recalls : Recalls taken before) {variant : String} {first second : Code}
    (clash : armsFrom taken (Table.numbered before.length rest) =
      .error (.variantClash variant first second)) :
    ∃ i j, i < j ∧ MadeAt (before ++ rest) variant i ∧ MadeAt (before ++ rest) variant j ∧
      first = .ofNat i ∧ second = .ofNat j := by
  induction rest generalizing taken before with
  | nil => cases clash
  | cons m rest ih =>
    simp only [Table.numbered_cons, armsFrom] at clash
    split at clash
    · split at clash
      · rename_i code known
        obtain ⟨rfl, rfl, rfl⟩ := Error.variantClash.inj (Except.error.inj clash)
        obtain ⟨position, made, code⟩ := recalls _ _ known
        have ordered := made_inside made
        have again : MadeAt (before ++ m :: rest) m.variant before.length := by simp [MadeAt]
        exact ⟨position, before.length, ordered, (made_before ordered).mpr made, again, code, rfl⟩
      · split at clash
        · rename_i e failed
          obtain rfl := Except.error.inj clash
          have shifted := @ih _ (before ++ [m]) (recalls_next recalls)
          simp only [List.length_append, List.length_singleton, List.append_assoc,
            List.singleton_append] at shifted
          exact shifted failed
        · cases clash
    · cases clash

end Scan

theorem render_clash {enumName variant : String} {ms : List Mnemonic} {first second : Code}
    (refused : render enumName (.ofMnemonics ms) = .error (.variantClash variant first second)) :
    ∃ i j, i < j ∧ MadeAt ms variant i ∧ MadeAt ms variant j ∧
      first = .ofNat i ∧ second = .ofNat j := by
  unfold render at refused
  split at refused
  · rename_i e failed
    obtain rfl := Except.error.inj refused
    change armsFrom ∅ (Table.numbered ([] : List Mnemonic).length ms) = _ at failed
    exact clash_positions (recalls_nothing []) failed
  · cases refused

/-- The variant of a mnemonic is its upper-cased name but for case and underscores, it is its own
    variant, and it is put together at underscores. So mnemonics whose variants clash have the same
    upper-cased name but for underscores. -/
theorem clashing_names_differ_in_underscores :
    (∀ m : Mnemonic, Unicode.upper m.variant = Mnemonic.withoutUnderscores m.upper) ∧
    (∀ m : Mnemonic, (⟨m.variant⟩ : Mnemonic).variant = m.variant) ∧
    (∀ a b : String, (⟨a ++ "_" ++ b⟩ : Mnemonic).variant =
      (⟨a⟩ : Mnemonic).variant ++ (⟨b⟩ : Mnemonic).variant) ∧
    ∀ (enumName : String) (ms : List Mnemonic) (variant : String) (first second : Code),
      render enumName (.ofMnemonics ms) = .error (.variantClash variant first second) →
      ∃ i j a b, i < j ∧ ms[i]? = some a ∧ ms[j]? = some b ∧
        first = .ofNat i ∧ second = .ofNat j ∧ a.variant = variant ∧ b.variant = variant ∧
        Mnemonic.withoutUnderscores a.upper = Mnemonic.withoutUnderscores b.upper := by
  refine ⟨Mnemonic.upper_variant, Mnemonic.variant_again, Mnemonic.variant_join, ?_⟩
  intro enumName ms variant first second refused
  obtain ⟨i, j, ordered, ⟨a, there, made⟩, ⟨b, again, madeToo⟩, rfl, rfl⟩ := render_clash refused
  have names : Mnemonic.withoutUnderscores a.upper = Mnemonic.withoutUnderscores b.upper := by
    rw [← Mnemonic.upper_variant, ← Mnemonic.upper_variant, made, madeToo]
  exact ⟨i, j, a, b, ordered, there, again, rfl, rfl, made, madeToo, names⟩

theorem long_s_clashes :
    ∃ (ms : List Mnemonic) (a b : Mnemonic), ms = [⟨"ſub_x"⟩, ⟨"add"⟩, ⟨"_sub__X"⟩] ∧
      render "Opcode" (.ofMnemonics ms) = .error (.variantClash "SubX" 0 2) ∧
      ms[0]? = some a ∧ ms[2]? = some b ∧ a.variant = "SubX" ∧ b.variant = "SubX" ∧
      Mnemonic.withoutUnderscores a.upper = Mnemonic.withoutUnderscores b.upper ∧
      a.upper = "SUB_X" ∧ b.upper = "_SUB__X" := by
  let ms : List Mnemonic := [⟨"ſub_x"⟩, ⟨"add"⟩, ⟨"_sub__X"⟩]
  have bound : ms.length ≤ UInt32.size := by decide
  have refused : render "Opcode" (.ofMnemonics ms) = .error (.variantClash "SubX" 0 2) := by
    decide +kernel
  obtain ⟨_, _, _, clashes⟩ := clashing_names_differ_in_underscores
  obtain ⟨i, j, a, b, _, there, again, first, second, made, madeToo, names⟩ :=
    clashes "Opcode" ms "SubX" 0 2 refused
  have left : i = 0 := by
    have place := Table.position_is_code bound there
    rw [← first] at place
    exact place.symm
  have right : j = 2 := by
    have place := Table.position_is_code bound again
    rw [← second] at place
    exact place.symm
  subst i j
  obtain rfl := Option.some.inj there
  obtain rfl := Option.some.inj again
  refine ⟨ms, _, _, rfl, refused, there, again, made, madeToo, names, ?_, ?_⟩
  · decide +kernel
  · decide +kernel

end Opcodes.Artifact.Enumeration
