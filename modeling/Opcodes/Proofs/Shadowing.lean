import Mathlib.Data.List.NodupEquivFin
import Opcodes.Proofs.Generation
import Opcodes.Proofs.Table.Repeats

/-! What a look-up by name finds, and what the warnings say that it finds. A warning is about two
   declarations and names the later one, which is the last of all unless a third one follows. -/
namespace Opcodes

theorem third_declaration_iff {ms : List Mnemonic} {m : Mnemonic} :
    2 < ms.count m ↔
      ∃ i j k : Nat, i < j ∧ j < k ∧ ms[i]? = some m ∧ ms[j]? = some m ∧ ms[k]? = some m := by
  constructor
  · intro many
    have sublist : (List.replicate 3 m).Sublist ms := List.replicate_sublist_iff.mpr many
    obtain ⟨place, found⟩ := List.sublist_iff_exists_orderEmbedding_getElem?_eq.mp sublist
    have there : ∀ n, n < 3 → ms[place n]? = some m := by
      intro n inside
      rw [← found n, List.getElem?_replicate_of_lt inside]
    exact ⟨place 0, place 1, place 2, place.strictMono (by decide), place.strictMono (by decide),
      there 0 (by decide), there 1 (by decide), there 2 (by decide)⟩
  · rintro ⟨i, j, k, before, after, first, second, third⟩
    have inside : j < ms.length := (List.getElem?_eq_some_iff.mp second).1
    have earlier : m ∈ ms.take j := by
      rw [← List.getElem?_take_of_lt before] at first
      exact List.mem_of_getElem? first
    have later : m ∈ ms.drop (j + 1) := by
      have place : j + 1 + (k - (j + 1)) = k := by omega
      rw [← place, ← List.getElem?_drop] at third
      exact List.mem_of_getElem? third
    have split : ms = ms.take j ++ m :: ms.drop (j + 1) := by
      rw [List.getElem?_eq_getElem inside, Option.some.injEq] at second
      rw [← second, List.getElem_cons_drop, List.take_append_drop]
    have countBefore := List.count_pos_iff.mpr earlier
    have countAfter := List.count_pos_iff.mpr later
    rw [split, List.count_append, List.count_cons_self]
    omega

namespace Table

theorem entries_append (before : List Mnemonic) (m : Mnemonic) :
    (ofMnemonics (before ++ [m])).entries =
      (ofMnemonics before).entries ++ [⟨m, .ofNat before.length⟩] := by
  simp [ofMnemonics, List.zipIdx_append]

theorem code_of_append (before : List Mnemonic) (m : Mnemonic) (name : String) :
    (ofMnemonics (before ++ [m])).codeOf? name =
      if m.name = name then some (.ofNat before.length)
      else (ofMnemonics before).codeOf? name := by
  rw [codeOf?, entries_append, List.reverse_append]
  by_cases same : m.name = name
  · simp [same]
  · simp [same, codeOf?]

theorem code_of_iff_last {ms : List Mnemonic} (bound : ms.length ≤ UInt32.size) {m : Mnemonic}
    {code : Code} : (ofMnemonics ms).codeOf? m.name = some code ↔ IsLast ms m code.toNat := by
  induction ms using List.reverseRecOn with
  | nil => simp [ofMnemonics, codeOf?, IsLast]
  | append_singleton before last ih =>
    rw [List.length_append, List.length_singleton] at bound
    rw [code_of_append]
    by_cases same : last = m
    · subst same
      rw [if_pos rfl, last_append_self, Option.some.injEq, ← UInt32.toNat_inj,
        UInt32.toNat_ofNat_of_lt' (by omega), eq_comm]
    · have names : last.name ≠ m.name := mt (congrArg Mnemonic.mk) same
      rw [if_neg names, last_append_other (Ne.symm same)]
      exact ih (by omega)

end Table

section Repeats
variable {ms : List Mnemonic} {r : Repeat}

theorem IsRepeat.found_iff (repeated : IsRepeat ms r) (bound : ms.length ≤ UInt32.size) :
    (Table.ofMnemonics ms).codeOf? r.mnemonic.name = some r.later ↔
      ∀ k, r.later.toNat < k → ms[k]? ≠ some r.mnemonic := by
  rw [Table.code_of_iff_last bound, IsLast, and_iff_right repeated.again]

theorem IsRepeat.exists_final (repeated : IsRepeat ms r) (bound : ms.length ≤ UInt32.size) :
    ∃ final, IsRepeat ms final ∧ final.mnemonic = r.mnemonic ∧
      r.later.toNat ≤ final.later.toNat ∧
      (Table.ofMnemonics ms).codeOf? r.mnemonic.name = some final.later := by
  obtain ⟨position, notBefore, isLast⟩ := exists_last_from repeated.again
  have ordered : r.earlier.toNat < position := Nat.lt_of_lt_of_le repeated.ordered notBefore
  obtain ⟨final, listed, same, rfl⟩ := Table.repeat_found bound ordered repeated.first isLast.1
  refine ⟨final, (Table.mem_repeats_iff bound).mp listed, same, notBefore, ?_⟩
  exact (Table.code_of_iff_last bound).mpr isLast

theorem all_final_iff (bound : ms.length ≤ UInt32.size) :
    (∀ r, IsRepeat ms r → (Table.ofMnemonics ms).codeOf? r.mnemonic.name = some r.later) ↔
      ∀ m, ms.count m ≤ 2 := by
  constructor
  · intro final m
    by_contra many
    obtain ⟨i, j, k, before, after, first, second, third⟩ :=
      third_declaration_iff.mp (Nat.lt_of_not_le many)
    obtain ⟨r, listed, rfl, rfl⟩ := Table.repeat_found bound before first second
    have repeated := (Table.mem_repeats_iff bound).mp listed
    exact (repeated.found_iff bound).mp (final r repeated) k after third
  · intro few r repeated
    rw [repeated.found_iff bound]
    intro k after third
    refine Nat.not_lt.mpr (few r.mnemonic) (third_declaration_iff.mpr ?_)
    exact ⟨_, _, k, repeated.ordered, after, repeated.first, repeated.again, third⟩

end Repeats

namespace Settings

theorem warned_iff {settings : Settings} (lenient : settings.refusesRepeats = false)
    (bound : (Listing.mnemonics settings.source).length ≤ UInt32.size) {notice : Notice} :
    notice ∈ settings.table.notices ↔
      ∃ r, IsRepeat (Listing.mnemonics settings.source) r ∧ notice = .shadowed r := by
  rw [table_permissive lenient]
  simp only [List.mem_map, Table.ofListing, Table.mem_repeats_iff bound, eq_comm]

/-- A warning is right about what a look-up finds exactly when no declaration follows the two that it
    is about. So the last warning about a mnemonic is right, and all warnings are when no mnemonic
    is declared more than twice, and only then. -/
theorem warning_is_right_iff (settings : Settings) (lenient : settings.refusesRepeats = false)
    (bound : (Listing.mnemonics settings.source).length ≤ UInt32.size) :
    ∃ table, settings.table.result = .ok table ∧
      (∀ notice, notice ∈ settings.table.notices ↔
        ∃ r, IsRepeat (Listing.mnemonics settings.source) r ∧ notice = .shadowed r) ∧
      (∀ r, .shadowed r ∈ settings.table.notices →
        (table.codeOf? r.mnemonic.name = some r.later ↔
          ∀ k, r.later.toNat < k → (Listing.mnemonics settings.source)[k]? ≠ some r.mnemonic) ∧
        ∃ final, .shadowed final ∈ settings.table.notices ∧ final.mnemonic = r.mnemonic ∧
          r.later.toNat ≤ final.later.toNat ∧
          table.codeOf? r.mnemonic.name = some final.later) ∧
      ((∀ r, .shadowed r ∈ settings.table.notices →
          table.codeOf? r.mnemonic.name = some r.later) ↔
        ∀ m, (Listing.mnemonics settings.source).count m ≤ 2) := by
  have repeated : ∀ r, .shadowed r ∈ settings.table.notices ↔
      IsRepeat (Listing.mnemonics settings.source) r := by
    intro r
    rw [warned_iff lenient bound]
    simp
  refine ⟨.ofListing settings.source, by rw [table_permissive lenient], ?_, ?_, ?_⟩
  · intro notice
    exact warned_iff lenient bound
  · intro r warned
    have pair := (repeated r).mp warned
    obtain ⟨final, finalPair, same, notBefore, found⟩ := pair.exists_final bound
    exact ⟨pair.found_iff bound, final, (repeated final).mpr finalPair, same, notBefore, found⟩
  · rw [← all_final_iff bound]
    simp only [repeated]
    rfl

theorem warnings_are_right_in_part :
    ∃ settings : Settings, settings.source = "pop_ add pop_ add pop_" ∧
      settings.refusesRepeats = false ∧
      (Listing.mnemonics settings.source).length ≤ UInt32.size ∧
      settings.table.notices = [.shadowed ⟨⟨"pop_"⟩, 0, 2⟩, .shadowed ⟨⟨"add"⟩, 1, 3⟩,
        .shadowed ⟨⟨"pop_"⟩, 2, 4⟩] ∧
      ∃ table, settings.table.result = .ok table ∧ table.codeOf? "pop_" ≠ some 2 ∧
        table.codeOf? "add" = some 3 ∧ table.codeOf? "pop_" = some 4 := by
  let settings : Settings := { source := "pop_ add pop_ add pop_" }
  have listing : Listing.mnemonics settings.source =
      [⟨"pop_"⟩, ⟨"add"⟩, ⟨"pop_"⟩, ⟨"add"⟩, ⟨"pop_"⟩] := by
    decide +kernel
  have bound : (Listing.mnemonics settings.source).length ≤ UInt32.size := by
    rw [listing]
    decide
  have warnings : settings.table.notices = [.shadowed ⟨⟨"pop_"⟩, 0, 2⟩, .shadowed ⟨⟨"add"⟩, 1, 3⟩,
      .shadowed ⟨⟨"pop_"⟩, 2, 4⟩] := by
    decide +kernel
  obtain ⟨table, numbered, _, each, _⟩ := warning_is_right_iff settings rfl bound
  rw [warnings, listing] at each
  have first := (each ⟨⟨"pop_"⟩, 0, 2⟩ (by simp)).1
  have second := (each ⟨⟨"add"⟩, 1, 3⟩ (by simp)).1
  have third := (each ⟨⟨"pop_"⟩, 2, 4⟩ (by simp)).1
  refine ⟨settings, rfl, rfl, bound, warnings, table, numbered, ?_, ?_, ?_⟩
  · intro right
    exact first.mp right 4 (by decide) rfl
  · refine second.mpr fun k after => ?_
    rcases Nat.eq_or_lt_of_le after with rfl | beyond
    · decide
    · rw [List.getElem?_eq_none beyond]
      exact nofun
  · refine third.mpr fun k beyond => ?_
    rw [List.getElem?_eq_none beyond]
    exact nofun

/-- The first of two warnings about one mnemonic says that a look-up finds its second declaration, and
    the look-up finds the third. -/
theorem second_of_three_is_not_found :
    ∃ (settings : Settings) (table : Table) (r : Repeat), settings.source = "a a a" ∧
      settings.refusesRepeats = false ∧
      (Listing.mnemonics settings.source).length ≤ UInt32.size ∧
      settings.table.result = .ok table ∧ .shadowed r ∈ settings.table.notices ∧
      (Notice.shadowed r).message =
        "`a` is declared at codes 0 and 1; lookups by name resolve to 1" ∧
      table.codeOf? r.mnemonic.name = some 2 ∧
      table.codeOf? r.mnemonic.name ≠ some r.later := by
  let settings : Settings := { source := "a a a" }
  let r : Repeat := ⟨⟨"a"⟩, 0, 1⟩
  have found : (Table.ofListing settings.source).codeOf? r.mnemonic.name = some 2 := by
    decide +kernel
  refine ⟨settings, .ofListing settings.source, r, rfl, rfl, ?_, rfl, ?_, ?_, found, ?_⟩
  · decide +kernel
  · decide +kernel
  · decide +kernel
  · rw [found]
    decide

end Settings
end Opcodes
