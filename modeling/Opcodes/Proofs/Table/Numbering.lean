import Opcodes.Proofs.Listing.MaximalRuns
import Opcodes.Proofs.Unicode.Plain
import Opcodes.Table

/-! The entries, the codes and the names of a table. Under every name its code map holds the code of the
   last declaration. As long as there are codes enough, every entry has its position for a code. The
   entries of a listing are named by its words, and a word is plain. -/
namespace Opcodes.Table

theorem code_map_from (entries : List Entry) (found : Std.TreeMap String Code) (name : String) :
    (entries.foldl (fun found entry => found.insert entry.mnemonic.name entry.code) found)[name]? =
      ((entries.reverse.find? (·.mnemonic.name == name)).map (·.code)).or found[name]? := by
  induction entries generalizing found with
  | nil => simp
  | cons entry entries ih =>
    rw [List.foldl_cons, ih, List.reverse_cons, List.find?_append, Std.TreeMap.getElem?_insert]
    cases entries.reverse.find? (·.mnemonic.name == name) with
    | some last => rfl
    | none =>
      by_cases same : entry.mnemonic.name = name
      · simp [same]
      · simp [same, Std.LawfulEqCmp.compare_eq_iff_eq]

theorem code_map_lookup (table : Table) (name : String) :
    table.codeMap[name]? = table.codeOf? name := by
  rw [codeMap, code_map_from, Std.TreeMap.getElem?_emptyc, Option.or_none]
  rfl

theorem entry_listed {ms : List Mnemonic} {entry : Entry}
    (listed : entry ∈ (ofMnemonics ms).entries) : entry.mnemonic ∈ ms := by
  rw [← mnemonics_of_entries ms]
  exact List.mem_map_of_mem listed

theorem code_of_none_iff {ms : List Mnemonic} {name : String} :
    (ofMnemonics ms).codeOf? name = none ↔ (⟨name⟩ : Mnemonic) ∉ ms := by
  rw [codeOf?, Option.map_eq_none_iff, List.find?_eq_none]
  constructor
  · intro others listed
    rw [← mnemonics_of_entries ms] at listed
    obtain ⟨entry, member, same⟩ := List.mem_map.mp listed
    exact others entry (List.mem_reverse.mpr member) (by simp [same])
  · intro unlisted entry member same
    rw [← beq_iff_eq.mp same] at unlisted
    exact unlisted (entry_listed (List.mem_reverse.mp member))

theorem entries_are_numbered (ms : List Mnemonic) (bound : ms.length ≤ UInt32.size) :
    (ofMnemonics ms).entries.map (fun e => (e.mnemonic, e.code.toNat)) = ms.zipIdx := by
  rw [ofMnemonics, List.map_map]
  refine (List.map_congr_left ?_).trans (List.map_id _)
  rintro ⟨m, position⟩ member
  have small : position < UInt32.size := by
    have inside := List.snd_lt_of_mem_zipIdx member
    exact Nat.lt_of_lt_of_le inside bound
  exact Prod.ext rfl (UInt32.toNat_ofNat_of_lt' small)

theorem entry_is_numbered {ms : List Mnemonic} {position : Nat} {entry : Entry}
    (there : (ofMnemonics ms).entries[position]? = some entry) :
    entry = ⟨entry.mnemonic, .ofNat position⟩ := by
  rw [entry_at] at there
  obtain ⟨m, _, rfl⟩ := Option.map_eq_some_iff.mp there
  rfl

theorem position_is_code {ms : List Mnemonic} (bound : ms.length ≤ UInt32.size) {position : Nat}
    {m : Mnemonic} (there : ms[position]? = some m) :
    (UInt32.ofNat position).toNat = position := by
  have inside := (List.getElem?_eq_some_iff.mp there).1
  apply UInt32.toNat_ofNat_of_lt'
  omega

/-- A view of the entries by mnemonic and code is a view of the numbered mnemonics. -/
theorem map_entries {α : Type} (f : Mnemonic → Nat → α) (ms : List Mnemonic)
    (bound : ms.length ≤ UInt32.size) :
    (ofMnemonics ms).entries.map (fun e => f e.mnemonic e.code.toNat) =
      ms.zipIdx.map fun (m, position) => f m position := by
  rw [← entries_are_numbered ms bound, List.map_map]
  rfl

theorem lookup_from {α β : Type} (f : α → β) (items : List α) (start number : Nat) :
    ((items.zipIdx start).map fun (item, position) => (position, f item)).lookup (start + number) =
      items[number]?.map f := by
  induction items generalizing start number with
  | nil => rfl
  | cons item items ih =>
    cases number with
    | zero => simp
    | succ number =>
      have other : (start + (number + 1) == start) = false := by simp
      have next := ih (start + 1) number
      rw [Nat.add_assoc, Nat.add_comm 1] at next
      simpa [List.lookup_cons, other] using next

theorem lookup_numbered {α β : Type} (f : α → β) (items : List α) (number : Nat) :
    (items.zipIdx.map fun (item, position) => (position, f item)).lookup number =
      items[number]?.map f := by
  have fromZero := lookup_from f items 0 number
  rwa [Nat.zero_add] at fromZero

theorem lookup_of_distinct {α β : Type} [BEq α] [LawfulBEq α] {rows : List (α × β)}
    (distinct : (rows.map Prod.fst).Nodup) {key : α} {value : β} (member : (key, value) ∈ rows) :
    rows.lookup key = some value := by
  obtain ⟨before, after, split⟩ := List.append_of_mem member
  refine List.lookup_eq_some_iff.mpr ⟨before, after, split, fun row earlier => ?_⟩
  rw [split, List.map_append, List.nodup_append] at distinct
  have apart := distinct.2.2 row.1 (List.mem_map_of_mem earlier) key (by simp)
  exact bne_iff_ne.mpr apart.symm

theorem name_of_position (ms : List Mnemonic) (code : Code) :
    (ofMnemonics ms).nameOf code =
      match ms[code.toNat]? with
      | some m => .ok m.upper
      | none => .error (.unknownCode code) := by
  rw [nameOf, entry_at]
  cases ms[code.toNat]? <;> rfl

theorem entry_plain {source : String} {entry : Entry}
    (listed : entry ∈ (ofListing source).entries) : Unicode.IsPlainText entry.mnemonic.name :=
  fun c inName => Unicode.word_is_plain ((Listing.mnemonic_is_word (entry_listed listed)).2 c inName)

end Opcodes.Table
