import Opcodes.Instruction
import Opcodes.Proofs.Strictness
import Opcodes.Proofs.Artifact.VariantFaults
import Opcodes.Proofs.Table.Lookups

/-! The instructions against the builtin listing. That they are in step with it tells everything else: the
   table of the listing and the enumeration that is made from it hold at every code what the
   instruction of the code says of itself, and nothing at any other code. -/
namespace Opcodes
open Artifact

theorem found_by_key_iff {α κ : Type} [BEq κ] [LawfulBEq κ] {items : List α} {key : α → κ}
    (distinct : (items.map key).Nodup) {k : κ} {item : α} :
    items.find? (key · == k) = some item ↔ item ∈ items ∧ key item = k := by
  constructor
  · intro found
    have same := List.find?_some found
    exact ⟨List.mem_of_find?_eq_some found, beq_iff_eq.mp same⟩
  · intro there
    obtain ⟨listed, rfl⟩ := there
    cases found : items.find? (key · == key item) with
    | none =>
      have other := List.find?_eq_none.mp found item listed
      exact absurd (BEq.refl _) other
    | some other =>
      have same : key other = key item := by simpa using List.find?_some found
      rw [List.inj_on_of_nodup_map distinct (List.mem_of_find?_eq_some found) listed same]

namespace Instruction

/-- What there is at the code of an instruction, in the table of the builtin listing and in an
    enumeration that has been read. -/
structure IsAt (i : Instruction) (code : Code) (reading : Enumeration.Reading) : Prop where
  numbered : i.code = code
  entry : Table.builtin.entries[code.toNat]? = some ⟨i.mnemonic, code⟩
  named : Table.builtin.nameOf code = .ok i.name
  spelled : i.mnemonic.variant = i.variant
  arm : reading.fromCode? code.toNat = some i.variant
  arm_named : reading.nameOf? i.variant = some i.name

theorem listed (i : Instruction) : i ∈ all := by
  cases i <;> decide

theorem codes_distinct : (all.map code).Nodup := by decide

theorem codes_are_positions : all.map (·.code.toNat) = List.range count := by decide

theorem at_position {position : Nat} {i : Instruction} (there : all[position]? = some i) :
    i.code.toNat = position := by
  have numbered : (List.range count)[position]? = some i.code.toNat := by
    rw [← codes_are_positions, List.getElem?_map, there]
    rfl
  obtain ⟨inside, same⟩ := List.getElem?_eq_some_iff.mp numbered
  rw [← same, List.getElem_range]

theorem at_code (i : Instruction) : all[i.code.toNat]? = some i := by
  obtain ⟨position, there⟩ := List.mem_iff_getElem?.mp (listed i)
  rw [at_position there, there]

theorem of_code_iff {code : Code} {i : Instruction} : ofCode? code = some i ↔ i.code = code := by
  rw [ofCode?, found_by_key_iff codes_distinct, and_iff_right (listed i)]

theorem of_code_error_iff {code : Code} {e : Error} :
    ofCode code = .error e ↔ e = .unknownCode code ∧ ofCode? code = none := by
  unfold ofCode
  cases ofCode? code <;> simp [eq_comm]

def builtinMnemonics : List Mnemonic := Listing.mnemonics Listing.builtin

theorem builtin_table : Table.builtin = .ofMnemonics builtinMnemonics := Table.builtin_eq

theorem builtin_length : builtinMnemonics.length = count := by
  rw [← builtin_size, builtin_table, ← Table.size, Table.size_of_mnemonics]

theorem builtin_bound : builtinMnemonics.length ≤ UInt32.size := by
  rw [builtin_length]
  decide

theorem variants_distinct : (builtinMnemonics.map Mnemonic.variant).Nodup := by
  rw [builtinMnemonics, variants_listed]
  decide

theorem mnemonics_distinct : builtinMnemonics.Nodup := variants_distinct.of_map _

section Builtin
variable {code : Code}

theorem entry_there (i : Instruction) : Table.builtin.entries[i.code.toNat]? = some i.entry :=
  List.getElem?_eq_getElem _

theorem entry_of_instruction (i : Instruction) :
    Table.builtin.entries[i.code.toNat]? = some ⟨i.mnemonic, i.code⟩ := by
  have numbered : i.entry = ⟨i.entry.mnemonic, .ofNat i.code.toNat⟩ :=
    Table.entry_is_numbered (builtin_table ▸ entry_there i)
  rw [UInt32.ofNat_toNat] at numbered
  rw [entry_there, mnemonic_eq]
  exact congrArg some numbered

theorem mnemonic_listed (i : Instruction) : builtinMnemonics[i.code.toNat]? = some i.mnemonic := by
  rw [← Table.mnemonics_of_entries builtinMnemonics, ← builtin_table, List.getElem?_map, entry_there,
    mnemonic_eq]
  rfl

theorem variant_of_mnemonic (i : Instruction) : i.mnemonic.variant = i.variant := by
  have same := congrArg (·[i.code.toNat]?) variants_listed
  simp only [List.getElem?_map, at_code] at same
  rw [← builtinMnemonics, mnemonic_listed] at same
  exact Option.some.inj same

theorem name_of_mnemonic (i : Instruction) : i.name = i.mnemonic.upper := by
  have named : names[i.code.toNat]? = some i.name := List.getElem?_eq_getElem _
  rw [names, List.getElem?_map, entry_there] at named
  rw [mnemonic_eq]
  exact (Option.some.inj named).symm

theorem instruction_of_code (inside : code.toNat < count) : ∃ i : Instruction, i.code = code := by
  have there := List.getElem?_eq_getElem (l := all) inside
  exact ⟨_, UInt32.toNat_inj.mp (at_position there)⟩

theorem known_iff_entry :
    (∃ i, ofCode? code = some i) ↔ ∃ entry, Table.builtin.entries[code.toNat]? = some entry := by
  constructor
  · intro known
    obtain ⟨i, found⟩ := known
    obtain rfl := of_code_iff.mp found
    exact ⟨_, entry_of_instruction i⟩
  · intro there
    obtain ⟨entry, there⟩ := there
    have inside := (List.getElem?_eq_some_iff.mp there).1
    rw [builtin_size] at inside
    obtain ⟨i, numbered⟩ := instruction_of_code inside
    exact ⟨i, of_code_iff.mpr numbered⟩

theorem found_iff_last {text : String} :
    Table.builtin.codeOf? text = some code ↔ IsLast builtinMnemonics ⟨text⟩ code.toNat := by
  rw [builtin_table]
  exact Table.code_of_iff_last builtin_bound

theorem parse_iff_found {text : String} {i : Instruction} :
    parse text = .ok i ↔ Table.builtin.codeOf? text = some i.code := by
  have known : (Table.builtin.codeOf? text).bind ofCode? = some i ↔
      Table.builtin.codeOf? text = some i.code := by
    simp only [Option.bind_eq_some_iff, of_code_iff, exists_eq_right']
  rw [← known, parse]
  cases (Table.builtin.codeOf? text).bind ofCode? <;> simp

theorem found_iff_parsed {text : String} :
    Table.builtin.codeOf? text = some code ↔ ∃ i, parse text = .ok i ∧ i.code = code := by
  constructor
  · intro found
    have inside := (List.getElem?_eq_some_iff.mp (found_iff_last.mp found).1).1
    rw [builtin_length] at inside
    obtain ⟨i, rfl⟩ := instruction_of_code inside
    exact ⟨i, parse_iff_found.mpr found, rfl⟩
  · intro parsed
    obtain ⟨i, parsed, rfl⟩ := parsed
    exact parse_iff_found.mp parsed

theorem parse_ok_iff {text : String} {i : Instruction} :
    parse text = .ok i ↔ text = i.mnemonic.name := by
  rw [parse_iff_found]
  constructor
  · intro found
    have there := (found_iff_last.mp found).1
    rw [mnemonic_listed] at there
    exact (congrArg Mnemonic.name (Option.some.inj there)).symm
  · intro same
    rw [same, builtin_table]
    exact (Table.all_found_iff builtin_bound).mpr mnemonics_distinct _ _ (mnemonic_listed i)

theorem parse_failed {text : String} {e : Error} (failed : parse text = .error e) :
    e = .unknownMnemonic text := by
  rw [parse] at failed
  cases found : (Table.builtin.codeOf? text).bind ofCode? with
  | some i =>
    rw [found] at failed
    cases failed
  | none =>
    rw [found] at failed
    exact (Except.error.inj failed).symm

theorem parse_error_iff {text : String} {e : Error} :
    parse text = .error e ↔ e = .unknownMnemonic text ∧ ∀ i : Instruction, text ≠ i.mnemonic.name := by
  constructor
  · intro failed
    refine ⟨parse_failed failed, ?_⟩
    intro i same
    rw [parse_ok_iff.mpr same] at failed
    cases failed
  · intro unknown
    obtain ⟨rfl, other⟩ := unknown
    cases parsed : parse text with
    | ok i => exact absurd (parse_ok_iff.mp parsed) (other i)
    | error e => rw [parse_failed parsed]

end Builtin

def builtinReading : Enumeration.Reading := .ofMnemonics "Opcode" builtinMnemonics

theorem variants_legal {m : Mnemonic} (listed : m ∈ builtinMnemonics) :
    Enumeration.isLegalVariant m.variant = true := by
  have all : (builtinMnemonics.map Mnemonic.variant).all Enumeration.isLegalVariant = true := by
    rw [builtinMnemonics, variants_listed]
    decide +kernel
  exact List.all_eq_true.mp all _ (List.mem_map_of_mem listed)

theorem builtin_rendered :
    ∃ text, Enumeration.render "Opcode" .builtin = .ok text := by
  rw [builtin_table]
  refine Enumeration.render_succeeds builtin_bound "Opcode" fun k fault => ?_
  rcases fault with ⟨m, there, bad⟩ | ⟨m, there, earlier, before, first, made, same⟩
  · exact Enumeration.legal_iff.mp (variants_legal (List.mem_of_getElem? there)) bad
  · have inside : k < (builtinMnemonics.map Mnemonic.variant).length := by
      rw [List.length_map]
      exact (List.getElem?_eq_some_iff.mp there).1
    have again : (builtinMnemonics.map Mnemonic.variant)[earlier]? =
        (builtinMnemonics.map Mnemonic.variant)[k]? := by
      rw [List.getElem?_map, List.getElem?_map, there, made]
      exact congrArg some same
    exact List.nodup_iff_getElem?_ne_getElem?.mp variants_distinct earlier k before inside again

theorem read_builtin {text : String} (rendered : Enumeration.render "Opcode" .builtin = .ok text) :
    Enumeration.reader.read? text = some builtinReading := by
  rw [builtin_table] at rendered
  rw [builtinReading, ← Enumeration.reading_of_mnemonics _ _ builtin_bound]
  exact Enumeration.read_rendered rendered (by decide) fun _ listed => Table.entry_plain listed

theorem is_at_code (i : Instruction) : i.IsAt i.code builtinReading where
  numbered := rfl
  entry := entry_of_instruction i
  named := by
    rw [Table.nameOf, entry_of_instruction, name_of_mnemonic]
  spelled := variant_of_mnemonic i
  arm := by
    rw [builtinReading, Enumeration.Reading.variant_of_code, mnemonic_listed]
    exact congrArg some (variant_of_mnemonic i)
  arm_named := by
    rw [← variant_of_mnemonic, name_of_mnemonic]
    exact Enumeration.Reading.name_of_listed variants_distinct
      (List.mem_of_getElem? (mnemonic_listed i))

theorem no_arm_beyond {code : Code} (unknown : Table.builtin.entries[code.toNat]? = none) :
    builtinReading.fromCode? code.toNat = none := by
  rw [builtin_table, Table.entry_at, Option.map_eq_none_iff] at unknown
  rw [builtinReading, Enumeration.Reading.variant_of_code, unknown]
  rfl

/-- Instructions, the builtin listing and the enumeration that is made from it go together. A code
    has an instruction just when the listing has an entry there, and then all three say the same of
    it. A text can be parsed just when it is the mnemonic of an instruction, as a look-up in the
    table finds it, and all else is refused by name. -/
theorem instructions_in_step_with_listing :
    ∃ (product : Product) (reading : Enumeration.Reading),
      ({ target := .rust } : Settings).product.result = .ok product ∧
      Enumeration.reader.read? product.text = some reading ∧
      (∀ code : Code,
        ((∃ i, ofCode? code = some i) ↔
          ∃ entry, Table.builtin.entries[code.toNat]? = some entry) ∧
        (∀ i, ofCode? code = some i → i.IsAt code reading ∧ ofCode code = .ok i) ∧
        (∀ e, ofCode code = .error e ↔
          e = .unknownCode code ∧ Table.builtin.entries[code.toNat]? = none) ∧
        (Table.builtin.entries[code.toNat]? = none → reading.fromCode? code.toNat = none)) ∧
      ∀ text : String,
        (∀ i, parse text = .ok i ↔ text = i.mnemonic.name) ∧
        (∀ code, Table.builtin.codeOf? text = some code ↔ ∃ i, parse text = .ok i ∧ i.code = code) ∧
        ∀ e, parse text = .error e ↔
          e = .unknownMnemonic text ∧ ∀ i : Instruction, text ≠ i.mnemonic.name := by
  obtain ⟨text, rendered⟩ := builtin_rendered
  have made := @Settings.product_of_distinct { target := .rust } rfl mnemonics_distinct
  have rendering := rendered
  rw [Table.builtin_eq] at rendering
  have accepted := made.trans (congrArg (Except.map _) rendering)
  refine ⟨⟨_, text⟩, builtinReading, accepted, read_builtin rendered, ?_, ?_⟩
  · intro code
    refine ⟨known_iff_entry, ?_, ?_, no_arm_beyond⟩
    · intro i found
      obtain rfl := of_code_iff.mp found
      refine ⟨is_at_code i, ?_⟩
      rw [ofCode, found]
    · intro e
      have unknown : ofCode? code = none ↔ Table.builtin.entries[code.toNat]? = none := by
        simpa only [Option.eq_none_iff_forall_ne_some, not_exists] using
          not_congr (@known_iff_entry code)
      rw [of_code_error_iff, unknown]
  · intro text
    exact ⟨fun i => parse_ok_iff, fun code => found_iff_parsed, fun e => parse_error_iff⟩

theorem last_instruction_in_step :
    ∃ (product : Product) (reading : Enumeration.Reading),
      Enumeration.reader.read? product.text = some reading ∧
      ofCode 27 = .ok .mutateBus ∧
      Table.builtin.entries[27]? = some ⟨⟨"mutate_bus"⟩, 27⟩ ∧
      reading.fromCode? 27 = some "MutateBus" ∧ reading.nameOf? "MutateBus" = some "MUTATE_BUS" ∧
      ofCode 28 = .error (.unknownCode 28) ∧ reading.fromCode? 28 = none ∧
      parse "pop_" = .ok .pop ∧ Table.builtin.codeOf? "pop_" = some 0 ∧
      parse "Pop" = .error (.unknownMnemonic "Pop") ∧
      parse "pop_ " = .error (.unknownMnemonic "pop_ ") := by
  obtain ⟨product, reading, _, read, codes, texts⟩ := instructions_in_step_with_listing
  obtain ⟨_, known, _, _⟩ := codes 27
  obtain ⟨_, _, unknown, beyond⟩ := codes 28
  obtain ⟨last, found⟩ := known .mutateBus (by decide)
  have samples : builtinMnemonics[pop.code.toNat]? = some ⟨"pop_"⟩ ∧
      builtinMnemonics[mutateBus.code.toNat]? = some ⟨"mutate_bus"⟩ ∧
      ⟨"Pop"⟩ ∉ builtinMnemonics ∧ ⟨"pop_ "⟩ ∉ builtinMnemonics := by
    delta builtinMnemonics Listing.mnemonics Listing.words Listing.builtin
    simp only [String.toList_append, String.reduceToList]
    decide +kernel
  obtain ⟨first, final, capital, space⟩ := samples
  have popped : pop.mnemonic = ⟨"pop_"⟩ := Option.some.inj ((mnemonic_listed .pop).symm.trans first)
  have spelled : mutateBus.mnemonic = ⟨"mutate_bus"⟩ :=
    Option.some.inj ((mnemonic_listed .mutateBus).symm.trans final)
  have upper : mutateBus.name = "MUTATE_BUS" := by
    rw [name_of_mnemonic, spelled]
    decide +kernel
  have entry := last.entry
  have position : (27 : Code).toNat = 27 := rfl
  rw [spelled, position] at entry
  have named := last.arm_named
  rw [upper] at named
  have absent : Table.builtin.entries[(28 : Code).toNat]? = none := by
    apply List.getElem?_eq_none
    rw [builtin_size]
    decide
  have parsed : parse "pop_" = .ok .pop := ((texts "pop_").1 .pop).mpr (by rw [popped])
  have other (text : String) (unlisted : ⟨text⟩ ∉ builtinMnemonics) :
      parse text = .error (.unknownMnemonic text) := by
    refine ((texts text).2.2 _).mpr ⟨rfl, ?_⟩
    intro i same
    have whole (m : Mnemonic) : (⟨m.name⟩ : Mnemonic) = m := rfl
    rw [same, whole] at unlisted
    exact unlisted (List.mem_of_getElem? (mnemonic_listed i))
  exact ⟨product, reading, read, found, entry, last.arm, named, (unknown _).mpr ⟨rfl, absent⟩,
    beyond absent, parsed, ((texts "pop_").2.1 0).mpr ⟨.pop, parsed, rfl⟩, other "Pop" capital,
    other "pop_ " space⟩

end Instruction
end Opcodes
