import Opcodes.Proofs.Generation
import Opcodes.Proofs.Table.Numbering
import Opcodes.Proofs.Text.LineReading

/-! An enumeration, read line by line, holds the listing that it was made from, and its two
   functions dispatch on codes and variants as the table does. -/
namespace Opcodes.Artifact.Enumeration
open Text LineReader

def armOf (entry : Entry) : Arm := ⟨entry.mnemonic.variant, entry.code, entry.mnemonic.upper⟩

theorem arms_step {taken : Std.TreeMap String Code} {entry : Entry} {entries : List Entry}
    {arms : List Arm} (accepted : armsFrom taken (entry :: entries) = .ok arms) :
    isLegalVariant entry.mnemonic.variant = true ∧ entry.mnemonic.variant ∉ taken ∧
      ∃ later, armsFrom (taken.insert entry.mnemonic.variant entry.code) entries = .ok later ∧
        arms = armOf entry :: later := by
  simp only [armsFrom] at accepted
  split at accepted
  · rename_i legal
    split at accepted
    · cases accepted
    · rename_i free
      have fresh : entry.mnemonic.variant ∉ taken := by
        simp [Std.TreeMap.mem_iff_isSome_getElem?, free]
      split at accepted
      · cases accepted
      · rename_i later acceptedLater
        exact ⟨legal, fresh, later, acceptedLater, (Except.ok.inj accepted).symm⟩
  · cases accepted

theorem arms_of_entries {taken : Std.TreeMap String Code} {entries : List Entry} {arms : List Arm}
    (accepted : armsFrom taken entries = .ok arms) :
    arms = entries.map armOf ∧ (entries.map (·.mnemonic.variant)).Nodup ∧
      ∀ e ∈ entries, e.mnemonic.variant ∉ taken := by
  induction entries generalizing taken arms with
  | nil =>
    obtain rfl := Except.ok.inj accepted
    simp
  | cons entry entries ih =>
    obtain ⟨_, fresh, later, acceptedLater, rfl⟩ := arms_step accepted
    obtain ⟨rfl, distinct, freshLater⟩ := ih acceptedLater
    have other : ∀ e ∈ entries, entry.mnemonic.variant ≠ e.mnemonic.variant ∧
        e.mnemonic.variant ∉ taken := by
      intro e listed
      have apart := freshLater e listed
      rwa [Std.TreeMap.mem_insert, Std.LawfulEqCmp.compare_eq_iff_eq, not_or] at apart
    refine ⟨rfl, List.nodup_cons.mpr ⟨?_, distinct⟩, ?_⟩
    · intro again
      obtain ⟨e, listed, same⟩ := List.mem_map.mp again
      exact (other e listed).1 same.symm
    · intro e listed
      rcases List.mem_cons.mp listed with rfl | more
      · exact fresh
      · exact (other e more).2

theorem arms_legal {taken : Std.TreeMap String Code} {entries : List Entry} {arms : List Arm}
    (accepted : armsFrom taken entries = .ok arms) :
    ∀ e ∈ entries, isLegalVariant e.mnemonic.variant = true := by
  induction entries generalizing taken arms with
  | nil => simp
  | cons entry entries ih =>
    obtain ⟨legal, _, later, acceptedLater, _⟩ := arms_step accepted
    exact List.forall_mem_cons.mpr ⟨legal, ih acceptedLater⟩

def variantRow : Row := ⟨"    ", " = ", ","⟩

def codeRow : Row := ⟨"            ", " => Some(Self::", "),"⟩

def nameRow : Row := ⟨"            Self::", " => \"", "\","⟩

structure Reading where
  enumName : String
  hasRepresentation : Bool
  variants : List (String × Nat)
  codeArms : List (Nat × String)
  nameArms : List (String × String)

def reader : LineReader Reading := do
  fixed ["// Generated by irgen. Do not edit.", ""]
  let hasRepresentation ← optional "#[repr(u32)]"
  fixed ["#[derive(Clone, Copy, Debug, PartialEq, Eq, Hash)]"]
  let enumName ← between "pub enum " " \x7b"
  let variants ← rows variantRow.named?
  fixed ["\x7d", "", "impl " ++ enumName ++ " \x7b",
    "    pub fn from_code(code: u32) -> Option<Self> \x7b", "        match code \x7b"]
  let codeArms ← rows codeRow.numbered?
  fixed ["            _ => None,", "        \x7d", "    \x7d", "",
    "    pub fn name(self) -> &'static str \x7b", "        match self \x7b"]
  let nameArms ← rows nameRow.read?
  fixed ["        \x7d", "    \x7d", "\x7d"]
  return ⟨enumName, hasRepresentation, variants, codeArms, nameArms⟩

namespace Reading

def fromCode? (reading : Reading) (code : Nat) : Option String := reading.codeArms.lookup code

def nameOf? (reading : Reading) (variant : String) : Option String :=
  reading.nameArms.lookup variant

def discriminant? (reading : Reading) (variant : String) : Option Nat :=
  reading.variants.lookup variant

def ofArms (enumName : String) (arms : List Arm) : Reading where
  enumName := enumName
  hasRepresentation := !arms.isEmpty
  variants := arms.map fun arm => (arm.variant, arm.code.toNat)
  codeArms := arms.map fun arm => (arm.code.toNat, arm.variant)
  nameArms := arms.map fun arm => (arm.variant, arm.name)

end Reading

def Arm.IsPlain (arm : Arm) : Prop :=
  Unicode.IsPlainText arm.variant ∧ Unicode.IsPlainText arm.name

theorem arms_plain {entries : List Entry}
    (plain : ∀ entry ∈ entries, Unicode.IsPlainText entry.mnemonic.name) :
    ∀ arm ∈ entries.map armOf, Arm.IsPlain arm := by
  intro arm member
  obtain ⟨entry, listed, rfl⟩ := List.mem_map.mp member
  have name := plain entry listed
  exact ⟨Unicode.variant_plain name, Unicode.upper_plain name⟩

section Layout
variable {arms : List Arm} (plain : ∀ arm ∈ arms, Arm.IsPlain arm)
include plain

theorem reads_lines (enumName : String) :
    Reads reader (lines enumName arms) (.ofArms enumName arms) [] := by
  have variant : ∀ arm ∈ arms,
      variantRow.named? (variantLine arm) = some (arm.variant, arm.code.toNat) := by
    intro arm listed
    exact Row.named_write (by decide) (plain arm listed).1 arm.code
  have code : ∀ arm ∈ arms,
      codeRow.numbered? (codeLine arm) = some (arm.code.toNat, arm.variant) := by
    intro arm listed
    exact Row.numbered_write (by decide) (plain arm listed).1 arm.code
  have name : ∀ arm ∈ arms, nameRow.read? (nameLine arm) = some (arm.variant, arm.name) := by
    intro arm listed
    exact Row.read_write (by decide) (plain arm listed).1 (plain arm listed).2
  have represented (rest : List String) : Reads (optional "#[repr(u32)]")
      (representation arms ++ "#[derive(Clone, Copy, Debug, PartialEq, Eq, Hash)]" :: rest)
      (!arms.isEmpty) ("#[derive(Clone, Copy, Debug, PartialEq, Eq, Hash)]" :: rest) := by
    cases arms with
    | nil => exact reads_absent (by decide) rest
    | cons arm arms => exact reads_present _ _
  unfold lines
  simp only [List.append_assoc, List.cons_append, List.nil_append]
  refine reads_bind (reads_fixed _ _) (reads_bind (represented _) ?_)
  refine reads_bind (reads_fixed _ _) (reads_bind (reads_between _ _ enumName _) ?_)
  refine reads_bind (reads_rows variant rfl _) (reads_bind (reads_fixed _ _) ?_)
  refine reads_bind (reads_rows code rfl _) (reads_bind (reads_fixed _ _) ?_)
  exact reads_bind (reads_rows name rfl _) (reads_bind (reads_fixed _ []) rfl)

theorem lines_unbroken {enumName : String} (name : Unbroken enumName) :
    ∀ line ∈ lines enumName arms, Unbroken line := by
  have variant : ∀ arm ∈ arms, Unbroken (variantLine arm) := by
    intro arm listed
    exact Row.write_unbroken variantRow (by decide) (plain arm listed).1 (decimal_plain arm.code)
  have code : ∀ arm ∈ arms, Unbroken (codeLine arm) := by
    intro arm listed
    exact Row.write_unbroken codeRow (by decide) (decimal_plain arm.code) (plain arm listed).1
  have named : ∀ arm ∈ arms, Unbroken (nameLine arm) := by
    intro arm listed
    exact Row.write_unbroken nameRow (by decide) (plain arm listed).1 (plain arm listed).2
  have represented : ∀ line ∈ representation arms, Unbroken line := by
    unfold representation
    split <;> decide
  have declared : Unbroken ("pub enum " ++ enumName ++ " \x7b") :=
    unbroken_append (unbroken_append (by decide) name) (by decide)
  have implemented : Unbroken ("impl " ++ enumName ++ " \x7b") :=
    unbroken_append (unbroken_append (by decide) name) (by decide)
  unfold lines
  simp only [List.forall_mem_append, List.forall_mem_cons, List.forall_mem_map, List.not_mem_nil,
    false_implies, implies_true, and_true, and_assoc]
  refine ⟨by decide, by decide, represented, by decide, declared, variant, by decide, by decide,
    implemented, by decide, by decide, code, ?_⟩
  refine ⟨by decide, by decide, by decide, by decide, by decide, by decide, named, ?_⟩
  decide

theorem read_lines {enumName : String} (name : Unbroken enumName) :
    reader.read? (ofLines (lines enumName arms)) = some (.ofArms enumName arms) :=
  read_text (lines_unbroken plain name) (reads_lines plain enumName)

end Layout

theorem render_parts {enumName text : String} {table : Table}
    (rendered : render enumName table = .ok text) :
    text = ofLines (lines enumName (table.entries.map armOf)) ∧
      (table.entries.map (·.mnemonic.variant)).Nodup := by
  unfold render at rendered
  split at rendered
  · cases rendered
  · rename_i arms accepted
    obtain ⟨rfl, distinct, _⟩ := arms_of_entries accepted
    exact ⟨(Except.ok.inj rendered).symm, distinct⟩

theorem render_legal {enumName text : String} {table : Table}
    (rendered : render enumName table = .ok text) :
    ∀ m ∈ table.entries.map (·.mnemonic), isLegalVariant m.variant = true := by
  unfold render at rendered
  split at rendered
  · cases rendered
  · rename_i arms accepted
    exact List.forall_mem_map.mpr (arms_legal accepted)

theorem variants_of_rendered {enumName text : String} {ms : List Mnemonic}
    (rendered : render enumName (.ofMnemonics ms) = .ok text) : (ms.map Mnemonic.variant).Nodup := by
  rw [← Table.mnemonics_of_entries ms, List.map_map]
  exact (render_parts rendered).2

theorem read_rendered {enumName text : String} {table : Table}
    (rendered : render enumName table = .ok text) (name : Unbroken enumName)
    (plain : ∀ entry ∈ table.entries, Unicode.IsPlainText entry.mnemonic.name) :
    reader.read? text = some (.ofArms enumName (table.entries.map armOf)) := by
  rw [(render_parts rendered).1]
  exact read_lines (arms_plain plain) name

def Reading.ofMnemonics (enumName : String) (ms : List Mnemonic) : Reading where
  enumName := enumName
  hasRepresentation := !ms.isEmpty
  variants := ms.zipIdx.map fun (m, position) => (m.variant, position)
  codeArms := ms.zipIdx.map fun (m, position) => (position, m.variant)
  nameArms := ms.map fun m => (m.variant, m.upper)

theorem reading_of_mnemonics (enumName : String) (ms : List Mnemonic)
    (bound : ms.length ≤ UInt32.size) :
    Reading.ofArms enumName ((Table.ofMnemonics ms).entries.map armOf) =
      Reading.ofMnemonics enumName ms := by
  have variants := Table.map_entries (fun m position => (m.variant, position)) ms bound
  have codeArms := Table.map_entries (fun m position => (position, m.variant)) ms bound
  have nameArms : (Table.ofMnemonics ms).entries.map
      (fun e => (e.mnemonic.variant, e.mnemonic.upper)) = ms.map fun m => (m.variant, m.upper) := by
    conv_rhs => rw [← Table.mnemonics_of_entries ms, List.map_map]
    rfl
  have represented : ((Table.ofMnemonics ms).entries.map armOf).isEmpty = ms.isEmpty := by
    cases ms with
    | nil => rfl
    | cons m ms => rfl
  rw [Reading.ofArms, Reading.ofMnemonics, ← variants, ← codeArms, ← nameArms, represented]
  simp only [List.map_map]
  rfl

namespace Reading

/-- The enumeration dispatches as the table does: its arms hide none of each other, and codes,
    variants and names go together. -/
structure Dispatches (reading : Reading) (table : Table) : Prop where
  known : ∀ code : Code, code.toNat < table.size →
    ∃ entry, table.entries[code.toNat]? = some entry ∧
      reading.fromCode? code.toNat = some entry.mnemonic.variant
  unknown : ∀ code : Code, table.size ≤ code.toNat → reading.fromCode? code.toNat = none
  numbered : ∀ code variant, reading.fromCode? code = some variant →
    reading.discriminant? variant = some code
  named : ∀ (code : Code) variant, reading.fromCode? code.toNat = some variant →
    ∃ name, reading.nameOf? variant = some name ∧ table.nameOf code = .ok name
  returned : ∀ variant code, (variant, code) ∈ reading.variants →
    reading.fromCode? code = some variant
  codes_apart : (reading.codeArms.map Prod.fst).Nodup
  variants_apart : (reading.nameArms.map Prod.fst).Nodup

variable {enumName : String} {ms : List Mnemonic}

theorem variant_of_code (code : Nat) :
    (ofMnemonics enumName ms).fromCode? code = ms[code]?.map Mnemonic.variant :=
  Table.lookup_numbered Mnemonic.variant ms code

theorem mnemonic_of_arm {code : Nat} {variant : String}
    (found : (ofMnemonics enumName ms).fromCode? code = some variant) :
    ∃ m, ms[code]? = some m ∧ m.variant = variant := by
  rw [variant_of_code] at found
  exact Option.map_eq_some_iff.mp found

theorem keys_of_variants :
    (ofMnemonics enumName ms).variants.map Prod.fst = ms.map Mnemonic.variant := by
  conv_rhs => rw [← List.zipIdx_map_fst 0 ms, List.map_map]
  rw [ofMnemonics, List.map_map]
  rfl

theorem keys_of_name_arms :
    (ofMnemonics enumName ms).nameArms.map Prod.fst = ms.map Mnemonic.variant := by
  rw [ofMnemonics, List.map_map]
  rfl

theorem name_of_listed (distinct : (ms.map Mnemonic.variant).Nodup) {m : Mnemonic} (listed : m ∈ ms) :
    (ofMnemonics enumName ms).nameOf? m.variant = some m.upper := by
  have member : (m.variant, m.upper) ∈ (ofMnemonics enumName ms).nameArms := List.mem_map_of_mem listed
  exact Table.lookup_of_distinct (keys_of_name_arms ▸ distinct) member

theorem keys_of_code_arms :
    (ofMnemonics enumName ms).codeArms.map Prod.fst = List.range' 0 ms.length := by
  rw [← List.zipIdx_map_snd 0 ms, ofMnemonics, List.map_map]
  rfl

theorem dispatches (distinct : (ms.map Mnemonic.variant).Nodup) :
    (ofMnemonics enumName ms).Dispatches (.ofMnemonics ms) where
  known := by
    intro code inside
    rw [Table.size_of_mnemonics] at inside
    refine ⟨⟨ms[code.toNat], .ofNat code.toNat⟩, ?_, ?_⟩
    · rw [Table.entry_at, List.getElem?_eq_getElem inside, Option.map_some]
    · rw [variant_of_code, List.getElem?_eq_getElem inside, Option.map_some]
  unknown := by
    intro code beyond
    rw [Table.size_of_mnemonics] at beyond
    rw [variant_of_code, List.getElem?_eq_none beyond, Option.map_none]
  numbered := by
    intro code variant found
    obtain ⟨m, at_code, rfl⟩ := mnemonic_of_arm found
    have member : (m.variant, code) ∈ (ofMnemonics enumName ms).variants :=
      List.mem_map.mpr ⟨(m, code), List.mem_zipIdx_iff_getElem?.mpr at_code, rfl⟩
    exact Table.lookup_of_distinct (keys_of_variants ▸ distinct) member
  named := by
    intro code variant found
    obtain ⟨m, at_code, rfl⟩ := mnemonic_of_arm found
    refine ⟨m.upper, name_of_listed distinct (List.mem_of_getElem? at_code), ?_⟩
    rw [Table.name_of_position, at_code]
  returned := by
    intro variant code member
    obtain ⟨⟨m, position⟩, listed, same⟩ := List.mem_map.mp member
    obtain ⟨rfl, rfl⟩ := Prod.mk.inj same
    rw [variant_of_code, List.mem_zipIdx_iff_getElem?.mp listed, Option.map_some]
  codes_apart := by
    rw [keys_of_code_arms]
    exact List.nodup_range'
  variants_apart := by
    rw [keys_of_name_arms]
    exact distinct

end Reading

/-- From the text for any accepted settings the three sections can be read back, each in the order
    of the listing, and they dispatch as the table does. -/
theorem enumeration_dispatches_as_table (settings : Settings) (product : Product)
    (rust : settings.target = .rust) (accepted : settings.product.result = .ok product)
    (bound : (Listing.mnemonics settings.source).length ≤ UInt32.size) :
    ∃ reading, reader.read? product.text = some reading ∧
      reading.variants =
        (Listing.mnemonics settings.source).zipIdx.map (fun (m, i) => (m.variant, i)) ∧
      reading.codeArms =
        (Listing.mnemonics settings.source).zipIdx.map (fun (m, i) => (i, m.variant)) ∧
      reading.nameArms =
        (Listing.mnemonics settings.source).map (fun m => (m.variant, m.upper)) ∧
      product.table = .ofListing settings.source ∧ reading.Dispatches product.table := by
  obtain ⟨table, rendered⟩ := Settings.product_enumerated rust accepted
  have read := read_rendered rendered (by decide) fun _ listed => Table.entry_plain listed
  rw [Table.ofListing, reading_of_mnemonics _ _ bound] at read
  refine ⟨.ofMnemonics "Opcode" (Listing.mnemonics settings.source), read, rfl, rfl, rfl, table, ?_⟩
  rw [table]
  exact Reading.dispatches (variants_of_rendered rendered)

theorem enumeration_dispatches_words :
    ∃ (settings : Settings) (product : Product) (reading : Reading),
      settings.source = "some pop_ élan_2" ∧ settings.target = .rust ∧
      (Listing.mnemonics settings.source).length ≤ UInt32.size ∧
      settings.product.result = .ok product ∧ reader.read? product.text = some reading ∧
      reading.variants = [("Some", 0), ("Pop", 1), ("Élan2", 2)] ∧
      reading.fromCode? 2 = some "Élan2" ∧ reading.nameOf? "Élan2" = some "ÉLAN_2" ∧
      reading.fromCode? 3 = none := by
  let settings : Settings := { source := "some pop_ élan_2", target := .rust }
  have listing : Listing.mnemonics settings.source = [⟨"some"⟩, ⟨"pop_"⟩, ⟨"élan_2"⟩] := by
    decide +kernel
  have bound : (Listing.mnemonics settings.source).length ≤ UInt32.size := by
    rw [listing]
    decide
  have succeeds : settings.product.result.isOk = true := by decide +kernel
  cases accepted : settings.product.result with
  | error e =>
    rw [accepted] at succeeds
    cases succeeds
  | ok product =>
    obtain ⟨reading, read, variants, codeArms, nameArms, _⟩ :=
      enumeration_dispatches_as_table settings product rfl accepted bound
    rw [listing] at variants codeArms nameArms
    refine ⟨settings, product, reading, rfl, rfl, bound, accepted, read, variants.trans ?_, ?_, ?_,
      ?_⟩
    · decide +kernel
    · rw [Reading.fromCode?, codeArms]
      decide +kernel
    · rw [Reading.nameOf?, nameArms]
      decide +kernel
    · rw [Reading.fromCode?, codeArms]
      decide +kernel

end Opcodes.Artifact.Enumeration
