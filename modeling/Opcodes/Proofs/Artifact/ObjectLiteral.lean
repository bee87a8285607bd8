import Mathlib.Data.List.Count
import Opcodes.Proofs.Artifact.ScriptKeys
import Opcodes.Proofs.Table.Numbering

/-! The object of a script, as the language that the script is written in evaluates its literal,
   against the code map of the table. They agree but for one name: `__proto__` asks for a
   prototype. -/
namespace Opcodes.Artifact.Script
open Text LineReader Unicode

def prototypeKey : String := "__proto__"

/-- The own properties after one more definition. A later value takes the place of an earlier one.
    The prototype key makes no property, and a number is no prototype, so nothing comes of it. -/
def define (own : Std.TreeMap String Nat) (property : String × Nat) : Std.TreeMap String Nat :=
  if property.1 = prototypeKey then own else own.insert property.1 property.2

/-- The own properties of the object. Its literal is a syntax error where a key is no name, or where
    two definitions ask for a prototype. -/
def Reading.object? (classes : IdentifierClasses) (reading : Reading) :
    Option (Std.TreeMap String Nat) :=
  if reading.keyNames.all classes.isPropertyName && reading.keyNames.count prototypeKey ≤ 1 then
    some (reading.keys.foldl define ∅)
  else none

def IsCodeMap (table : Table) (own : Std.TreeMap String Nat) : Prop :=
  ∀ name : String, own[name]? = table.codeMap[name]?.map UInt32.toNat

theorem own_from (entries : List Entry) {own : Std.TreeMap String Nat}
    {found : Std.TreeMap String Code}
    (agree : ∀ name, own[name]? =
      if name = prototypeKey then none else found[name]?.map UInt32.toNat) (name : String) :
    ((entries.map fun e => (e.mnemonic.name, e.code.toNat)).foldl define own)[name]? =
      if name = prototypeKey then none
      else (entries.foldl (fun found entry => found.insert entry.mnemonic.name entry.code)
        found)[name]?.map UInt32.toNat := by
  induction entries generalizing own found with
  | nil => exact agree name
  | cons entry entries ih =>
    rw [List.map_cons, List.foldl_cons, List.foldl_cons]
    apply ih
    -- a definition and an insertion keep the two maps together, the other names as they were
    intro other
    unfold define
    by_cases prototype : entry.mnemonic.name = prototypeKey
    · rw [if_pos prototype, agree]
      by_cases same : other = prototypeKey
      · rw [if_pos same, if_pos same]
      · rw [if_neg same, if_neg same, Std.TreeMap.getElem?_insert, if_neg]
        rw [Std.LawfulEqCmp.compare_eq_iff_eq, prototype]
        exact Ne.symm same
    · rw [if_neg prototype, Std.TreeMap.getElem?_insert, Std.TreeMap.getElem?_insert, agree]
      by_cases same : entry.mnemonic.name = other
      · subst same
        simp [prototype]
      · simp [same]

theorem own_of_table (names : ScriptNames) (table : Table) (name : String) :
    ((Reading.ofTable names table).keys.foldl define ∅)[name]? =
      if name = prototypeKey then none else table.codeMap[name]?.map UInt32.toNat := by
  apply own_from
  intro other
  simp

section Object
variable {classes : IdentifierClasses} {names : ScriptNames} {source : String}

theorem object_of_listing {own : Std.TreeMap String Nat}
    (made : (Reading.ofTable names (.ofListing source)).object? classes = some own)
    (name : String) :
    own[name]? =
      if name = prototypeKey then none
      else (Table.ofListing source).codeMap[name]?.map UInt32.toNat := by
  unfold Reading.object? at made
  split at made
  · obtain rfl := Option.some.inj made
    exact own_of_table names (.ofListing source) name
  · cases made

theorem count_prototype (names : ScriptNames) (source : String) :
    (Reading.ofTable names (.ofListing source)).keyNames.count prototypeKey =
      (Listing.mnemonics source).count ⟨prototypeKey⟩ := by
  have injective : Function.Injective Mnemonic.name := by
    rintro ⟨a⟩ ⟨b⟩ same
    exact congrArg Mnemonic.mk same
  rw [key_names_of_listing]
  exact List.count_map_of_injective _ _ injective ⟨prototypeKey⟩

theorem no_object_iff :
    (Reading.ofTable names (.ofListing source)).object? classes = none ↔
      (∃ m ∈ Listing.mnemonics source, classes.isPropertyName m.name = false) ∨
        2 ≤ (Listing.mnemonics source).count ⟨prototypeKey⟩ := by
  have broken : (Reading.ofTable names (.ofListing source)).keyNames.all classes.isPropertyName =
      false ↔ ∃ m ∈ Listing.mnemonics source, classes.isPropertyName m.name = false := by
    rw [key_names_of_listing]
    simp
  rw [← broken, ← count_prototype names, Reading.object?]
  split
  · rename_i literal
    simp only [Bool.and_eq_true, decide_eq_true_eq] at literal
    obtain ⟨all, once⟩ := literal
    refine iff_of_false nofun ?_
    rintro (broken | twice)
    · rw [all] at broken
      cases broken
    · omega
  · rename_i literal
    simp only [Bool.and_eq_true, decide_eq_true_eq, not_and, not_le] at literal
    refine iff_of_true rfl ?_
    by_cases all : (Reading.ofTable names (.ofListing source)).keyNames.all
        classes.isPropertyName = true
    · exact Or.inr (literal all)
    · exact Or.inl (Bool.eq_false_iff.mpr all)

theorem object_agrees_iff :
    (∃ own, (Reading.ofTable names (.ofListing source)).object? classes = some own ∧
      IsCodeMap (.ofListing source) own) ↔
    ∀ m ∈ Listing.mnemonics source,
      m.name ≠ prototypeKey ∧ classes.isPropertyName m.name = true := by
  constructor
  · rintro ⟨own, made, agree⟩ m listed
    constructor
    · intro prototype
      have absent := object_of_listing made m.name
      rw [if_pos prototype, agree m.name, Option.map_eq_none_iff, Table.code_map_lookup] at absent
      exact Table.code_of_none_iff.mp absent listed
    · by_contra unnamed
      have broken : (Reading.ofTable names (.ofListing source)).object? classes = none :=
        no_object_iff.mpr (Or.inl ⟨m, listed, Bool.eq_false_iff.mpr unnamed⟩)
      rw [made] at broken
      cases broken
  · intro named
    cases made : (Reading.ofTable names (.ofListing source)).object? classes with
    | none =>
      rcases no_object_iff.mp made with ⟨m, listed, unnamed⟩ | twice
      · rw [(named m listed).2] at unnamed
        cases unnamed
      · have asked : (⟨prototypeKey⟩ : Mnemonic) ∈ Listing.mnemonics source :=
          List.count_pos_iff.mp (by omega)
        exact absurd rfl (named ⟨prototypeKey⟩ asked).1
    | some own =>
      refine ⟨own, rfl, ?_⟩
      intro name
      rw [object_of_listing made]
      by_cases prototype : name = prototypeKey
      · have unlisted : (Table.ofListing source).codeMap[name]? = none := by
          rw [Table.code_map_lookup]
          apply Table.code_of_none_iff.mpr
          intro listed
          exact (named ⟨name⟩ listed).1 prototype
        rw [if_pos prototype, unlisted, Option.map_none]
      · rw [if_neg prototype]

end Object

/-- What the object of a script holds. It agrees with the code map of the table in every name but
    the prototype key, so it is the code map just when no word is that key. There is no object where
    a key is no name, or where the prototype key comes twice. -/
theorem object_holds_code_map_iff (classes : IdentifierClasses) (source text : String)
    (names : ScriptNames) (map : Unbroken names.map) (function : Unbroken names.function)
    (rendered : render names (.ofListing source) = .ok text) :
    ∃ reading, reader.read? text = some reading ∧
      (reading.object? classes = none ↔
        (∃ m ∈ Listing.mnemonics source, classes.isPropertyName m.name = false) ∨
          2 ≤ (Listing.mnemonics source).count ⟨"__proto__"⟩) ∧
      (∀ own : Std.TreeMap String Nat, reading.object? classes = some own →
        own["__proto__"]? = none ∧
        ∀ name, name ≠ "__proto__" →
          own[name]? = (Table.ofListing source).codeMap[name]?.map UInt32.toNat ∧
          own[name]? = ((Table.ofListing source).codeOf? name).map UInt32.toNat) ∧
      ((∃ own, reading.object? classes = some own ∧ IsCodeMap (.ofListing source) own) ↔
        ∀ m ∈ Listing.mnemonics source,
          m.name ≠ "__proto__" ∧ classes.isPropertyName m.name = true) := by
  refine ⟨_, read_listing map function rendered, no_object_iff, ?_, object_agrees_iff⟩
  intro own made
  have absent := object_of_listing made prototypeKey
  rw [if_pos rfl] at absent
  refine ⟨absent, ?_⟩
  intro name other
  have apart : name ≠ prototypeKey := other
  have held := object_of_listing made name
  rw [if_neg apart] at held
  exact ⟨held, Table.code_map_lookup (.ofListing source) name ▸ held⟩

theorem object_holds_repeats :
    ∃ text reading, ∃ own : Std.TreeMap String Nat,
      render {} (.ofListing "add constructor add") = .ok text ∧
      reader.read? text = some reading ∧ reading.object? .ascii = some own ∧
      own["add"]? = some 2 ∧ own["constructor"]? = some 1 ∧ own["__proto__"]? = none := by
  have listing : Listing.mnemonics "add constructor add" =
      [⟨"add"⟩, ⟨"constructor"⟩, ⟨"add"⟩] := by
    decide +kernel
  have rendered := render_bare {} "add constructor add" (by decide +kernel)
  obtain ⟨reading, read, _, held, agrees⟩ := object_holds_code_map_iff .ascii _ _ {} (by decide)
    (by decide) rendered
  rw [listing] at agrees
  obtain ⟨own, made, _⟩ := agrees.mpr (by decide)
  obtain ⟨prototype, codes⟩ := held own made
  refine ⟨_, reading, own, rendered, read, made, ?_, ?_, prototype⟩
  · rw [(codes "add" (by decide)).2, Table.ofListing, listing]
    decide +kernel
  · rw [(codes "constructor" (by decide)).2, Table.ofListing, listing]
    decide +kernel

theorem prototype_key_is_lost :
    ∃ text reading, ∃ own : Std.TreeMap String Nat,
      render {} (.ofListing "__proto__ add") = .ok text ∧ reader.read? text = some reading ∧
      (Table.ofListing "__proto__ add").codeMap["__proto__"]? = some 0 ∧
      reading.object? .ascii = some own ∧ own["__proto__"]? = none ∧ own["add"]? = some 1 ∧
      ∀ classes, ¬ ∃ own, reading.object? classes = some own ∧
        IsCodeMap (.ofListing "__proto__ add") own := by
  have listing : Listing.mnemonics "__proto__ add" = [⟨"__proto__"⟩, ⟨"add"⟩] := by
    decide +kernel
  have rendered := render_bare {} "__proto__ add" (by decide +kernel)
  have code : (Table.ofListing "__proto__ add").codeMap["__proto__"]? = some 0 := by
    rw [Table.code_map_lookup, Table.ofListing, listing]
    decide +kernel
  cases made : (Reading.ofTable {} (.ofListing "__proto__ add")).object? .ascii with
  | none =>
    rw [no_object_iff, listing] at made
    exact absurd made (by decide)
  | some own =>
    have read := read_listing (by decide) (by decide) rendered
    refine ⟨_, _, own, rendered, read, code, made, ?_, ?_, ?_⟩
    · exact object_of_listing made prototypeKey
    · rw [object_of_listing made, Table.code_map_lookup, Table.ofListing, listing]
      decide +kernel
    · intro classes agrees
      have named := object_agrees_iff.mp agrees ⟨"__proto__"⟩ (by simp [listing])
      exact named.1 rfl

end Opcodes.Artifact.Script
