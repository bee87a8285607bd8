import Opcodes.Proofs.Artifact.EnumerationReading
import Opcodes.Proofs.Table.Repeats

/-! A listing that is numbered strictly. For a target that can hold repeats, it is made once with leave
   to repeat and once strictly, and the strict product is refused for just what the other one gives its
   first warning about. An enumeration is always made from a strict table. This does no harm: equal
   mnemonics have equal variants, so an enumeration of a table with a repeat would be refused anyway,
   though not always for the repeat, as a bad name before it is found first. -/
namespace Opcodes
open Artifact

theorem Artifact.Enumeration.distinct_of_rendered {enumName text : String} {ms : List Mnemonic}
    (rendered : render enumName (.ofMnemonics ms) = .ok text) : ms.Nodup := by
  exact (variants_of_rendered rendered).of_map Mnemonic.variant

namespace Settings

theorem refuses_as_asked {settings : Settings} (plain : settings.target.refusesRepeats = false)
    (strict : Bool) : { settings with strict := strict }.refusesRepeats = strict := by
  unfold refusesRepeats
  rw [plain, Bool.or_false]

/-- Strictly made, a listing without repeats gives the same product, and any other one is refused
    for its first repeat, the one of which the first warning tells. -/
theorem strictness_refuses_warned (settings : Settings)
    (target : settings.target = .js ∨ settings.target = .json)
    (bound : (Listing.mnemonics settings.source).length ≤ UInt32.size) :
    { settings with strict := true }.product.notices = [] ∧
    ({ settings with strict := false }.product.notices = [] →
      { settings with strict := true }.product = { settings with strict := false }.product) ∧
    ({ settings with strict := false }.product.notices = [] ↔
      (Listing.mnemonics settings.source).Nodup) ∧
    ∀ first rest, { settings with strict := false }.product.notices = first :: rest →
      ∃ r, first = .shadowed r ∧
        { settings with strict := true }.product.result =
          .error (.repeatedMnemonic r.mnemonic.name r.earlier r.later) ∧
        IsFirstRepeat (Listing.mnemonics settings.source) r := by
  have plain : settings.target.refusesRepeats = false := by
    rcases target with js | json
    · rw [js]
      rfl
    · rw [json]
      rfl
  have permissive := table_permissive (refuses_as_asked plain false)
  have strict := table_strict (refuses_as_asked plain true)
  have warned : { settings with strict := false }.product.notices =
      (Table.ofListing settings.source).repeats.map .shadowed := by
    change { settings with strict := false }.table.notices = _
    rw [permissive]
  refine ⟨?_, ?_, ?_, ?_⟩
  · change { settings with strict := true }.table.notices = _
    rw [strict]
  · intro quiet
    rw [warned, List.map_eq_nil_iff] at quiet
    have same : { settings with strict := true }.table = { settings with strict := false }.table := by
      rw [permissive, strict, Table.of_distinct_nil quiet, quiet]
      rfl
    unfold product
    rw [same]
    rfl
  · rw [warned, List.map_eq_nil_iff]
    exact Table.no_repeats_iff bound
  · intro first rest warnings
    rw [warned] at warnings
    obtain ⟨r, later, found, rfl, _⟩ := List.map_eq_cons_iff.mp warnings
    refine ⟨r, rfl, product_error_iff.mpr (Or.inl ?_), Table.first_repeat bound found⟩
    rw [strict]
    exact Table.of_distinct_cons found

theorem strictness_refuses_repeated_word :
    ∃ settings : Settings,
      settings.source = "add 2x pop_ add 2x" ∧ settings.target = .js ∧
      (Listing.mnemonics settings.source).length ≤ UInt32.size ∧
      { settings with strict := false }.product.notices =
        [.shadowed ⟨⟨"add"⟩, 0, 3⟩, .shadowed ⟨⟨"2x"⟩, 1, 4⟩] ∧
      { settings with strict := false }.product.result = .error (.notAnIdentifier "2x") ∧
      { settings with strict := true }.product.result = .error (.repeatedMnemonic "add" 0 3) := by
  let settings : Settings := { source := "add 2x pop_ add 2x" }
  have bound : (Listing.mnemonics settings.source).length ≤ UInt32.size := by
    have count : (Listing.mnemonics settings.source).length = 5 := by decide +kernel
    rw [count]
    decide
  have warnings : { settings with strict := false }.product.notices =
      [.shadowed ⟨⟨"add"⟩, 0, 3⟩, .shadowed ⟨⟨"2x"⟩, 1, 4⟩] := by
    decide +kernel
  have rejected : { settings with strict := false }.product.result =
      .error (.notAnIdentifier "2x") := by
    decide +kernel
  obtain ⟨_, _, _, refused⟩ := strictness_refuses_warned settings (Or.inl rfl) bound
  obtain ⟨r, first, repeated, _⟩ := refused _ _ warnings
  obtain rfl := Notice.shadowed.inj first
  exact ⟨settings, rfl, rfl, bound, warnings, rejected, repeated⟩

section Product
variable {settings : Settings} (rust : settings.target = .rust)
include rust

theorem product_of_distinct (distinct : (Listing.mnemonics settings.source).Nodup) :
    settings.product.result =
      (Enumeration.render "Opcode" (.ofListing settings.source)).map
        fun text => ⟨.ofListing settings.source, text⟩ := by
  have strict : settings.refusesRepeats = true := by
    rw [refusesRepeats, rust]
    exact Bool.or_true _
  have numbered := Table.of_distinct_nil (Table.no_repeats_of_distinct distinct)
  simp only [product, table_strict strict, numbered]
  change (settings.render (.ofListing settings.source) >>=
    fun text => .ok (⟨.ofListing settings.source, text⟩ : Product)) = _
  rw [render, rust]
  cases Enumeration.render "Opcode" (.ofListing settings.source) with
  | error e => rfl
  | ok text => rfl

end Product

/-- The strict way to an enumeration and the rendering of the permissive table accept the same
    listings and give the same text. A listing that is refused for a repeat is refused by the
    rendering as well, and without a repeat the errors are the same. -/
theorem forced_strictness_accepts_same (settings : Settings) (rust : settings.target = .rust) :
    (∀ table text, settings.product.result = .ok ⟨table, text⟩ ↔
      table = .ofListing settings.source ∧
        Enumeration.render "Opcode" (.ofListing settings.source) = .ok text) ∧
    (∀ mnemonic first second,
      settings.product.result = .error (.repeatedMnemonic mnemonic first second) →
        ∃ e, Enumeration.render "Opcode" (.ofListing settings.source) = .error e ∧
          e.BlamesVariant) ∧
    ((Listing.mnemonics settings.source).Nodup → ∀ e, settings.product.result = .error e ↔
      Enumeration.render "Opcode" (.ofListing settings.source) = .error e) := by
  refine ⟨?_, ?_, ?_⟩
  · intro table text
    constructor
    · intro accepted
      exact product_enumerated rust accepted
    · intro parts
      obtain ⟨rfl, rendered⟩ := parts
      rw [product_of_distinct rust (Enumeration.distinct_of_rendered rendered), rendered]
      rfl
  · intro mnemonic first second refused
    cases rendered : Enumeration.render "Opcode" (.ofListing settings.source) with
    | error e =>
      obtain ⟨entry, _, blamed⟩ := Enumeration.render_error rendered
      exact ⟨e, rfl, blamed.blames_variant⟩
    | ok text =>
      rw [product_of_distinct rust (Enumeration.distinct_of_rendered rendered), rendered] at refused
      cases refused
  · intro distinct e
    rw [product_of_distinct rust distinct]
    cases Enumeration.render "Opcode" (.ofListing settings.source) with
    | error reason => simp [Except.map]
    | ok text => simp [Except.map]

theorem digit_hides_repeat :
    ∃ repeated clashing : Settings, repeated.source = "add 2x add" ∧ repeated.target = .rust ∧
      repeated.product.result = .error (.repeatedMnemonic "add" 0 2) ∧
      (∃ e, Enumeration.render "Opcode" (.ofListing repeated.source) = .error e ∧
        e.BlamesVariant) ∧
      clashing.source = "pop pop_" ∧ clashing.target = .rust ∧
      (Listing.mnemonics clashing.source).Nodup ∧
      Enumeration.render "Opcode" (.ofListing clashing.source) =
        .error (.variantClash "Pop" 0 1) ∧
      clashing.product.result = .error (.variantClash "Pop" 0 1) := by
  let repeated : Settings := { source := "add 2x add", target := .rust }
  let clashing : Settings := { source := "pop pop_", target := .rust }
  have refused : repeated.product.result = .error (.repeatedMnemonic "add" 0 2) := by
    decide +kernel
  have distinct : (Listing.mnemonics clashing.source).Nodup := by decide +kernel
  have rendered : Enumeration.render "Opcode" (.ofListing clashing.source) =
      .error (.variantClash "Pop" 0 1) := by
    decide +kernel
  obtain ⟨_, blamed, _⟩ := forced_strictness_accepts_same repeated rfl
  obtain ⟨_, _, same⟩ := forced_strictness_accepts_same clashing rfl
  exact ⟨repeated, clashing, rfl, rfl, refused, blamed _ _ _ refused, rfl, rfl, distinct, rendered,
    (same distinct _).mpr rendered⟩

end Settings
end Opcodes
