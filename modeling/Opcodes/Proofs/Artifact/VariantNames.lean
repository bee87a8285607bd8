import Opcodes.Proofs.Artifact.EnumerationReading
import Opcodes.Proofs.Mnemonic.Variant
import Opcodes.Proofs.Unicode.Identifier

/-! The variants of an enumeration as identifiers. Only the first character of a variant is looked
   at, and the others come from the listing, so that a word with a joiner in it makes a variant that
   is no identifier. -/
namespace Opcodes
open Unicode

/-- What an identifier asks of the pieces of a mnemonic, so that its variant is one. The head of a
   piece comes into the variant upper-cased, and its tail as it is. -/
structure Unicode.IdentifierClasses.Suits (classes : IdentifierClasses) (m : Mnemonic) : Prop where
  opens : ∃ c rest, m.pieces.head? = some (c :: rest) ∧
    ∃ d ∈ (upperChar c).head?, classes.start d = true
  heads : ∀ c rest, c :: rest ∈ m.pieces → ∀ d ∈ upperChar c, classes.continues d = true
  tails : ∀ c rest, c :: rest ∈ m.pieces → ∀ d ∈ rest, classes.continues d = true

namespace Mnemonic
variable {m : Mnemonic}

theorem identifier_variant_iff (classes : IdentifierClasses) :
    classes.isIdentifier m.variant = true ↔ classes.Suits m := by
  rw [IdentifierClasses.is_identifier_iff, variant_all]
  constructor
  · intro held
    obtain ⟨⟨d, first, start⟩, all⟩ := held
    have opens : ∃ c rest, m.pieces.head? = some (c :: rest) ∧
        ∃ d ∈ (upperChar c).head?, classes.start d = true := by
      cases pieces : m.pieces with
      | nil =>
        rw [variant_of_pieces, pieces] at first
        cases first
      | cons piece later =>
        obtain ⟨c, rest, rfl⟩ := piece_cons (pieces ▸ List.mem_cons_self)
        rw [variant_head pieces] at first
        exact ⟨c, rest, rfl, d, first, start⟩
    exact ⟨opens, fun c rest listed => (all c rest listed).1,
      fun c rest listed => (all c rest listed).2⟩
  · intro suits
    obtain ⟨c, rest, first, d, image, start⟩ := suits.opens
    obtain ⟨later, pieces⟩ := List.head?_eq_some_iff.mp first
    constructor
    · exact ⟨d, variant_head pieces ▸ image, start⟩
    · intro c rest listed
      exact ⟨suits.heads c rest listed, suits.tails c rest listed⟩

theorem joiner_uncased (c : Char) (joiner : isJoiner c = true) : isUncased c = true := by
  simp only [isJoiner, Bool.or_eq_true, decide_eq_true_eq] at joiner
  rcases joiner with rfl | rfl
  · decide +kernel
  · decide +kernel

theorem joiners_of_variant (m : Mnemonic) :
    m.variant.toList.filter isJoiner = m.name.toList.filter isJoiner := by
  rw [variant, String.toList_ofList]
  exact filter_variant_from joiner_uncased (by decide) true m.name.toList

theorem variant_without_joiner_iff :
    (∀ c ∈ m.variant.toList, isJoiner c = false) ↔ ∀ c ∈ m.name.toList, isJoiner c = false := by
  have absent (cs : List Char) : (∀ c ∈ cs, isJoiner c = false) ↔ cs.filter isJoiner = [] := by
    simp
  rw [absent, absent, joiners_of_variant]

end Mnemonic

namespace Artifact.Enumeration
open Text LineReader

def Reading.variantNames (reading : Reading) : List String := reading.variants.map Prod.fst

theorem legal_variant_opens {variant : String} (legal : isLegalVariant variant = true) :
    ∃ c ∈ variant.toList.head?, isAlphabetic c = true := by
  unfold isLegalVariant at legal
  split at legal
  · cases legal
  · rename_i c rest text
    rw [Bool.and_eq_true] at legal
    exact ⟨c, by simp [text], legal.1⟩

section Product
variable {settings : Settings} {product : Product} (rust : settings.target = .rust)
  (accepted : settings.product.result = .ok product)
include rust accepted

theorem read_variants :
    ∃ reading, reader.read? product.text = some reading ∧
      reading.variantNames = (Listing.mnemonics settings.source).map Mnemonic.variant := by
  obtain ⟨_, rendered⟩ := Settings.product_enumerated rust accepted
  refine ⟨_, read_rendered rendered (by decide) fun _ listed => Table.entry_plain listed, ?_⟩
  rw [← Table.mnemonics_of_entries (Listing.mnemonics settings.source), List.map_map]
  simp only [Reading.variantNames, Reading.ofArms, List.map_map]
  rfl

end Product

/-- When the variants of an enumeration are identifiers, given the two properties that make one. The
    enumeration itself only sees to it that a letter comes first. -/
theorem variants_are_identifiers_iff (classes : IdentifierClasses)
    (apart : ∀ c, isJoiner c = true → classes.continues c = false) (settings : Settings)
    (product : Product) (rust : settings.target = .rust)
    (accepted : settings.product.result = .ok product) :
    ∃ reading, reader.read? product.text = some reading ∧
      reading.variantNames = (Listing.mnemonics settings.source).map Mnemonic.variant ∧
      (∀ variant ∈ reading.variantNames, ∃ c ∈ variant.toList.head?, isAlphabetic c = true) ∧
      ((∀ variant ∈ reading.variantNames, classes.isIdentifier variant = true) ↔
        ∀ m ∈ Listing.mnemonics settings.source, classes.Suits m) ∧
      (∀ variant ∈ reading.variantNames, classes.isIdentifier variant = true →
        ∀ c ∈ variant.toList, isJoiner c = false) ∧
      ((∀ variant ∈ reading.variantNames, ∀ c ∈ variant.toList, isJoiner c = false) ↔
        ∀ m ∈ Listing.mnemonics settings.source, ∀ c ∈ m.name.toList, isJoiner c = false) := by
  obtain ⟨reading, read, names⟩ := read_variants rust accepted
  have legal : ∀ m ∈ Listing.mnemonics settings.source, isLegalVariant m.variant = true := by
    rw [← Table.mnemonics_of_entries (Listing.mnemonics settings.source)]
    exact render_legal (Settings.product_enumerated rust accepted).2
  refine ⟨reading, read, names, ?_, ?_, ?_, ?_⟩
  · rw [names, List.forall_mem_map]
    intro m listed
    exact legal_variant_opens (legal m listed)
  · rw [names, List.forall_mem_map]
    exact forall₂_congr fun m _ => Mnemonic.identifier_variant_iff classes
  · intro variant _ identifier c member
    by_contra joiner
    have broken := apart c (Bool.eq_true_of_not_eq_false joiner)
    have continues := (IdentifierClasses.is_identifier_iff.mp identifier).2 c member
    rw [broken] at continues
    cases continues
  · rw [names, List.forall_mem_map]
    exact forall₂_congr fun m _ => Mnemonic.variant_without_joiner_iff

theorem ascii_variants_are_identifiers :
    (∀ c, isJoiner c = true → IdentifierClasses.ascii.continues c = false) ∧
    ∃ (settings : Settings) (product : Product) (reading : Reading),
      settings.source = "_tmp2 close_if_x pop_" ∧ settings.target = .rust ∧
      settings.product.result = .ok product ∧ reader.read? product.text = some reading ∧
      reading.variantNames = ["Tmp2", "CloseIfX", "Pop"] ∧
      (∀ m ∈ Listing.mnemonics settings.source, IdentifierClasses.ascii.Suits m) ∧
      ∀ variant ∈ reading.variantNames, ∀ c ∈ variant.toList, isJoiner c = false := by
  have apart : ∀ c, isJoiner c = true → IdentifierClasses.ascii.continues c = false := by
    intro c joiner
    simp only [isJoiner, Bool.or_eq_true, decide_eq_true_eq] at joiner
    rcases joiner with rfl | rfl
    · decide
    · decide
  let settings : Settings := { source := "_tmp2 close_if_x pop_", target := .rust }
  have listing : Listing.mnemonics settings.source = [⟨"_tmp2"⟩, ⟨"close_if_x"⟩, ⟨"pop_"⟩] := by
    decide +kernel
  obtain ⟨product, accepted⟩ : ∃ product, settings.product.result = .ok product :=
    ok_of_succeeds (by decide +kernel)
  obtain ⟨reading, read, variants, _, suits, noJoiner, _⟩ :=
    variants_are_identifiers_iff .ascii apart settings product rfl accepted
  have names : reading.variantNames = ["Tmp2", "CloseIfX", "Pop"] := by
    rw [variants, listing]
    decide +kernel
  have identifiers : ∀ variant ∈ reading.variantNames,
      IdentifierClasses.ascii.isIdentifier variant = true := by
    rw [names]
    decide
  refine ⟨apart, settings, product, reading, rfl, rfl, accepted, read, names, ?_, ?_⟩
  · exact suits.mp identifiers
  · intro variant member
    exact noJoiner variant member (identifiers variant member)

theorem joiner_in_a_variant :
    ∃ (settings : Settings) (product : Product) (reading : Reading),
      settings.source = "a\u200db" ∧ settings.target = .rust ∧
      settings.product.result = .ok product ∧ reader.read? product.text = some reading ∧
      reading.variantNames = ["A\u200db"] ∧
      ∀ classes : IdentifierClasses, (∀ c, isJoiner c = true → classes.continues c = false) →
        classes.isIdentifier "A\u200db" = false := by
  let settings : Settings := { source := "a\u200db", target := .rust }
  have listing : Listing.mnemonics settings.source = [⟨"a\u200db"⟩] := by decide +kernel
  obtain ⟨product, accepted⟩ : ∃ product, settings.product.result = .ok product :=
    ok_of_succeeds (by decide +kernel)
  obtain ⟨reading, read, variants⟩ := read_variants rfl accepted
  have names : reading.variantNames = ["A\u200db"] := by
    rw [variants, listing]
    decide +kernel
  refine ⟨settings, product, reading, rfl, rfl, accepted, read, names, ?_⟩
  intro classes apart
  by_contra identifier
  have held := IdentifierClasses.is_identifier_iff.mp (Bool.eq_true_of_not_eq_false identifier)
  have continues := held.2 '\u200d' (by decide)
  rw [apart '\u200d' (by decide)] at continues
  cases continues

end Artifact.Enumeration
end Opcodes
