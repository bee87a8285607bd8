import Opcodes.Proofs.Unicode.Settling

/-! The variant of a mnemonic. It is made piece by piece, from what stands between underscores, though
   it is read off the name in one go. Underscores go and heads are upper-cased, so a variant has the
   same upper-cased characters as the name apart from underscores, and is its own variant. -/
namespace Opcodes.Mnemonic
open Unicode

def pieces (m : Mnemonic) : List (List Char) := (m.name.toList.splitOn '_').filter (· ≠ [])

theorem piece_cons {m : Mnemonic} {piece : List Char} (member : piece ∈ m.pieces) :
    ∃ c rest, piece = c :: rest := by
  apply List.exists_cons_of_ne_nil
  simpa using (List.mem_filter.mp member).2

def capitalized : List Char → List Char
  | [] => []
  | c :: rest => upperChar c ++ rest

/-- Where the reading starts inside a piece, the rest of this piece stays as it is. -/
theorem variant_from_split (atHead : Bool) (cs : List Char) :
    ∃ first later, cs.splitOn '_' = first :: later ∧
      variantFrom atHead cs =
        (if atHead then capitalized first else first) ++ later.flatMap capitalized := by
  induction cs generalizing atHead with
  | nil => exact ⟨[], [], rfl, by simp [variantFrom, capitalized]⟩
  | cons c cs ih =>
    -- an underscore ends an empty piece here, and any other character joins the piece after it
    rw [List.splitOn_eq_splitOnP, List.splitOnP_cons_eq_if_modifyHead, variantFrom]
    by_cases gap : c = '_'
    · obtain ⟨first, later, split, variant⟩ := ih true
      refine ⟨[], first :: later, ?_, ?_⟩
      · rw [if_pos (by simpa using gap), ← List.splitOn_eq_splitOnP, split]
      · rw [if_pos gap, variant]
        simp [capitalized]
    · obtain ⟨first, later, split, variant⟩ := ih false
      refine ⟨c :: first, later, ?_, ?_⟩
      · rw [if_neg (by simpa using gap), ← List.splitOn_eq_splitOnP, split, List.modifyHead_cons]
      · rw [if_neg gap, variant]
        cases atHead with
        | true => simp [capitalized]
        | false => simp

theorem capitalized_nonempty (parts : List (List Char)) :
    (parts.filter (· ≠ [])).flatMap capitalized = parts.flatMap capitalized := by
  induction parts with
  | nil => rfl
  | cons part parts ih =>
    cases part with
    | nil => simpa [capitalized] using ih
    | cons c rest => simpa using ih

theorem variant_of_pieces (m : Mnemonic) : m.variant.toList = m.pieces.flatMap capitalized := by
  obtain ⟨first, later, split, variant⟩ := variant_from_split true m.name.toList
  rw [Mnemonic.variant, String.toList_ofList, variant, pieces, capitalized_nonempty, split]
  rfl

theorem filter_variant_from {p : Char → Bool}
    (uncased : ∀ c, p c = true → isUncased c = true) (underscore : p '_' = false)
    (atHead : Bool) (cs : List Char) :
    (variantFrom atHead cs).filter p = cs.filter p := by
  induction cs generalizing atHead with
  | nil => rfl
  | cons c cs ih =>
    rw [variantFrom]
    by_cases gap : c = '_'
    · rw [if_pos gap, ih, gap, List.filter_cons_of_neg (by simp [underscore])]
    · have first : (if atHead then upperChar c else [c]).filter p = [c].filter p := by
        cases atHead with
        | true => exact filter_upper_char uncased c
        | false => rfl
      rw [if_neg gap, List.filter_append, first, ih, ← List.filter_append]
      rfl

section Variant
variable {m : Mnemonic}

theorem variant_head {c : Char} {rest : List Char} {later : List (List Char)}
    (pieces : m.pieces = (c :: rest) :: later) :
    m.variant.toList.head? = (upperChar c).head? := by
  obtain ⟨d, images, upper⟩ := upper_char_cons c
  rw [variant_of_pieces, pieces, List.flatMap_cons, capitalized, upper]
  rfl

theorem variant_all (p : Char → Prop) :
    (∀ d ∈ m.variant.toList, p d) ↔
      ∀ c rest, c :: rest ∈ m.pieces → (∀ d ∈ upperChar c, p d) ∧ ∀ d ∈ rest, p d := by
  rw [variant_of_pieces]
  constructor
  · intro all c rest listed
    apply List.forall_mem_append.mp
    intro d member
    exact all d (List.mem_flatMap.mpr ⟨c :: rest, listed, member⟩)
  · intro parts d member
    obtain ⟨piece, listed, inside⟩ := List.mem_flatMap.mp member
    obtain ⟨c, rest, rfl⟩ := piece_cons listed
    exact List.forall_mem_append.mpr (parts c rest listed) d inside

end Variant

theorem underscore_uncased : isUncased '_' = true := by decide +kernel

theorem variant_from_no_underscore (atHead : Bool) (cs : List Char) :
    '_' ∉ variantFrom atHead cs := by
  induction cs generalizing atHead with
  | nil => simp [variantFrom]
  | cons c cs ih =>
    by_cases gap : c = '_'
    · simp [variantFrom, gap, ih]
    · intro member
      simp only [variantFrom, gap, if_false, List.mem_append] at member
      rcases member with head | later
      · cases atHead with
        | true => exact gap (becomes_uncased underscore_uncased head)
        | false => exact gap (List.mem_singleton.mp head).symm
      · exact ih false later

theorem variant_from_part {cs : List Char} (whole : '_' ∉ cs) : variantFrom false cs = cs := by
  induction cs with
  | nil => rfl
  | cons c cs ih =>
    have apart : c ≠ '_' := fun same => whole (same ▸ List.mem_cons_self)
    have rest := ih fun member => whole (List.mem_cons_of_mem c member)
    simp [variantFrom, apart, rest]

theorem variant_from_opens {cs : List Char} {d : Char} {later : List Char}
    (variant : variantFrom true cs = d :: later) : ∃ c, d ∈ upperChar c := by
  induction cs with
  | nil => cases variant
  | cons c cs ih =>
    by_cases gap : c = '_'
    · simp only [variantFrom, gap, if_true] at variant
      exact ih variant
    · obtain ⟨first, images, upper⟩ := upper_char_cons c
      simp only [variantFrom, gap, if_false, if_true, upper, List.cons_append,
        List.cons.injEq] at variant
      exact ⟨c, by simp [upper, variant.1]⟩

theorem upper_variant_from (atHead : Bool) (cs : List Char) :
    (variantFrom atHead cs).flatMap upperChar = (cs.filter (· ≠ '_')).flatMap upperChar := by
  induction cs generalizing atHead with
  | nil => rfl
  | cons c cs ih =>
    by_cases gap : c = '_'
    · simp [variantFrom, gap, ih]
    · have head : (if atHead then upperChar c else [c]).flatMap upperChar = upperChar c := by
        cases atHead with
        | true => exact upper_char_twice c
        | false => simp
      simp [variantFrom, gap, ih, head]

theorem upper_keeps_underscores (cs : List Char) :
    (cs.filter (· ≠ '_')).flatMap upperChar = (cs.flatMap upperChar).filter (· ≠ '_') := by
  induction cs with
  | nil => rfl
  | cons c cs ih =>
    by_cases gap : c = '_'
    · simpa [gap, upper_char_uncased underscore_uncased] using ih
    · have kept : (upperChar c).filter (· ≠ '_') = upperChar c := by
        apply List.filter_eq_self.mpr
        intro d member
        have apart : d ≠ '_' := by
          rintro rfl
          exact gap (becomes_uncased underscore_uncased member)
        simp [apart]
      simp only [List.flatMap_cons, List.filter_append, kept, ← ih]
      simp [gap]

def withoutUnderscores (text : String) : String := String.ofList (text.toList.filter (· ≠ '_'))

theorem upper_variant (m : Mnemonic) : Unicode.upper m.variant = withoutUnderscores m.upper := by
  simp only [Unicode.upper, variant, withoutUnderscores, Mnemonic.upper, String.toList_ofList,
    upper_variant_from, upper_keeps_underscores]

theorem variant_again (m : Mnemonic) : (⟨m.variant⟩ : Mnemonic).variant = m.variant := by
  have whole := variant_from_no_underscore true m.name.toList
  simp only [variant, String.toList_ofList]
  cases made : variantFrom true m.name.toList with
  | nil => rfl
  | cons d later =>
    obtain ⟨c, image⟩ := variant_from_opens made
    rw [made, List.mem_cons, not_or] at whole
    have rest := variant_from_part whole.2
    simp [variantFrom, Ne.symm whole.1, upper_char_settled image, rest]

theorem variant_join (a b : String) :
    (⟨a ++ "_" ++ b⟩ : Mnemonic).variant = (⟨a⟩ : Mnemonic).variant ++ (⟨b⟩ : Mnemonic).variant := by
  have text : (a ++ "_" ++ b).toList = a.toList ++ '_' :: b.toList := by simp
  simp only [variant, text, variant_from_append, String.ofList_append]

end Opcodes.Mnemonic
