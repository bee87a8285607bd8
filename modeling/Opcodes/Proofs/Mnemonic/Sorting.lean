import Mathlib.Data.List.Destutter
import Mathlib.Data.List.Sort
import Opcodes.Mnemonic.Variant
import Opcodes.Proofs.Text.ByteOrder

/-! Sorted mnemonics. Equal ones are neighbours after sorting, so it is enough to remove repeated
   neighbours. What is left increases strictly and depends on nothing but the set of the names: not
   on their order, and not on how often each is listed. -/
namespace Opcodes.Mnemonic
open Text

def IsBefore (a b : Mnemonic) : Prop := utf8 a.name < utf8 b.name

section Order
variable {a b c : Mnemonic}

theorem precedes_iff : precedes a b = true ↔ a.name ≤ b.name := by
  simp [precedes]

theorem precedes_iff_bytes : precedes a b = true ↔ utf8 a.name ≤ utf8 b.name := by
  rw [precedes_iff]
  exact not_congr (utf8_less_iff b.name a.name).symm

theorem before_iff_code_points : IsBefore a b ↔ codePoints a.name < codePoints b.name := by
  rw [IsBefore, utf8_less_iff, code_points_less_iff]

theorem precedes_trans (first : precedes a b = true) (second : precedes b c = true) :
    precedes a c = true := by
  rw [precedes_iff] at first second ⊢
  exact first.trans second

theorem precedes_total : (precedes a b || precedes b a) = true := by
  rw [Bool.or_eq_true, precedes_iff, precedes_iff]
  exact le_total a.name b.name

theorem same_of_name (name : a.name = b.name) : a = b := by
  cases a
  cases b
  exact congrArg Mnemonic.mk name

theorem precedes_antisymm (first : precedes a b = true) (second : precedes b a = true) : a = b := by
  rw [precedes_iff] at first second
  exact same_of_name (first.antisymm second)

theorem before_of_distinct (ordered : precedes a b = true) (distinct : a ≠ b) : IsBefore a b := by
  rw [precedes_iff] at ordered
  rw [IsBefore, utf8_less_iff]
  exact lt_of_le_of_ne ordered fun name => distinct (same_of_name name)

theorem before_or_same_or_after (a b : Mnemonic) : IsBefore a b ∨ a = b ∨ IsBefore b a := by
  rw [IsBefore, IsBefore, utf8_less_iff, utf8_less_iff]
  rcases lt_trichotomy a.name b.name with first | same | later
  · exact Or.inl first
  · exact Or.inr (Or.inl (same_of_name same))
  · exact Or.inr (Or.inr later)

end Order

instance : Std.Asymm IsBefore := ⟨fun _ _ before => asymm (r := (· < ·)) before⟩

section Erase
variable {α : Type} [DecidableEq α]

theorem erase_reps_from (a : α) (rest kept : List α) :
    List.eraseRepsBy.loop (· == ·) a rest kept = kept.reverse ++ rest.destutter' (· ≠ ·) a := by
  induction rest generalizing a kept with
  | nil => simp [List.eraseRepsBy.loop]
  | cons b rest ih =>
    by_cases same : a = b
    · simp [List.eraseRepsBy.loop, same, ih]
    · have apart : (a == b) = false := beq_eq_false_iff_ne.mpr same
      simp [List.eraseRepsBy.loop, same, apart, ih]

theorem erase_reps_eq_destutter (xs : List α) : xs.eraseReps = xs.destutter (· ≠ ·) := by
  cases xs with
  | nil => rfl
  | cons a xs => exact erase_reps_from a xs []

end Erase

theorem sorted (ms : List Mnemonic) :
    (ms.mergeSort precedes).Pairwise fun a b => precedes a b = true := by
  apply List.pairwise_mergeSort
  · intro a b c
    exact precedes_trans
  · intro a b
    exact precedes_total

theorem sort_distinct_eq_dedup (ms : List Mnemonic) :
    sortDistinct ms = (ms.mergeSort precedes).dedup := by
  have antisymm : Std.Antisymm fun a b => precedes a b = true := ⟨fun _ _ => precedes_antisymm⟩
  rw [sortDistinct, erase_reps_eq_destutter, (sorted ms).destutter_eq_dedup]

theorem mem_sort_distinct {ms : List Mnemonic} {m : Mnemonic} : m ∈ sortDistinct ms ↔ m ∈ ms := by
  rw [sort_distinct_eq_dedup, List.mem_dedup, List.mem_mergeSort]

theorem sort_distinct_increasing (ms : List Mnemonic) : (sortDistinct ms).Pairwise IsBefore := by
  rw [sort_distinct_eq_dedup]
  have ordered := (sorted ms).sublist (List.dedup_sublist _)
  have distinct := List.nodup_dedup (ms.mergeSort precedes)
  apply (ordered.and distinct).imp
  rintro a b ⟨first, apart⟩
  exact before_of_distinct first apart

theorem mem_names {ms : List Mnemonic} {name : String} :
    name ∈ ms.map (·.name) ↔ ⟨name⟩ ∈ ms := by
  rw [List.mem_map]
  constructor
  · rintro ⟨m, listed, rfl⟩
    exact listed
  · intro listed
    exact ⟨⟨name⟩, listed, rfl⟩

/-- The sorted list is the only one that increases and has the same members. -/
theorem eq_sort_distinct_iff {ms result : List Mnemonic} :
    result = sortDistinct ms ↔ result.Pairwise IsBefore ∧ ∀ m, m ∈ result ↔ m ∈ ms := by
  constructor
  · rintro rfl
    exact ⟨sort_distinct_increasing ms, fun _ => mem_sort_distinct⟩
  · rintro ⟨increasing, members⟩
    apply increasing.eq_of_mem_iff (sort_distinct_increasing ms)
    intro m
    rw [members, mem_sort_distinct]

theorem sort_distinct_same_iff {ms other : List Mnemonic} :
    sortDistinct ms = sortDistinct other ↔
      ∀ name, name ∈ ms.map (·.name) ↔ name ∈ other.map (·.name) := by
  rw [eq_sort_distinct_iff, and_iff_right (sort_distinct_increasing ms)]
  simp only [mem_sort_distinct, mem_names]
  constructor
  · intro members name
    exact members ⟨name⟩
  · intro names m
    exact names m.name

theorem sort_distinct_again (ms : List Mnemonic) :
    sortDistinct (sortDistinct ms) = sortDistinct ms := by
  apply sort_distinct_same_iff.mpr
  intro name
  rw [mem_names, mem_names, mem_sort_distinct]

/-- Mnemonics are sorted by the bytes of their names, which is the same as by the code points, and any
    two different ones are in one order or the other. The sorted list without repeated neighbours
    increases strictly and has the members of the list that it is made from. So it tells the set of
    the names and no more, and to sort again changes nothing. -/
theorem sorting_is_canonical :
    (∀ a b, precedes a b = true ↔ utf8 a.name ≤ utf8 b.name) ∧
    (∀ a b, IsBefore a b ↔ codePoints a.name < codePoints b.name) ∧
    (∀ a b, IsBefore a b ∨ a = b ∨ IsBefore b a) ∧
    ∀ ms : List Mnemonic,
      (sortDistinct ms).Pairwise IsBefore ∧
      (sortDistinct ms).Pairwise (fun a b => codePoints a.name < codePoints b.name) ∧
      (∀ m, m ∈ sortDistinct ms ↔ m ∈ ms) ∧
      (∀ other, sortDistinct ms = sortDistinct other ↔
        ∀ name, name ∈ ms.map (·.name) ↔ name ∈ other.map (·.name)) ∧
      sortDistinct (sortDistinct ms) = sortDistinct ms := by
  refine ⟨fun _ _ => precedes_iff_bytes, fun _ _ => before_iff_code_points,
    before_or_same_or_after, ?_⟩
  intro ms
  have increasing := sort_distinct_increasing ms
  have codes := increasing.imp before_iff_code_points.mp
  exact ⟨increasing, codes, fun _ => mem_sort_distinct, fun _ => sort_distinct_same_iff,
    sort_distinct_again ms⟩

/-- A character of three bytes comes before one of four. -/
example : sortDistinct [⟨"𐀀"⟩, ⟨"ｱ"⟩, ⟨"𐀀"⟩] = [⟨"ｱ"⟩, ⟨"𐀀"⟩] := by
  cbv

end Opcodes.Mnemonic
