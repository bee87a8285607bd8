import Mathlib.Data.String.Basic

/-! Texts ordered by their bytes in UTF-8. A character is a lead byte and up to three continuation
   bytes. The lead byte grows with the number of bytes and holds the highest digits of the code
   point; the others hold its digits to base 64. So the first byte in which two texts differ tells
   the same as the first code point in which they differ. -/
namespace Opcodes.Text

def utf8 (text : String) : List UInt8 := text.toUTF8.data.toList

def codePoints (text : String) : List Nat := text.toList.map Char.toNat

/-- The lowest `count` digits to base 64. -/
def continuation : Nat → Nat → List UInt8
  | 0, _ => []
  | count + 1, n => .ofNat (n / 64 ^ count % 64 + 128) :: continuation count n

def continuationCount (n : Nat) : Nat :=
  if n ≤ 0x7F then 0 else if n ≤ 0x7FF then 1 else if n ≤ 0xFFFF then 2 else 3

/-- The first byte that leads as many continuation bytes; from `0xF8` on a byte leads nothing. -/
def leadMark : Nat → Nat
  | 0 => 0
  | 1 => 0xC0
  | 2 => 0xE0
  | 3 => 0xF0
  | _ => 0xF8

def lead (n : Nat) : Nat := n / 64 ^ continuationCount n + leadMark (continuationCount n)

theorem char_less_iff {c d : Char} : c < d ↔ c.toNat < d.toNat := UInt32.lt_iff_toNat_lt

theorem code_point_bound (c : Char) : c.toNat < 0x110000 := by
  have valid := c.valid
  simp only [UInt32.isValidChar, Nat.isValidChar, Char.toNat_val] at valid
  omega

theorem encoded_char (c : Char) :
    String.utf8EncodeChar c =
      .ofNat (lead c.toNat) :: continuation (continuationCount c.toNat) c.toNat := by
  have bound := code_point_bound c
  simp only [String.utf8EncodeChar, lead, continuationCount, Char.toNat_val]
  split
  · simp [continuation, leadMark]
  · split
    · have top : c.toNat / 64 % 32 = c.toNat / 64 := Nat.mod_eq_of_lt (by omega)
      simp [continuation, leadMark, top]
    · split
      · have top : c.toNat / 4096 % 16 = c.toNat / 4096 := Nat.mod_eq_of_lt (by omega)
        simp [continuation, leadMark, top]
      · have top : c.toNat / 262144 % 8 = c.toNat / 262144 := Nat.mod_eq_of_lt (by omega)
        simp [continuation, leadMark, top]

theorem byte_less {a b : Nat} (less : a < b) (bound : b < 256) :
    UInt8.ofNat a < UInt8.ofNat b := by
  rw [UInt8.lt_iff_toNat_lt, UInt8.toNat_ofNat', UInt8.toNat_ofNat']
  omega

theorem continuation_less {count m n : Nat} (higher : m / 64 ^ count = n / 64 ^ count)
    (less : m < n) (xs ys : List UInt8) :
    continuation count m ++ xs < continuation count n ++ ys := by
  induction count with
  | zero =>
    simp only [Nat.pow_zero, Nat.div_one] at higher
    omega
  | succ count ih =>
    simp only [continuation, List.cons_append, List.cons_lt_cons_iff]
    by_cases same : m / 64 ^ count = n / 64 ^ count
    · exact Or.inr ⟨by rw [same], ih same⟩
    · have ordered : m / 64 ^ count ≤ n / 64 ^ count := Nat.div_le_div_right less.le
      simp only [Nat.pow_succ, ← Nat.div_div_eq_div_mul] at higher
      exact Or.inl (byte_less (by omega) (by omega))

theorem lead_mark_mono : Monotone leadMark := by
  apply monotone_nat_of_le_succ
  intro count
  match count with
  | 0 | 1 | 2 | 3 => decide
  | _ + 4 => exact le_rfl

theorem lead_mark_bound (count : Nat) : leadMark count ≤ 0xF8 := by
  unfold leadMark
  split <;> decide

theorem continuation_count_mono : Monotone continuationCount := by
  intro m n ordered
  simp only [continuationCount]
  grind

theorem lead_range {n : Nat} (bound : n < 0x110000) :
    leadMark (continuationCount n) ≤ lead n ∧ lead n < leadMark (continuationCount n + 1) := by
  refine ⟨Nat.le_add_left _ _, ?_⟩
  simp only [lead, continuationCount]
  split
  · simp only [leadMark]
    omega
  · split
    · simp only [leadMark]
      omega
    · split <;> simp only [leadMark] <;> omega

theorem lead_decides {m n : Nat} (less : m < n) (bound : n < 0x110000) :
    lead m < lead n ∨ lead m = lead n ∧ continuationCount m = continuationCount n ∧
      m / 64 ^ continuationCount n = n / 64 ^ continuationCount n := by
  rcases (continuation_count_mono less.le).eq_or_lt with same | fewer
  · have ordered : m / 64 ^ continuationCount n ≤ n / 64 ^ continuationCount n :=
      Nat.div_le_div_right less.le
    rcases ordered.eq_or_lt with higher | differs
    · exact Or.inr ⟨by simp only [lead, same, higher], same, higher⟩
    · exact Or.inl (by simpa only [lead, same] using Nat.add_lt_add_right differs _)
  · have marks := lead_mark_mono fewer
    have before := (lead_range (less.trans bound)).2
    have after := (lead_range bound).1
    exact Or.inl (before.trans_le (marks.trans after))

theorem char_bytes_less {c d : Char} (less : c < d) (xs ys : List UInt8) :
    String.utf8EncodeChar c ++ xs < String.utf8EncodeChar d ++ ys := by
  have bound := code_point_bound d
  have mark := lead_mark_bound (continuationCount d.toNat + 1)
  have below := (lead_range bound).2
  rw [encoded_char, encoded_char, List.cons_append, List.cons_append, List.cons_lt_cons_iff]
  rcases lead_decides (char_less_iff.mp less) bound with first | ⟨same, count, higher⟩
  · exact Or.inl (byte_less first (by omega))
  · rw [same, count]
    exact Or.inr ⟨rfl, continuation_less higher (char_less_iff.mp less) xs ys⟩

theorem append_less_iff {α : Type} [LT α] [Std.Irrefl (α := α) (· < ·)] (zs xs ys : List α) :
    zs ++ xs < zs ++ ys ↔ xs < ys := by
  induction zs with
  | nil => rfl
  | cons z zs ih => simp only [List.cons_append, List.cons_lt_cons_self, ih]

/-- Texts spelled character by character are in the order of their characters, where the spelling of
    the first different ones decides and no character is spelled by nothing. -/
theorem spelled_less_iff {α : Type} [LT α] [Std.Asymm (α := α) (· < ·)] {spell : Char → List α}
    (spelled : ∀ c, spell c ≠ [])
    (decides : ∀ c d, c < d → ∀ xs ys, spell c ++ xs < spell d ++ ys) (cs ds : List Char) :
    cs.flatMap spell < ds.flatMap spell ↔ cs < ds := by
  induction cs generalizing ds with
  | nil =>
    cases ds with
    | nil => simp
    | cons d ds =>
      obtain ⟨first, later, spelling⟩ := List.exists_cons_of_ne_nil (spelled d)
      simp [spelling]
  | cons c cs ih =>
    cases ds with
    | nil => simp
    | cons d ds =>
      rw [List.flatMap_cons, List.flatMap_cons, List.cons_lt_cons_iff]
      rcases lt_trichotomy c d with first | same | later
      · exact iff_of_true (decides c d first _ _) (Or.inl first)
      · subst d
        simp [append_less_iff, ih]
      · have bytes := decides d c later (ds.flatMap spell) (cs.flatMap spell)
        apply iff_of_false (asymm bytes)
        rintro (first | ⟨same, _⟩)
        · exact lt_asymm first later
        · exact later.ne' same

theorem utf8_of_chars (text : String) :
    utf8 text = text.toList.flatMap String.utf8EncodeChar := by
  rw [utf8, String.toUTF8_eq_toByteArray, ← String.utf8Encode_toList, List.utf8Encode,
    List.toList_data_toByteArray]

theorem utf8_less_iff (a b : String) : utf8 a < utf8 b ↔ a < b := by
  rw [utf8_of_chars, utf8_of_chars, String.lt_iff]
  apply spelled_less_iff
  · intro c
    simp [encoded_char]
  · intro c d less
    exact char_bytes_less less

theorem code_points_less_iff (a b : String) : codePoints a < codePoints b ↔ a < b := by
  rw [codePoints, codePoints, List.map_eq_flatMap, List.map_eq_flatMap, String.lt_iff]
  apply spelled_less_iff
  · intro c
    simp
  · intro c d less xs ys
    exact List.cons_lt_cons_iff.mpr (Or.inl (char_less_iff.mp less))

end Opcodes.Text
