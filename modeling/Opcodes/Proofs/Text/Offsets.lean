import Mathlib.Data.List.Basic

/-! Characters of a text and the byte offsets, in its UTF-8, at which they begin. An offset is
   on a character boundary when the library's own validity predicate for positions holds. -/
namespace Opcodes.Text

def bytes (cs : List Char) : Nat := (String.ofList cs).utf8ByteSize

@[simp] theorem bytes_nil : bytes [] = 0 := rfl

@[simp] theorem bytes_append (cs ds : List Char) : bytes (cs ++ ds) = bytes cs + bytes ds := by
  simp [bytes, String.ofList_append]

@[simp] theorem bytes_cons (c : Char) (cs : List Char) : bytes (c :: cs) = c.utf8Size + bytes cs := by
  have single : bytes [c] = c.utf8Size := by
    rw [bytes, ← String.singleton_eq_ofList, String.utf8ByteSize_singleton]
  rw [← single, ← bytes_append]
  rfl

theorem bytes_positive {cs : List Char} (nonempty : cs ≠ []) : 0 < bytes cs := by
  cases cs with
  | nil => exact absurd rfl nonempty
  | cons c cs =>
    have := c.utf8Size_pos
    simp only [bytes_cons]
    omega

/-- The character `c` of the text begins at the byte `offset`. -/
def CharAt (source : String) (offset : Nat) (c : Char) : Prop :=
  ∃ before after, source.toList = before ++ c :: after ∧ offset = bytes before

/-- The offset lies between two characters, or at an end of the text. -/
def OnBoundary (source : String) (offset : Nat) : Prop :=
  String.Pos.Raw.IsValid source ⟨offset⟩

theorem on_boundary_iff (source : String) (offset : Nat) :
    OnBoundary source offset ↔
      ∃ before after, source.toList = before ++ after ∧ offset = bytes before := by
  constructor
  · intro valid
    obtain ⟨before, after, whole, place⟩ := String.Pos.Raw.isValid_iff_exists_append.mp valid
    refine ⟨before.toList, after.toList, by rw [whole, String.toList_append], ?_⟩
    simpa [bytes] using congrArg String.Pos.Raw.byteIdx place
  · rintro ⟨before, after, whole, rfl⟩
    refine String.Pos.Raw.isValid_iff_exists_append.mpr
      ⟨String.ofList before, String.ofList after, ?_, rfl⟩
    rw [← String.ofList_append, ← whole, String.ofList_toList]

theorem boundary_in_text {source : String} {offset : Nat} (valid : OnBoundary source offset) :
    offset ≤ bytes source.toList := by
  obtain ⟨before, after, whole, rfl⟩ := (on_boundary_iff _ _).mp valid
  simp [whole]

theorem char_at_boundary {source : String} {offset : Nat} (valid : OnBoundary source offset)
    (inside : offset < bytes source.toList) : ∃ c, CharAt source offset c := by
  obtain ⟨before, after, whole, rfl⟩ := (on_boundary_iff _ _).mp valid
  cases after with
  | nil => simp [whole] at inside
  | cons c after => exact ⟨c, before, after, whole, rfl⟩

theorem char_before_boundary {source : String} {offset : Nat} (valid : OnBoundary source offset)
    (positive : 0 < offset) : ∃ start c, CharAt source start c ∧ start + c.utf8Size = offset := by
  obtain ⟨before, after, whole, rfl⟩ := (on_boundary_iff _ _).mp valid
  rcases List.eq_nil_or_concat before with rfl | ⟨lead, c, rfl⟩
  · simp at positive
  · exact ⟨bytes lead, c, ⟨lead, after, by simpa using whole, rfl⟩, by simp⟩

theorem char_in_text {source : String} {offset : Nat} {c : Char}
    (at_offset : CharAt source offset c) : offset < bytes source.toList := by
  obtain ⟨before, after, whole, rfl⟩ := at_offset
  have := c.utf8Size_pos
  simp only [whole, bytes_append, bytes_cons]
  omega

theorem char_ends_by_boundary {source : String} {start offset : Nat} {c : Char}
    (at_start : CharAt source start c) (valid : OnBoundary source offset)
    (later : start < offset) : start + c.utf8Size ≤ offset := by
  obtain ⟨before, after, whole, rfl⟩ := at_start
  obtain ⟨lead, rest, split, rfl⟩ := (on_boundary_iff _ _).mp valid
  rcases List.append_eq_append_iff.mp (whole.symm.trans split) with
    ⟨more, rfl, tail⟩ | ⟨more, rfl, tail⟩
  · cases more with
    | nil => simp at later
    | cons d more =>
      obtain ⟨rfl, _⟩ := List.cons.inj tail
      simp only [bytes_append, bytes_cons]
      omega
  · simp only [bytes_append] at later
    omega

theorem char_in_part {source : String} {lead part rest : List Char} {offset : Nat} {c : Char}
    (whole : source.toList = lead ++ (part ++ rest)) (at_offset : CharAt source offset c)
    (lower : bytes lead ≤ offset) (upper : offset < bytes lead + bytes part) : c ∈ part := by
  obtain ⟨before, after, split, rfl⟩ := at_offset
  rcases List.append_eq_append_iff.mp (whole.symm.trans split) with
    ⟨more, rfl, tail⟩ | ⟨more, rfl, tail⟩
  · rcases List.append_eq_append_iff.mp tail with ⟨beyond, rfl, _⟩ | ⟨held, rfl, start⟩
    · simp only [bytes_append] at upper
      omega
    · cases held with
      | nil => simp at upper
      | cons d held =>
        obtain ⟨rfl, _⟩ := List.cons.inj start
        simp
  · cases more with
    | nil =>
      cases part with
      | nil => simp at upper
      | cons d part =>
        obtain ⟨rfl, _⟩ := List.cons.inj tail
        simp
    | cons d more =>
      have := d.utf8Size_pos
      simp only [bytes_append, bytes_cons] at lower
      omega

theorem part_bytes {source : String} {lead part rest : List Char}
    (whole : source.toList = lead ++ (part ++ rest)) :
    (String.ofList part).toUTF8 =
      source.toUTF8.extract (bytes lead) (bytes lead + bytes part) := by
  have split : source = String.ofList lead ++ (String.ofList part ++ String.ofList rest) := by
    rw [← String.ofList_append, ← String.ofList_append, ← whole, String.ofList_toList]
  calc (String.ofList part).toByteArray
      = ((String.ofList part).toByteArray ++ (String.ofList rest).toByteArray).extract 0
          (bytes part) := (ByteArray.extract_append_eq_left rfl).symm
    _ = ((String.ofList lead).toByteArray ++ ((String.ofList part).toByteArray ++
          (String.ofList rest).toByteArray)).extract (bytes lead + 0)
            (bytes lead + bytes part) := ByteArray.extract_append_size_add.symm
    _ = source.toByteArray.extract (bytes lead) (bytes lead + bytes part) := by
        rw [split]
        rfl

end Opcodes.Text
