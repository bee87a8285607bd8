import Opcodes.Proofs.Listing.Scanning

/-! Listings that are put together from parts. A separator ends the word before it, and no word
   reaches across one, so the words of the whole are those of the parts, in order. -/
namespace Opcodes.Listing
open Text

def Word.moved (distance : Nat) (w : Word) : Word := { w with start := distance + w.start }

theorem words_from_moved (distance offset : Nat) (cs : List Char) :
    wordsFrom (distance + offset) cs = (wordsFrom offset cs).map (Word.moved distance) := by
  induction cs generalizing offset with
  | nil => rfl
  | cons c rest ih =>
    simp only [wordsFrom, Nat.add_assoc, ih]
    by_cases kept : Unicode.isWord c
    · rw [if_pos kept, if_pos kept]
      cases wordsFrom (offset + c.utf8Size) rest with
      | nil => rfl
      | cons w later => by_cases touching : w.start = offset + c.utf8Size <;> simp [Word.moved, touching]
    · rw [if_neg kept, if_neg kept]

theorem texts_from_anywhere (offset : Nat) (cs : List Char) :
    (wordsFrom offset cs).map Word.text = (wordsFrom 0 cs).map Word.text := by
  rw [← Nat.add_zero offset, words_from_moved, List.map_map]
  rfl

theorem words_from_append (offset : Nat) (cs ds : List Char) {c : Char}
    (apart : Unicode.isWord c = false) :
    wordsFrom offset (cs ++ c :: ds) =
      wordsFrom offset cs ++ wordsFrom (offset + bytes cs + c.utf8Size) ds := by
  induction cs generalizing offset with
  | nil => simp [wordsFrom, apart]
  | cons d cs ih =>
    have tail : wordsFrom (offset + d.utf8Size) (cs ++ c :: ds) =
        wordsFrom (offset + d.utf8Size) cs ++
          wordsFrom (offset + bytes (d :: cs) + c.utf8Size) ds := by
      rw [bytes_cons, ← Nat.add_assoc offset]
      exact ih _
    simp only [List.cons_append, wordsFrom, tail]
    by_cases kept : Unicode.isWord d
    · rw [if_pos kept, if_pos kept]
      cases wordsFrom (offset + d.utf8Size) cs with
      | cons w later => by_cases touching : w.start = offset + d.utf8Size <;> simp [touching]
      | nil =>
        -- The next word comes after the separator, so it does not go on with this one.
        have beyond := words_from_start (offset + bytes (d :: cs) + c.utf8Size) ds
        cases found : wordsFrom (offset + bytes (d :: cs) + c.utf8Size) ds with
        | nil => rfl
        | cons w later =>
          have gap : w.start ≠ offset + d.utf8Size := by
            rw [found] at beyond
            have lower := beyond w List.mem_cons_self
            have := c.utf8Size_pos
            rw [bytes_cons] at lower
            omega
          simp [gap]
    · rw [if_neg kept, if_neg kept]

theorem mnemonics_eq_texts (source : String) :
    mnemonics source = ((words source).map Word.text).map Mnemonic.mk := by
  rw [List.map_map]
  rfl

theorem mnemonics_append (s t : String) {c : Char} (apart : Unicode.isWord c = false) :
    mnemonics (s.push c ++ t) = mnemonics s ++ mnemonics t := by
  have whole : (s.push c ++ t).toList = s.toList ++ c :: t.toList := by simp
  simp only [mnemonics_eq_texts, words, whole, words_from_append 0 _ _ apart, List.map_append]
  rw [texts_from_anywhere _ t.toList]

/-- Words, each with the gap behind it, after a gap in front. -/
def joined (front : String) : List (String × String) → String
  | [] => front
  | (word, gap) :: rest => front ++ word ++ joined gap rest

def IsGap (text : String) : Prop := ∀ c ∈ text.toList, Unicode.isWord c = false

def IsWord (text : String) : Prop := text ≠ "" ∧ ∀ c ∈ text.toList, Unicode.isWord c = true

instance (text : String) : Decidable (IsGap text) := List.decidableBAll _ text.toList

instance (text : String) : Decidable (IsWord text) :=
  @instDecidableAnd _ _ _ (List.decidableBAll _ text.toList)

/-- Only the gaps at the two ends may be empty. -/
structure Separated (front : String) (parts : List (String × String)) : Prop where
  front : IsGap front
  words : ∀ part ∈ parts, IsWord part.1
  gaps : ∀ part ∈ parts, IsGap part.2
  apart : ∀ part ∈ parts.dropLast, part.2 ≠ ""

section Parts
variable {front word gap : String} {rest : List (String × String)}

theorem Separated.tail (separated : Separated front ((word, gap) :: rest)) :
    Separated gap rest := by
  constructor
  · exact separated.gaps _ List.mem_cons_self
  · intro part member
    exact separated.words part (List.mem_cons_of_mem _ member)
  · intro part member
    exact separated.gaps part (List.mem_cons_of_mem _ member)
  · intro part member
    apply separated.apart part
    cases rest with
    | nil => cases member
    | cons next rest => exact List.mem_cons_of_mem _ member

theorem Separated.word_ends (separated : Separated front ((word, gap) :: rest)) :
    ∀ c ∈ (joined gap rest).toList.head?, Unicode.isWord c = false := by
  have held : IsGap gap := separated.gaps _ List.mem_cons_self
  intro c first
  apply held c
  cases rest with
  | nil => exact List.mem_of_mem_head? first
  | cons next rest =>
    have some : gap ≠ "" := separated.apart _ List.mem_cons_self
    obtain ⟨d, more, text⟩ := List.exists_cons_of_ne_nil (mt String.toList_eq_nil_iff.mp some)
    simp only [joined, String.toList_append, text, List.cons_append, List.head?_cons,
      Option.mem_def, Option.some.injEq] at first
    rw [text, first]
    exact List.mem_cons_self

end Parts

theorem texts_of_joined {front : String} {parts : List (String × String)}
    (separated : Separated front parts) (offset : Nat) :
    (wordsFrom offset (joined front parts).toList).map Word.text = parts.map Prod.fst := by
  induction parts generalizing front offset with
  | nil =>
    have none := words_from_gap offset front.toList [] separated.front
    rw [List.append_nil] at none
    rw [joined, none]
    rfl
  | cons part rest ih =>
    obtain ⟨word, gap⟩ := part
    obtain ⟨some, all⟩ := separated.words _ List.mem_cons_self
    have run := words_from_run (offset + bytes front.toList) word.toList (joined gap rest).toList
      (mt String.toList_eq_nil_iff.mp some) all separated.word_ends
    rw [joined, String.toList_append, String.toList_append, List.append_assoc,
      words_from_gap offset _ _ separated.front, run, List.map_cons, ih separated.tail]
    simp [Word.text]

theorem mnemonics_of_joined {front : String} {parts : List (String × String)}
    (separated : Separated front parts) :
    mnemonics (joined front parts) = parts.map fun part => ⟨part.1⟩ := by
  rw [mnemonics_eq_texts, words, texts_of_joined separated, List.map_map]
  rfl

end Opcodes.Listing
