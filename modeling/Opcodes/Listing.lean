import Opcodes.Mnemonic.Variant
import Opcodes.Unicode.Classes

/-! A listing is a text whose words are the mnemonics, in the order that fixes their codes.
   A word is a maximal run of word characters; everything between words only separates. The builtin
   listing is the instruction set of the meep intermediate representation, which is used when no
   other is given. -/
namespace Opcodes.Listing

/-- A word and the byte offset at which it starts in the UTF-8 of the listing. -/
structure Word where
  start : Nat
  chars : List Char
  deriving DecidableEq, Repr

def Word.text (w : Word) : String := String.ofList w.chars

def Word.stop (w : Word) : Nat := w.start + w.text.utf8ByteSize

/-- The words of a text that starts at `offset`: a word character extends the word that
    starts right after it, and is a word by itself when none does. -/
def wordsFrom (offset : Nat) : List Char → List Word
  | [] => []
  | c :: rest =>
    let next := offset + c.utf8Size
    if Unicode.isWord c then
      match wordsFrom next rest with
      | [] => [⟨offset, [c]⟩]
      | w :: later =>
        if w.start = next then ⟨offset, c :: w.chars⟩ :: later else ⟨offset, [c]⟩ :: w :: later
    else wordsFrom next rest

theorem words_from_start (offset : Nat) (cs : List Char) (w : Word)
    (member : w ∈ wordsFrom offset cs) : offset ≤ w.start := by
  induction cs generalizing offset w with
  | nil => simp [wordsFrom] at member
  | cons c rest ih =>
    have later : ∀ v ∈ wordsFrom (offset + c.utf8Size) rest, offset ≤ v.start :=
      fun v hv => Nat.le_trans (Nat.le_add_right _ _) (ih _ v hv)
    simp only [wordsFrom] at member
    split at member
    · split at member
      · simp only [List.mem_singleton] at member
        simp [member]
      · rename_i v more found
        rw [found] at later
        split at member
        · rcases List.mem_cons.mp member with first | other
          · simp [first]
          · exact later w (List.mem_cons_of_mem _ other)
        · rcases List.mem_cons.mp member with first | other
          · simp [first]
          · exact later w other
    · exact later w member

def words (source : String) : List Word := wordsFrom 0 source.toList

def mnemonics (source : String) : List Mnemonic := (words source).map fun w => ⟨w.text⟩

def builtin : String :=
  "\n  pop_ push_ inc dec\n" ++
  "  add sub equals\n" ++
  "  set_var get_var\n" ++
  "  inc_n false_ true_\n" ++
  "  load_byte print start_if close_if_body\n" ++
  "  end_if start_else end_else start_loop end_loop\n" ++
  "  popn cmp_less cmp_greater load_string make_bus\n" ++
  "  index_var mutate_bus\n"

end Opcodes.Listing
