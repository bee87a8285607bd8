import Mathlib.Data.List.TakeWhile
import Opcodes.Listing
import Opcodes.Proofs.Text.Offsets

/-! Reading a listing by two rules: a longest run of kept characters is a token, a longest run of
   skipped ones is dropped, and a character that neither rule takes is an error. With the word
   characters kept and all others skipped, this reader finds the words and nothing else. -/
namespace Opcodes.Listing
open Text

structure Span where
  start : Nat
  stop : Nat
  text : String
  deriving DecidableEq, Repr

def Word.span (w : Word) : Span := ⟨w.start, w.stop, w.text⟩

def spanAt (offset : Nat) (run : List Char) : Span :=
  ⟨offset, offset + bytes run, String.ofList run⟩

inductive Token where
  | word (span : Span)
  | error (span : Span)
  deriving DecidableEq, Repr

inductive Scans (kept skipped : Char → Bool) : Nat → List Char → List Token → Prop where
  | done (offset : Nat) : Scans kept skipped offset [] []
  | keep {offset : Nat} {run rest : List Char} {later : List Token}
      (nonempty : run ≠ []) (all : ∀ c ∈ run, kept c = true)
      (longest : ∀ c ∈ rest.head?, kept c = false)
      (tail : Scans kept skipped (offset + bytes run) rest later) :
      Scans kept skipped offset (run ++ rest) (.word (spanAt offset run) :: later)
  | skip {offset : Nat} {run rest : List Char} {later : List Token}
      (nonempty : run ≠ []) (all : ∀ c ∈ run, skipped c = true)
      (longest : ∀ c ∈ rest.head?, skipped c = false)
      (tail : Scans kept skipped (offset + bytes run) rest later) :
      Scans kept skipped offset (run ++ rest) later
  | refuse {offset : Nat} {c : Char} {rest : List Char} {later : List Token}
      (unkept : kept c = false) (unskipped : skipped c = false)
      (tail : Scans kept skipped (offset + c.utf8Size) rest later) :
      Scans kept skipped offset (c :: rest) (.error (spanAt offset [c]) :: later)

def separates (c : Char) : Bool := !Unicode.isWord c

def ScansWords : Nat → List Char → List Token → Prop := Scans Unicode.isWord separates

def tokensFrom (offset : Nat) (cs : List Char) : List Token :=
  (wordsFrom offset cs).map fun w => .word w.span

theorem words_from_gap (offset : Nat) (run rest : List Char)
    (all : ∀ c ∈ run, Unicode.isWord c = false) :
    wordsFrom offset (run ++ rest) = wordsFrom (offset + bytes run) rest := by
  induction run generalizing offset with
  | nil => simp
  | cons c run ih =>
    have first : Unicode.isWord c = false := all c (by simp)
    simp only [List.cons_append, wordsFrom, first]
    rw [if_neg Bool.false_ne_true, ih _ fun d hd => all d (by simp [hd]), bytes_cons, Nat.add_assoc]

theorem words_start_later (offset : Nat) (cs : List Char)
    (stops : ∀ c ∈ cs.head?, Unicode.isWord c = false) (w : Word)
    (member : w ∈ wordsFrom offset cs) : offset < w.start := by
  cases cs with
  | nil => simp [wordsFrom] at member
  | cons c rest =>
    have first : Unicode.isWord c = false := stops c (by simp)
    simp only [wordsFrom, first] at member
    rw [if_neg Bool.false_ne_true] at member
    have := words_from_start _ rest w member
    have := c.utf8Size_pos
    omega

theorem words_from_run (offset : Nat) (run rest : List Char) (nonempty : run ≠ [])
    (all : ∀ c ∈ run, Unicode.isWord c = true)
    (longest : ∀ c ∈ rest.head?, Unicode.isWord c = false) :
    wordsFrom offset (run ++ rest) = ⟨offset, run⟩ :: wordsFrom (offset + bytes run) rest := by
  induction run generalizing offset with
  | nil => exact absurd rfl nonempty
  | cons c run ih =>
    have first : Unicode.isWord c = true := all c (by simp)
    rw [List.cons_append, wordsFrom, if_pos first]
    cases run with
    | nil =>
      have apart := words_start_later (offset + c.utf8Size) rest longest
      cases found : wordsFrom (offset + c.utf8Size) rest with
      | nil => simp [found]
      | cons w later =>
        have gap : w.start ≠ offset + c.utf8Size := by
          have := apart w (by simp [found])
          omega
        simp [found, gap]
    | cons d run =>
      have held := ih (offset + c.utf8Size) (by simp) fun e he => all e (List.mem_cons_of_mem c he)
      rw [held]
      simp [Nat.add_assoc]

theorem scan_finds_words {offset : Nat} {cs : List Char} {tokens : List Token}
    (scan : ScansWords offset cs tokens) : tokens = tokensFrom offset cs := by
  induction scan with
  | done => rfl
  | keep nonempty all longest tail ih =>
    rw [tokensFrom, words_from_run _ _ _ nonempty all longest, ih]
    rfl
  | skip nonempty all longest tail ih =>
    have apart : ∀ c ∈ _, Unicode.isWord c = false := fun c hc => by
      simpa [separates] using all c hc
    rw [tokensFrom, words_from_gap _ _ _ apart, ih]
    rfl
  | refuse unkept unskipped tail ih => simp [separates, unkept] at unskipped

theorem head_after_run (p : Char → Bool) (cs : List Char) :
    ∀ c ∈ (cs.dropWhile p).head?, p c = false := by
  intro c first
  have stop := List.head?_dropWhile_not p cs
  rw [Option.mem_def.mp first] at stop
  exact stop

theorem run_not_empty (p : Char → Bool) (c : Char) (cs : List Char) (first : p c = true) :
    (c :: cs).takeWhile p ≠ [] := by
  simp [first]

/-- Every text can be read, since a character is either kept or skipped. -/
theorem scan_exists (offset : Nat) (cs : List Char) : ∃ tokens, ScansWords offset cs tokens := by
  induction size : cs.length using Nat.strongRecOn generalizing offset cs with
  | ind n ih =>
    subst size
    cases cs with
    | nil => exact ⟨[], .done offset⟩
    | cons c rest =>
      have split (p : Char → Bool) := List.takeWhile_append_dropWhile (p := p) (l := c :: rest)
      have shorter (p : Char → Bool) (first : p c = true) :
          ((c :: rest).dropWhile p).length < (c :: rest).length := by
        have whole := congrArg List.length (split p)
        have := List.length_pos_of_ne_nil (run_not_empty p c rest first)
        rw [List.length_append] at whole
        omega
      cases kind : Unicode.isWord c with
      | true =>
        obtain ⟨later, tail⟩ := ih _ (shorter Unicode.isWord kind)
          (offset + bytes ((c :: rest).takeWhile Unicode.isWord)) _ rfl
        refine ⟨.word (spanAt offset ((c :: rest).takeWhile Unicode.isWord)) :: later, ?_⟩
        have read := Scans.keep (run_not_empty _ c rest kind) (fun _ => List.mem_takeWhile_imp)
          (head_after_run _ _) tail
        rwa [split] at read
      | false =>
        have skipped : separates c = true := by simp [separates, kind]
        obtain ⟨later, tail⟩ := ih _ (shorter separates skipped)
          (offset + bytes ((c :: rest).takeWhile separates)) _ rfl
        refine ⟨later, ?_⟩
        have read := Scans.skip (run_not_empty _ c rest skipped) (fun _ => List.mem_takeWhile_imp)
          (head_after_run _ _) tail
        rwa [split] at read

theorem scans_iff_tokens (offset : Nat) (cs : List Char) (tokens : List Token) :
    ScansWords offset cs tokens ↔ tokens = tokensFrom offset cs := by
  constructor
  · exact scan_finds_words
  · intro same
    obtain ⟨found, scan⟩ := scan_exists offset cs
    rw [same, ← scan_finds_words scan]
    exact scan

end Opcodes.Listing
