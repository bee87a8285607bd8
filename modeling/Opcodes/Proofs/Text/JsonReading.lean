import Mathlib.Data.List.TakeWhile
import Opcodes.Proofs.Text.Json
import Opcodes.Text

/-! What the JSON reader makes of quoted texts and of numerals, wherever they stand. -/
namespace Opcodes.Json
open Text

def Reads (r : Reader) (cs : List Char) (r' : Reader) : Prop := cs.foldlM Reader.step r = some r'

theorem reads_nil (r : Reader) : Reads r [] r := rfl

theorem reads_append {r s t : Reader} {cs ds : List Char} (first : Reads r cs s)
    (second : Reads s ds t) : Reads r (cs ++ ds) t := by
  rw [Reads, List.foldlM_append, first]
  exact second

theorem reads_cons {r s t : Reader} {c : Char} {cs : List Char} (first : r.step c = some s)
    (rest : Reads s cs t) : Reads r (c :: cs) t := by
  rw [Reads, List.foldlM_cons, first]
  exact rest

/-- A reader inside a quoted text, with the characters before it last first. -/
def inside (held : List Char) (state : State) : Reader := ⟨.quoted ⟨held, none⟩, state⟩

theorem hex_digit_of_digit_char : ∀ d, d < 16 → hexDigit? (Nat.digitChar d) = some d := by decide

theorem reads_unit (high low : Nat) (boundHigh : high < 16) (boundLow : low < 16)
    (held : List Char) (state : State) :
    Reads (inside held state) ['\\', 'u', '0', '0', Nat.digitChar high, Nat.digitChar low]
      (inside (Char.ofNat (16 * high + low) :: held) state) := by
  have first := hex_digit_of_digit_char high boundHigh
  have second := hex_digit_of_digit_char low boundLow
  have opened : Reads (inside held state) ['\\', 'u', '0', '0']
      ⟨.unit ⟨held, none⟩ [0, 0], state⟩ := rfl
  have whole : (⟨held, none⟩ : Quotation).addUnit (16 * high + low) =
      some ⟨Char.ofNat (16 * high + low) :: held, none⟩ := by
    simp only [Quotation.addUnit]
    rw [if_neg (by omega), if_neg (by omega)]
  have third : Reader.step ⟨.unit ⟨held, none⟩ [0, 0], state⟩ (Nat.digitChar high) =
      some ⟨.unit ⟨held, none⟩ [0, 0, high], state⟩ := by
    simp [Reader.step, Place.step, first]
  have last : Reader.step ⟨.unit ⟨held, none⟩ [0, 0, high], state⟩ (Nat.digitChar low) =
      some (inside (Char.ofNat (16 * high + low) :: held) state) := by
    simp [Reader.step, Place.step, second, whole, inside]
  exact reads_append opened (reads_cons third (reads_cons last (reads_nil _)))

theorem reads_raw {c : Char} (notQuote : c ≠ '"') (notSlash : c ≠ '\\')
    (printed : ¬ c.toNat < 0x20) (held : List Char) (state : State) :
    Reads (inside held state) [c] (inside (c :: held) state) := by
  refine reads_cons ?_ (reads_nil _)
  simp [Reader.step, Place.step, inside, notQuote, notSlash, printed]

theorem reads_escape (c : Char) (held : List Char) (state : State) :
    Reads (inside held state) (escapeChar c) (inside (c :: held) state) := by
  unfold escapeChar
  -- the named escapes are read back by computation
  iterate 7
    split
    · subst c
      rfl
  split
  · have read := reads_unit (c.toNat / 16) (c.toNat % 16) (by omega) (by omega) held state
    rwa [Nat.div_add_mod, Char.ofNat_toNat] at read
  · exact reads_raw ‹_› ‹_› ‹_› held state

theorem reads_escaped (cs held : List Char) (state : State) :
    Reads (inside held state) (cs.flatMap escapeChar) (inside (cs.reverse ++ held) state) := by
  induction cs generalizing held with
  | nil => exact reads_nil _
  | cons c cs ih =>
    rw [List.flatMap_cons, List.reverse_cons, List.append_assoc]
    exact reads_append (reads_escape c held state) (ih (c :: held))

theorem reads_quoted (text : String) {state next : State}
    (takes : state.step (.text text) = some next) :
    Reads ⟨.between, state⟩ (quoted text).toList ⟨.between, next⟩ := by
  have opened : Reader.step ⟨.between, state⟩ '"' = some (inside [] state) := rfl
  have closed : Reader.step (inside (text.toList.reverse ++ []) state) '"' =
      some ⟨.between, next⟩ := by
    simp [Reader.step, Place.step, inside, takes]
  rw [quoted, quotedChars, String.toList_ofList]
  exact reads_cons opened
    (reads_append (reads_escaped text.toList [] state) (reads_cons closed (reads_nil _)))

theorem digit_ends_nothing {c : Char} (digit : c.isDigit = true) : Place.endsBare c = false := by
  have apart (d : Char) (other : d.isDigit = false) : c ≠ d := by
    rintro rfl
    simp [digit] at other
  simp [Place.endsBare, isBlank, mark?, apart ' ' rfl, apart '\t' rfl, apart '\n' rfl,
    apart '\r' rfl, apart '"' rfl, apart '[' rfl, apart ']' rfl, apart '\x7b' rfl,
    apart '\x7d' rfl, apart ',' rfl, apart ':' rfl]

theorem reads_on_bare (cs held : List Char) (state : State)
    (plain : ∀ c ∈ cs, Place.endsBare c = false) :
    Reads ⟨.bare held, state⟩ cs ⟨.bare (cs.reverse ++ held), state⟩ := by
  induction cs generalizing held with
  | nil => exact reads_nil _
  | cons c cs ih =>
    rw [List.reverse_cons, List.append_assoc]
    refine reads_cons ?_ (ih (c :: held) fun d member => plain d (List.mem_cons_of_mem c member))
    simp [Reader.step, Place.step, plain c]

theorem reads_bare (cs : List Char) (nonempty : cs ≠ []) (state : State)
    (plain : ∀ c ∈ cs, Place.endsBare c = false) :
    Reads ⟨.between, state⟩ cs ⟨.bare cs.reverse, state⟩ := by
  cases cs with
  | nil => exact absurd rfl nonempty
  | cons c cs =>
    have first : Place.endsBare c = false := plain c List.mem_cons_self
    have opened : Reader.step ⟨.between, state⟩ c = some ⟨.bare [c], state⟩ := by
      simp only [Place.endsBare, Bool.or_eq_false_iff, Option.isSome_eq_false_iff,
        Option.isNone_iff_eq_none, beq_eq_false_iff_ne] at first
      simp [Reader.step, Place.step, Place.start, first]
    rw [List.reverse_cons]
    exact reads_cons opened
      (reads_on_bare cs [c] state fun d member => plain d (List.mem_cons_of_mem c member))

/-- A delimiter ends the word before it, and is then read for itself. -/
theorem delimiter_step {held : List Char} {c : Char} {v : Value} {state next : State}
    (ends : Place.endsBare c = true) (word : bare? held.reverse = some v)
    (takes : state.step (.plain v) = some next) :
    Reader.step ⟨.bare held, state⟩ c = Reader.step ⟨.between, next⟩ c := by
  simp [Reader.step, Place.step, ends, word, takes]

theorem bare_digits (n : Nat) : bare? (Nat.toDigits 10 n) = some (.number ⟨n, 0⟩) := by
  have digits := digits_are_digits n
  have run := List.takeWhile_eq_self_iff.mpr digits
  have rest := List.dropWhile_eq_nil_iff.mpr digits
  have unsigned : unsigned? (Nat.toDigits 10 n) = some ⟨n, 0⟩ := by
    simp [unsigned?, run, rest, fraction?, exponent?]
  have number : number? (Nat.toDigits 10 n) = some ⟨n, 0⟩ := by
    rw [number?.eq_def]
    split
    · rename_i cs signed
      have := digits '-' (by simp [signed])
      simp at this
    · exact unsigned
  rw [bare?, number]

theorem reads_numeral (n : Nat) {state next : State} {r : Reader} {tail : List Char}
    (ends : tail.head?.any Place.endsBare = true)
    (takes : state.step (.plain (.number ⟨n, 0⟩)) = some next)
    (after : Reads ⟨.between, next⟩ tail r) :
    Reads ⟨.between, state⟩ (Nat.toDigits 10 n ++ tail) r := by
  have word := reads_bare (Nat.toDigits 10 n) Nat.toDigits_ne_nil state
    fun d member => digit_ends_nothing (digits_are_digits n d member)
  have value : bare? (Nat.toDigits 10 n).reverse.reverse = some (.number ⟨n, 0⟩) := by
    rw [List.reverse_reverse, bare_digits]
  refine reads_append word ?_
  cases tail with
  | nil => simp at ends
  | cons c tail =>
    rw [Reads, List.foldlM_cons, delimiter_step (by simpa using ends) value takes]
    exact after

end Opcodes.Json
