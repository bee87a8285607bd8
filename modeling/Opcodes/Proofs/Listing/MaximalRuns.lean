import Mathlib.Data.List.Chain
import Mathlib.Data.List.Pairwise
import Mathlib.Data.List.Sort
import Opcodes.Proofs.Listing.Scanning

/-! The words of a listing are the maximal runs of its word characters. What this means is said
   of any list of spans, by the bytes of the listing alone, and only one list satisfies it. -/
namespace Opcodes.Listing
open Text

def Span.Covers (span : Span) (offset : Nat) : Prop := span.start ≤ offset ∧ offset < span.stop

structure MaximalRuns (source : String) (spans : List Span) : Prop where
  increasing : spans.Pairwise fun a b => a.start < b.start
  boundaries : ∀ s ∈ spans, OnBoundary source s.start ∧ OnBoundary source s.stop
  nonempty : ∀ s ∈ spans, s.start < s.stop
  spelled : ∀ s ∈ spans, s.text.toUTF8 = source.toUTF8.extract s.start s.stop
  inside : ∀ s ∈ spans, ∀ offset c, CharAt source offset c → s.Covers offset →
    Unicode.isWord c = true
  outside : ∀ offset c, CharAt source offset c → (∀ s ∈ spans, ¬ s.Covers offset) →
    Unicode.isWord c = false
  separated : spans.IsChain fun a b =>
    ∃ offset c, CharAt source offset c ∧ a.stop ≤ offset ∧ offset < b.start ∧
      Unicode.isWord c = false

/-- A run of word characters that no word character borders on. -/
structure Run (source : String) (start stop : Nat) : Prop where
  starts : OnBoundary source start
  stops : OnBoundary source stop
  nonempty : start < stop
  word : ∀ offset c, CharAt source offset c → start ≤ offset → offset < stop →
    Unicode.isWord c = true
  before : ∀ offset c, CharAt source offset c → offset + c.utf8Size = start →
    Unicode.isWord c = false
  after : ∀ c, CharAt source stop c → Unicode.isWord c = false

theorem run_starts_no_later {source : String} {a b x y offset : Nat} (left : Run source a b)
    (right : Run source x y) (inLeft : offset < b) (inRight : x ≤ offset) : x ≤ a := by
  by_contra later
  obtain ⟨o, c, at_o, ends⟩ := char_before_boundary right.starts (by omega)
  have border := right.before o c at_o ends
  have lower : a ≤ o := by
    by_contra early
    have := char_ends_by_boundary at_o left.starts (by omega)
    omega
  have := c.utf8Size_pos
  have := left.word o c at_o lower (by omega)
  simp [border] at this

theorem run_stops_no_earlier {source : String} {a b x y offset : Nat} (left : Run source a b)
    (right : Run source x y) (inLeft : offset < b) (inRight : x ≤ offset) : y ≤ b := by
  by_contra later
  have bound := boundary_in_text right.stops
  obtain ⟨c, at_b⟩ := char_at_boundary left.stops (by omega)
  have := right.word b c at_b (by omega) (by omega)
  simp [left.after c at_b] at this

theorem overlapping_runs_equal {source : String} {a b x y offset : Nat} (left : Run source a b)
    (right : Run source x y) (inLeft : a ≤ offset ∧ offset < b)
    (inRight : x ≤ offset ∧ offset < y) : a = x ∧ b = y := by
  have := run_starts_no_later left right inLeft.2 inRight.1
  have := run_starts_no_later right left inRight.2 inLeft.1
  have := run_stops_no_earlier left right inLeft.2 inRight.1
  have := run_stops_no_earlier right left inRight.2 inLeft.1
  omega

/-- Asking that `b` is nonempty is what makes this transitive. -/
def Span.Precedes (a b : Span) : Prop := a.stop < b.start ∧ b.start < b.stop

theorem Span.Precedes.trans {a b c : Span} (first : a.Precedes b) (second : b.Precedes c) :
    a.Precedes c :=
  ⟨first.1.trans (first.2.trans second.1), second.2⟩

instance : Trans Span.Precedes Span.Precedes Span.Precedes := ⟨Span.Precedes.trans⟩

theorem neighbours_apart {spans : List Span} (nonempty : ∀ s ∈ spans, s.start < s.stop)
    (gaps : spans.IsChain fun a b => a.stop < b.start) :
    spans.Pairwise fun a b => a.stop < b.start := by
  have chain : spans.IsChain Span.Precedes :=
    gaps.imp_of_mem_imp fun a b _ member gap => ⟨gap, nonempty b member⟩
  exact chain.pairwise.imp And.left

theorem runs_apart {source : String} {spans : List Span} (runs : MaximalRuns source spans) :
    spans.Pairwise fun a b => a.stop < b.start := by
  refine neighbours_apart runs.nonempty (runs.separated.imp ?_)
  rintro a b ⟨offset, c, _, lower, upper, _⟩
  omega

theorem same_or_apart {source : String} {spans : List Span} (runs : MaximalRuns source spans)
    {a b : Span} (inA : a ∈ spans) (inB : b ∈ spans) :
    a = b ∨ a.stop < b.start ∨ b.stop < a.start := by
  have symmetric : Std.Symm fun a b : Span => a = b ∨ a.stop < b.start ∨ b.stop < a.start :=
    ⟨fun _ _ => by grind⟩
  have pairs : spans.Pairwise fun a b => a = b ∨ a.stop < b.start ∨ b.stop < a.start :=
    (runs_apart runs).imp fun apart => Or.inr (Or.inl apart)
  have all := List.Pairwise.forall_of_forall (by simp) pairs
  exact all inA inB

theorem listed_span_is_run {source : String} {spans : List Span}
    (runs : MaximalRuns source spans) {s : Span} (listed : s ∈ spans) :
    Run source s.start s.stop := by
  have held := runs.nonempty s listed
  have covered (offset : Nat) (c : Char) (at_offset : CharAt source offset c)
      (word : Unicode.isWord c ≠ false) : ∃ t ∈ spans, t.Covers offset := by
    by_contra none
    exact word (runs.outside offset c at_offset fun t member covers => none ⟨t, member, covers⟩)
  refine ⟨(runs.boundaries s listed).1, (runs.boundaries s listed).2, held,
    fun offset c at_offset lower upper => runs.inside s listed offset c at_offset ⟨lower, upper⟩,
    ?_, ?_⟩
  · intro offset c at_offset ends
    by_contra word
    obtain ⟨t, member, lower, upper⟩ := covered offset c at_offset word
    have close := char_ends_by_boundary at_offset (runs.boundaries t member).2 upper
    have := c.utf8Size_pos
    rcases same_or_apart runs member listed with rfl | apart | apart <;> omega
  · intro c at_stop
    by_contra word
    obtain ⟨t, member, lower, upper⟩ := covered s.stop c at_stop word
    rcases same_or_apart runs member listed with rfl | apart | apart <;> omega

theorem run_is_listed {source : String} {spans : List Span} (runs : MaximalRuns source spans)
    {start stop : Nat} (run : Run source start stop) :
    ∃ s ∈ spans, s.start = start ∧ s.stop = stop := by
  have bound := boundary_in_text run.stops
  have held := run.nonempty
  obtain ⟨c, at_start⟩ := char_at_boundary run.starts (by omega)
  have word := run.word start c at_start (by omega) held
  by_contra none
  have outside := runs.outside start c at_start fun s member covers =>
    none ⟨s, member, overlapping_runs_equal (listed_span_is_run runs member) run covers
      ⟨by omega, held⟩⟩
  simp [word] at outside

theorem span_from_ends {source : String} {a b : Span}
    (spellsA : a.text.toUTF8 = source.toUTF8.extract a.start a.stop)
    (spellsB : b.text.toUTF8 = source.toUTF8.extract b.start b.stop)
    (starts : a.start = b.start) (stops : a.stop = b.stop) : a = b := by
  have text : a.text = b.text :=
    String.toByteArray_inj.mp (by
      rw [← String.toUTF8_eq_toByteArray, ← String.toUTF8_eq_toByteArray, spellsA, spellsB, starts,
        stops])
  cases a
  cases b
  simp_all

theorem listed_in_both {source : String} {spans others : List Span}
    (runs : MaximalRuns source spans) (otherRuns : MaximalRuns source others) {s : Span}
    (listed : s ∈ spans) : s ∈ others := by
  obtain ⟨t, member, starts, stops⟩ := run_is_listed otherRuns (listed_span_is_run runs listed)
  rwa [← span_from_ends (otherRuns.spelled t member) (runs.spelled s listed) starts stops]

theorem maximal_runs_unique {source : String} {spans others : List Span}
    (runs : MaximalRuns source spans) (otherRuns : MaximalRuns source others) : spans = others := by
  have irreflexive : Std.Irrefl fun a b : Span => a.start < b.start :=
    ⟨fun a => Nat.lt_irrefl a.start⟩
  exact runs.increasing.eq_of_mem_iff otherRuns.increasing fun _ =>
    ⟨listed_in_both runs otherRuns, listed_in_both otherRuns runs⟩

def Token.span : Token → Span
  | .word span | .error span => span

/-- Induction along the reading of the rest of a text, with the part that has been read. -/
@[elab_as_elim] theorem reading_induction {source : String} {motive : List Char → List Token → Prop}
    (done : motive source.toList [])
    (keep : ∀ before run rest later, source.toList = before ++ (run ++ rest) → run ≠ [] →
      (∀ c ∈ run, Unicode.isWord c = true) → (∀ c ∈ rest.head?, Unicode.isWord c = false) →
      ScansWords (bytes (before ++ run)) rest later → motive (before ++ run) later →
      motive before (.word (spanAt (bytes before) run) :: later))
    (skip : ∀ before run rest later, source.toList = before ++ (run ++ rest) →
      (∀ c ∈ run, Unicode.isWord c = false) → motive (before ++ run) later → motive before later)
    {before cs : List Char} {tokens : List Token} (scan : ScansWords (bytes before) cs tokens)
    (whole : source.toList = before ++ cs) : motive before tokens := by
  generalize place : bytes before = offset at scan
  induction scan generalizing before with
  | done => simpa [whole] using done
  | keep nonempty all longest tail ih =>
    rename_i start run rest later
    have wholeTail : source.toList = (before ++ run) ++ rest := by simpa using whole
    have placeTail : bytes (before ++ run) = start + bytes run := by simp [place]
    rw [← place]
    exact keep before run rest later whole nonempty all longest (placeTail ▸ tail)
      (ih wholeTail placeTail)
  | skip nonempty all longest tail ih =>
    rename_i start run rest later
    have wholeTail : source.toList = (before ++ run) ++ rest := by simpa using whole
    have apart : ∀ c ∈ run, Unicode.isWord c = false := fun c hc => by
      simpa [separates] using all c hc
    exact skip before run rest later whole apart (ih wholeTail (by simp [place]))
  | refuse unkept unskipped tail ih => simp [separates, unkept] at unskipped

theorem token_is_part {source : String} {before cs : List Char} {tokens : List Token}
    (scan : ScansWords (bytes before) cs tokens) (whole : source.toList = before ++ cs) :
    ∀ t ∈ tokens, ∃ lead part rest, source.toList = lead ++ (part ++ rest) ∧
      t = .word (spanAt (bytes lead) part) ∧ part ≠ [] ∧
      (∀ c ∈ part, Unicode.isWord c = true) ∧ bytes before ≤ bytes lead := by
  refine reading_induction ?_ ?_ ?_ scan whole
  · simp
  · intro before run rest later whole nonempty all _ _ ih t member
    rcases List.mem_cons.mp member with rfl | more
    · exact ⟨before, run, rest, whole, rfl, nonempty, all, Nat.le_refl _⟩
    · obtain ⟨lead, part, last, split, found, some, word, lower⟩ := ih t more
      exact ⟨lead, part, last, split, found, some, word, by
        simp only [bytes_append] at lower; omega⟩
  · intro before run rest later whole _ ih t member
    obtain ⟨lead, part, last, split, found, some, word, lower⟩ := ih t member
    exact ⟨lead, part, last, split, found, some, word, by
      simp only [bytes_append] at lower; omega⟩

theorem token_covers_word {source : String} {before cs : List Char} {tokens : List Token}
    (scan : ScansWords (bytes before) cs tokens) (whole : source.toList = before ++ cs)
    {offset : Nat} {c : Char} (at_offset : CharAt source offset c)
    (word : Unicode.isWord c = true) :
    bytes before ≤ offset → ∃ t ∈ tokens, t.span.Covers offset := by
  refine reading_induction ?_ ?_ ?_ scan whole
  · intro beyond
    have := char_in_text at_offset
    omega
  · intro before run rest later whole nonempty all _ _ ih lower
    by_cases upper : offset < bytes before + bytes run
    · exact ⟨_, List.mem_cons_self, lower, upper⟩
    · obtain ⟨t, member, covers⟩ := ih (by simp only [bytes_append]; omega)
      exact ⟨t, List.mem_cons_of_mem _ member, covers⟩
  · intro before run rest later whole apart ih lower
    refine ih ?_
    by_contra early
    have member : c ∈ run :=
      char_in_part whole at_offset lower (by simp only [bytes_append] at early; omega)
    simp [apart c member] at word

theorem tokens_separated {source : String} {before cs : List Char} {tokens : List Token}
    (scan : ScansWords (bytes before) cs tokens) (whole : source.toList = before ++ cs) :
    tokens.IsChain fun a b =>
      ∃ offset c, CharAt source offset c ∧ a.span.stop ≤ offset ∧ offset < b.span.start ∧
        Unicode.isWord c = false := by
  refine reading_induction ?_ ?_ ?_ scan whole
  · exact .nil
  · intro before run rest later whole nonempty all longest tail ih
    refine ih.cons fun t first => ?_
    have wholeTail : source.toList = (before ++ run) ++ rest := by simpa using whole
    obtain ⟨lead, part, last, split, rfl, some, word, lower⟩ :=
      token_is_part tail wholeTail t (List.mem_of_mem_head? first)
    -- a token follows, so the rest has a first character, and that one separates
    cases rest with
    | nil =>
      rw [scan_finds_words tail] at first
      simp [tokensFrom, wordsFrom] at first
    | cons d rest =>
      have border : Unicode.isWord d = false := longest d (by simp)
      have at_border : CharAt source (bytes (before ++ run)) d := ⟨_, _, wholeTail, rfl⟩
      refine ⟨_, d, at_border, by simp [Token.span, spanAt], ?_, border⟩
      by_contra late
      have inPart : d ∈ part :=
        char_in_part split at_border (by simpa [Token.span, spanAt] using late)
          (by have := bytes_positive some; omega)
      simp [word d inPart] at border
  · exact fun before run rest later _ _ ih => ih

def spans (source : String) : List Span := (words source).map Word.span

theorem spans_of_tokens (source : String) :
    (tokensFrom 0 source.toList).map Token.span = spans source := by
  simp [tokensFrom, spans, words, Token.span, Function.comp_def]

theorem scan_from_start (source : String) :
    ScansWords (bytes []) source.toList (tokensFrom 0 source.toList) :=
  (scans_iff_tokens _ _ _).mpr rfl

theorem span_is_part {source : String} {s : Span} (member : s ∈ spans source) :
    ∃ lead part rest, source.toList = lead ++ (part ++ rest) ∧
      s = spanAt (bytes lead) part ∧ part ≠ [] ∧ ∀ c ∈ part, Unicode.isWord c = true := by
  rw [← spans_of_tokens] at member
  obtain ⟨t, listed, rfl⟩ := List.mem_map.mp member
  obtain ⟨lead, part, rest, split, rfl, nonempty, word, _⟩ :=
    token_is_part (scan_from_start source) rfl _ listed
  exact ⟨lead, part, rest, split, rfl, nonempty, word⟩

theorem span_not_empty {source : String} {s : Span} (member : s ∈ spans source) :
    s.start < s.stop := by
  obtain ⟨lead, part, rest, _, rfl, nonempty, _⟩ := span_is_part member
  have := bytes_positive nonempty
  simp only [spanAt]
  omega

theorem spans_separated (source : String) :
    (spans source).IsChain fun a b =>
      ∃ offset c, CharAt source offset c ∧ a.stop ≤ offset ∧ offset < b.start ∧
        Unicode.isWord c = false := by
  rw [← spans_of_tokens, List.isChain_map]
  exact tokens_separated (scan_from_start source) rfl

theorem spans_increasing (source : String) :
    (spans source).Pairwise fun a b => a.start < b.start := by
  have gaps : (spans source).IsChain fun a b => a.stop < b.start := by
    refine (spans_separated source).imp ?_
    rintro a b ⟨offset, c, _, lower, upper, _⟩
    omega
  refine (neighbours_apart (fun _ => span_not_empty) gaps).imp_of_mem ?_
  intro a b member _ apart
  have := span_not_empty member
  omega

theorem spans_are_maximal (source : String) : MaximalRuns source (spans source) where
  increasing := spans_increasing source
  boundaries := by
    intro s member
    obtain ⟨lead, part, rest, split, rfl, _⟩ := span_is_part member
    exact ⟨(on_boundary_iff _ _).mpr ⟨lead, part ++ rest, split, rfl⟩,
      (on_boundary_iff _ _).mpr ⟨lead ++ part, rest, by simpa using split, by simp [spanAt]⟩⟩
  nonempty := fun _ => span_not_empty
  spelled := by
    intro s member
    obtain ⟨lead, part, rest, split, rfl, _⟩ := span_is_part member
    exact part_bytes split
  inside := by
    intro s member offset c at_offset covers
    obtain ⟨lead, part, rest, split, rfl, _, word⟩ := span_is_part member
    exact word c (char_in_part split at_offset covers.1 covers.2)
  outside := by
    intro offset c at_offset uncovered
    by_contra word
    obtain ⟨t, listed, covers⟩ := token_covers_word (scan_from_start source) rfl at_offset
      (Bool.eq_true_of_not_eq_false word) (Nat.zero_le offset)
    refine uncovered t.span ?_ covers
    rw [← spans_of_tokens]
    exact List.mem_map_of_mem listed
  separated := spans_separated source

theorem names_of_spans (source : String) :
    (mnemonics source).map (·.name) = (spans source).map (·.text) := by
  simp [mnemonics, spans, Word.span, Function.comp_def]

theorem mnemonic_is_word {source : String} {m : Mnemonic} (listed : m ∈ mnemonics source) :
    m.name ≠ "" ∧ ∀ c ∈ m.name.toList, Unicode.isWord c = true := by
  have member : m.name ∈ (spans source).map (·.text) :=
    names_of_spans source ▸ List.mem_map_of_mem listed
  obtain ⟨s, inSpans, text⟩ := List.mem_map.mp member
  obtain ⟨_, part, _, _, rfl, nonempty, word⟩ := span_is_part inSpans
  rw [← text]
  exact ⟨by simpa [spanAt] using nonempty, by simpa [spanAt] using word⟩

theorem words_exactly_maximal_runs (source : String) :
    (∀ others, MaximalRuns source others ↔ others = spans source) ∧
    (∀ tokens, ScansWords 0 source.toList tokens ↔ tokens = (spans source).map .word) ∧
    (mnemonics source).map (·.name) = (spans source).map (·.text) := by
  refine ⟨?_, ?_, names_of_spans source⟩
  · intro others
    constructor
    · intro runs
      exact maximal_runs_unique runs (spans_are_maximal source)
    · intro same
      exact same ▸ spans_are_maximal source
  · intro tokens
    rw [scans_iff_tokens, tokensFrom, spans, List.map_map]
    rfl

end Opcodes.Listing
