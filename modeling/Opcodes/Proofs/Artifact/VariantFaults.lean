import Opcodes.Artifact
import Opcodes.Proofs.Table.Repeats

/-! For which entry an enumeration is refused, and with what error. The entries are checked in order,
   each for its variant alone and then against the variants before it, so the first entry with a
   fault decides, and a fault of the variant alone comes before a clash. -/
namespace Opcodes.Artifact.Enumeration

def IsBad (m : Mnemonic) : Prop :=
  m.variant = "" ∨ (∃ c ∈ m.variant.toList.head?, Unicode.isAlphabetic c = false) ∨
    m.variant = "Self"

abbrev IsBadAt (ms : List Mnemonic) (position : Nat) : Prop := ∃ m ∈ ms[position]?, IsBad m

abbrev MadeAt (ms : List Mnemonic) (variant : String) (position : Nat) : Prop :=
  ∃ m ∈ ms[position]?, m.variant = variant

abbrev Clashes (ms : List Mnemonic) (position : Nat) : Prop :=
  ∃ m ∈ ms[position]?, ∃ earlier, earlier < position ∧ MadeAt ms m.variant earlier

theorem legal_iff {m : Mnemonic} : isLegalVariant m.variant = true ↔ ¬ IsBad m := by
  unfold isLegalVariant IsBad
  split
  · rename_i empty
    simp [String.toList_eq_nil_iff.mp empty]
  · rename_i c rest text
    have nonempty : m.variant ≠ "" := by
      intro empty
      rw [empty] at text
      cases text
    simp [text, nonempty]

instance (m : Mnemonic) : Decidable (IsBad m) :=
  decidable_of_iff (¬ isLegalVariant m.variant = true) legal_iff.not_left

theorem clash_of_made {ms : List Mnemonic} {variant : String} {earlier position : Nat}
    (ordered : earlier < position) (first : MadeAt ms variant earlier)
    (again : MadeAt ms variant position) : Clashes ms position := by
  obtain ⟨m, there, rfl⟩ := again
  exact ⟨m, there, earlier, ordered, first⟩

theorem made_once {ms : List Mnemonic} {variant : String} {earlier position : Nat}
    (first : ∀ k, k < position → ¬ Clashes ms k) (ordered : earlier < position)
    (made : MadeAt ms variant earlier) (k : Nat) :
    k < position ∧ MadeAt ms variant k ↔ k = earlier := by
  constructor
  · rintro ⟨before, madeToo⟩
    rcases Nat.lt_trichotomy k earlier with sooner | same | between
    · exact absurd (clash_of_made sooner madeToo made) (first earlier ordered)
    · exact same
    · exact absurd (clash_of_made between made madeToo) (first k before)
  · rintro rfl
    exact ⟨ordered, made⟩

/-- What is said about a position where a mnemonic is bad or clashes. -/
inductive FaultAt (ms : List Mnemonic) (position : Nat) : Error → Prop
  | illegal {m : Mnemonic} (there : ms[position]? = some m) (bad : IsBad m) :
      FaultAt ms position (.notAnIdentifier m.name)
  | clash {m : Mnemonic} {first second : Code} (there : ms[position]? = some m)
      (legal : ¬ IsBad m) (here : second.toNat = position) (ordered : first.toNat < position)
      (made : MadeAt ms m.variant first.toNat) :
      FaultAt ms position (.variantClash m.variant first second)

theorem fault_iff {ms : List Mnemonic} (bound : ms.length ≤ UInt32.size) {position : Nat} :
    (∃ e, FaultAt ms position e) ↔ IsBadAt ms position ∨ Clashes ms position := by
  constructor
  · rintro ⟨e, fault⟩
    cases fault with
    | illegal there bad => exact Or.inl ⟨_, there, bad⟩
    | clash there legal here ordered made => exact Or.inr ⟨_, there, _, ordered, made⟩
  · rintro (⟨m, there, bad⟩ | ⟨m, there, earlier, ordered, made⟩)
    · exact ⟨_, .illegal there bad⟩
    · by_cases bad : IsBad m
      · exact ⟨_, .illegal there bad⟩
      · have room := Nat.lt_of_lt_of_le (List.getElem?_eq_some_iff.mp there).1 bound
        have here : (UInt32.ofNat position).toNat = position := UInt32.toNat_ofNat_of_lt' room
        have before : (UInt32.ofNat earlier).toNat = earlier :=
          UInt32.toNat_ofNat_of_lt' (Nat.lt_trans ordered room)
        rw [← before] at ordered made
        exact ⟨_, .clash there bad here ordered made⟩

/-- `taken` holds the one position at which each variant so far has been made. -/
def Records (taken : Std.TreeMap String Code) (before : List Mnemonic) : Prop :=
  ∀ (variant : String) (code : Code),
    taken[variant]? = some code ↔ MadeAt before variant code.toNat

theorem records_nothing : Records ∅ [] := by
  intro variant code
  simp [MadeAt]

section Step
variable {taken : Std.TreeMap String Code} {before rest : List Mnemonic} {m : Mnemonic}

theorem made_append {variant : String} {position : Nat} :
    MadeAt (before ++ [m]) variant position ↔
      MadeAt before variant position ∨ position = before.length ∧ m.variant = variant := by
  unfold MadeAt
  rcases Nat.lt_trichotomy position before.length with inside | rfl | beyond
  · simp [List.getElem?_append_left inside, Nat.ne_of_lt inside]
  · simp
  · have past : (before ++ [m]).length ≤ position := by
      rw [List.length_append, List.length_singleton]
      exact beyond
    simp [List.getElem?_eq_none past, List.getElem?_eq_none (Nat.le_of_lt beyond),
      Nat.ne_of_gt beyond]

theorem made_before {variant : String} {position : Nat} (inside : position < before.length) :
    MadeAt (before ++ rest) variant position ↔ MadeAt before variant position := by
  rw [MadeAt, MadeAt, List.getElem?_append_left inside]

theorem made_inside {ms : List Mnemonic} {variant : String} {position : Nat}
    (made : MadeAt ms variant position) : position < ms.length := by
  obtain ⟨m, there, _⟩ := made
  exact (List.getElem?_eq_some_iff.mp there).1

theorem records_next (records : Records taken before) (room : before.length < UInt32.size)
    (fresh : taken[m.variant]? = none) :
    Records (taken.insert m.variant (.ofNat before.length)) (before ++ [m]) := by
  intro variant code
  rw [Std.TreeMap.getElem?_insert, made_append]
  by_cases same : m.variant = variant
  · subst same
    have unmade : ¬ MadeAt before m.variant code.toNat := by
      rw [← records, fresh]
      exact nofun
    rw [if_pos Std.ReflCmp.compare_self, Option.some.injEq, ← UInt32.toNat_inj,
      UInt32.toNat_ofNat_of_lt' room, or_iff_right unmade, and_iff_left rfl, eq_comm]
  · rw [if_neg (by simpa using same), records, or_iff_left (same ·.2)]

theorem next_faulty (records : Records taken before) {e : Error}
    (fault : FaultAt (before ++ m :: rest) before.length e) :
    armsFrom taken (Table.numbered before.length (m :: rest)) = .error e := by
  have next : (before ++ m :: rest)[before.length]? = some m := by simp
  rw [Table.numbered_cons]
  cases fault with
  | illegal there bad =>
    obtain rfl := Option.some.inj (next.symm.trans there)
    have illegal := legal_iff.not_left.mpr bad
    simp [armsFrom, illegal]
  | @clash _ first second there legal here ordered made =>
    obtain rfl := Option.some.inj (next.symm.trans there)
    have found := (records m.variant first).mpr ((made_before ordered).mp made)
    have code : second = .ofNat before.length := by rw [← here, UInt32.ofNat_toNat]
    simp [armsFrom, legal_iff.mpr legal, found, code]

theorem next_faultless (records : Records taken before) (room : before.length < UInt32.size)
    (faultless : ∀ e, ¬ FaultAt (before ++ m :: rest) before.length e) :
    taken[m.variant]? = none ∧
      armsFrom taken (Table.numbered before.length (m :: rest)) =
        (armsFrom (taken.insert m.variant (.ofNat before.length))
          (Table.numbered (before.length + 1) rest)).map
            (⟨m.variant, .ofNat before.length, m.upper⟩ :: ·) := by
  have next : (before ++ m :: rest)[before.length]? = some m := by simp
  have legal : ¬ IsBad m := fun bad => faultless _ (.illegal next bad)
  have fresh : taken[m.variant]? = none := by
    cases found : taken[m.variant]? with
    | none => rfl
    | some first =>
      have made := (records m.variant first).mp found
      have ordered := made_inside made
      have clash := FaultAt.clash next legal (UInt32.toNat_ofNat_of_lt' room) ordered
        ((made_before ordered).mpr made)
      exact absurd clash (faultless _)
  refine ⟨fresh, ?_⟩
  rw [Table.numbered_cons]
  simp only [armsFrom, legal_iff.mpr legal, if_true, fresh]
  cases armsFrom (taken.insert m.variant (.ofNat before.length))
    (Table.numbered (before.length + 1) rest) <;> rfl

end Step

section Scan
variable {taken : Std.TreeMap String Code} {before rest : List Mnemonic}

theorem arms_fail (records : Records taken before)
    (bound : before.length + rest.length ≤ UInt32.size) {position : Nat} {e : Error}
    (fault : FaultAt (before ++ rest) position e) (ahead : before.length ≤ position)
    (first : ∀ k, before.length ≤ k → k < position → ∀ e, ¬ FaultAt (before ++ rest) k e) :
    armsFrom taken (Table.numbered before.length rest) = .error e := by
  -- One mnemonic after the other moves from `rest` to the end of `before`, until the faulty one is next.
  induction rest generalizing taken before with
  | nil =>
    have there : position < before.length := by
      cases fault with
      | illegal there => simpa using (List.getElem?_eq_some_iff.mp there).1
      | clash there => simpa using (List.getElem?_eq_some_iff.mp there).1
    omega
  | cons m rest ih =>
    obtain ⟨room, enough⟩ := Table.room_after bound
    rcases Nat.eq_or_lt_of_le ahead with rfl | later
    · exact next_faulty records fault
    · obtain ⟨fresh, taking⟩ := next_faultless records room (first _ (Nat.le_refl _) later)
      have shifted := @ih _ (before ++ [m]) (records_next records room fresh) enough
      simp only [List.length_append, List.length_singleton, List.append_assoc,
        List.singleton_append] at shifted
      rw [taking, shifted fault later fun k behind => first k (Nat.le_of_lt behind)]
      rfl

theorem arms_succeed (records : Records taken before)
    (bound : before.length + rest.length ≤ UInt32.size)
    (faultless : ∀ k e, ¬ FaultAt (before ++ rest) k e) :
    ∃ arms, armsFrom taken (Table.numbered before.length rest) = .ok arms := by
  induction rest generalizing taken before with
  | nil => exact ⟨[], rfl⟩
  | cons m rest ih =>
    obtain ⟨room, enough⟩ := Table.room_after bound
    obtain ⟨fresh, taking⟩ := next_faultless records room (faultless _)
    have shifted := @ih _ (before ++ [m]) (records_next records room fresh) enough
    simp only [List.length_append, List.length_singleton, List.append_assoc,
      List.singleton_append] at shifted
    obtain ⟨arms, accepted⟩ := shifted faultless
    rw [taking, accepted]
    exact ⟨_, rfl⟩

end Scan

section Listed
variable {ms : List Mnemonic} (bound : ms.length ≤ UInt32.size)
include bound

theorem render_fails (enumName : String) {position : Nat} {e : Error}
    (fault : FaultAt ms position e)
    (first : ∀ k, k < position → ¬ (IsBadAt ms k ∨ Clashes ms k)) :
    render enumName (.ofMnemonics ms) = .error e := by
  have failed : armsFrom ∅ (Table.numbered ([] : List Mnemonic).length ms) = .error e := by
    refine arms_fail records_nothing (by simpa using bound) fault (Nat.zero_le _) ?_
    intro k _ before other earlierFault
    exact first k before ((fault_iff bound).mp ⟨other, earlierFault⟩)
  change arms (.ofMnemonics ms) = .error e at failed
  rw [render, failed]

theorem render_succeeds (enumName : String)
    (faultless : ∀ k, ¬ (IsBadAt ms k ∨ Clashes ms k)) :
    ∃ text, render enumName (.ofMnemonics ms) = .ok text := by
  have accepted : ∃ arms, armsFrom ∅ (Table.numbered ([] : List Mnemonic).length ms) = .ok arms := by
    refine arms_succeed records_nothing (by simpa using bound) fun k e fault => ?_
    exact faultless k ((fault_iff bound).mp ⟨e, fault⟩)
  obtain ⟨made, accepted⟩ := accepted
  change arms (.ofMnemonics ms) = .ok made at accepted
  rw [render, accepted]
  exact ⟨_, rfl⟩

end Listed

/-- An enumeration is made of all mnemonics of which none is bad and none clashes. Of any others the
    first position with a fault is reported: a bad mnemonic as such, and another one together with
    the only position before it that has the same variant. -/
theorem first_fault_is_reported (enumName : String) (ms : List Mnemonic)
    (bound : ms.length ≤ UInt32.size) :
    ((∃ text, render enumName (.ofMnemonics ms) = .ok text) ↔
      ∀ k, ¬ (IsBadAt ms k ∨ Clashes ms k)) ∧
    ∀ position m, ms[position]? = some m → IsBad m ∨ Clashes ms position →
      (∀ k, k < position → ¬ (IsBadAt ms k ∨ Clashes ms k)) →
        (IsBad m → render enumName (.ofMnemonics ms) = .error (.notAnIdentifier m.name)) ∧
        (¬ IsBad m → ∃ first second : Code, second.toNat = position ∧
          (∀ k, k < position ∧ MadeAt ms m.variant k ↔ k = first.toNat) ∧
          render enumName (.ofMnemonics ms) = .error (.variantClash m.variant first second)) := by
  constructor
  · constructor
    · rintro ⟨text, rendered⟩ k faulty
      -- Were there any fault, the least one would have been reported.
      have exists_faulty : ∃ k, IsBadAt ms k ∨ Clashes ms k := ⟨k, faulty⟩
      obtain ⟨e, fault⟩ := (fault_iff bound).mpr (Nat.find_spec exists_faulty)
      rw [render_fails bound enumName fault fun _ => Nat.find_min exists_faulty] at rendered
      cases rendered
    · exact render_succeeds bound enumName
  · intro position m there faulty first
    constructor
    · intro bad
      exact render_fails bound enumName (.illegal there bad) first
    · intro legal
      obtain ⟨e, fault⟩ := (fault_iff bound).mpr (Or.inr (faulty.resolve_left legal))
      have failed := render_fails bound enumName fault first
      cases fault with
      | illegal again bad =>
        obtain rfl := Option.some.inj (there.symm.trans again)
        exact absurd bad legal
      | clash again _ here ordered made =>
        obtain rfl := Option.some.inj (there.symm.trans again)
        have noClash : ∀ k, k < position → ¬ Clashes ms k := fun k before clash =>
          first k before (Or.inr clash)
        exact ⟨_, _, here, made_once noClash ordered made, failed⟩

theorem clash_before_digit :
    ∃ ms : List Mnemonic, ms = [⟨"pop"⟩, ⟨"add"⟩, ⟨"pop_"⟩, ⟨"2x"⟩] ∧
      ms.length ≤ UInt32.size ∧ Clashes ms 2 ∧ IsBadAt ms 3 ∧
      (∀ k, k < 2 → ¬ (IsBadAt ms k ∨ Clashes ms k)) ∧
      render "Opcode" (.ofMnemonics ms) = .error (.variantClash "Pop" 0 2) := by
  let ms : List Mnemonic := [⟨"pop"⟩, ⟨"add"⟩, ⟨"pop_"⟩, ⟨"2x"⟩]
  have bound : ms.length ≤ UInt32.size := by decide
  have clash : Clashes ms 2 := by decide +kernel
  have bad : IsBadAt ms 3 := by decide +kernel
  have sound : ∀ k, k < 2 → ¬ (IsBadAt ms k ∨ Clashes ms k) := by decide +kernel
  have legal : ¬ IsBad ⟨"pop_"⟩ := by decide +kernel
  obtain ⟨_, refused⟩ := first_fault_is_reported "Opcode" ms bound
  obtain ⟨_, clashes⟩ := refused 2 ⟨"pop_"⟩ rfl (Or.inr clash) sound
  obtain ⟨first, second, here, once, failed⟩ := clashes legal
  have earlier : first.toNat = 0 := ((once 0).mp (by decide +kernel)).symm
  obtain rfl : first = 0 := UInt32.toNat_inj.mp earlier
  obtain rfl : second = 2 := UInt32.toNat_inj.mp here
  have variant : (⟨"pop_"⟩ : Mnemonic).variant = "Pop" := by decide +kernel
  rw [variant] at failed
  exact ⟨ms, rfl, bound, clash, bad, sound, failed⟩

end Opcodes.Artifact.Enumeration
