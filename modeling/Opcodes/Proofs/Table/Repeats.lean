import Opcodes.Proofs.Table.Numbering
import Opcodes.Table

/-! The repeats of a table, told by positions: every declaration whose mnemonic stands before it is
   the later one of a single repeat, and the earlier one is the nearest. -/
namespace Opcodes

def IsLast (ms : List Mnemonic) (m : Mnemonic) (position : Nat) : Prop :=
  ms[position]? = some m ∧ ∀ k, position < k → ms[k]? ≠ some m

theorem last_append_self {before : List Mnemonic} {m : Mnemonic} {position : Nat} :
    IsLast (before ++ [m]) m position ↔ position = before.length := by
  constructor
  · rintro ⟨there, none⟩
    have inside := (List.getElem?_eq_some_iff.mp there).1
    rw [List.length_append, List.length_singleton] at inside
    by_contra other
    exact none before.length (by omega) (by simp)
  · rintro rfl
    refine ⟨by simp, fun k beyond => ?_⟩
    rw [List.getElem?_eq_none (by rw [List.length_append, List.length_singleton]; omega)]
    exact nofun

theorem last_append_other {before : List Mnemonic} {m other : Mnemonic} (apart : other ≠ m)
    {position : Nat} : IsLast (before ++ [m]) other position ↔ IsLast before other position := by
  have same : ∀ k : Nat, (before ++ [m])[k]? = some other ↔ before[k]? = some other := by
    intro k
    rcases Nat.lt_trichotomy k before.length with inside | last | beyond
    · rw [List.getElem?_append_left inside]
    · subst last
      simpa using apart.symm
    · rw [List.getElem?_eq_none (by rw [List.length_append, List.length_singleton]; omega),
        List.getElem?_eq_none (by omega)]
  simp only [IsLast, ne_eq, same]

theorem exists_last {ms : List Mnemonic} {m : Mnemonic} (listed : m ∈ ms) :
    ∃ position, IsLast ms m position := by
  induction ms using List.reverseRecOn with
  | nil => cases listed
  | append_singleton before last ih =>
    by_cases same : m = last
    · subst same
      exact ⟨before.length, last_append_self.mpr rfl⟩
    · have earlier : m ∈ before := by simpa [same] using listed
      obtain ⟨position, isLast⟩ := ih earlier
      exact ⟨position, (last_append_other same).mpr isLast⟩

theorem exists_last_from {ms : List Mnemonic} {m : Mnemonic} {start : Nat}
    (there : ms[start]? = some m) : ∃ position, start ≤ position ∧ IsLast ms m position := by
  obtain ⟨position, isLast⟩ := exists_last (List.mem_of_getElem? there)
  refine ⟨position, ?_, isLast⟩
  by_contra before
  exact isLast.2 start (Nat.lt_of_not_le before) there

/-- Two declarations of one mnemonic, and no third between them. -/
structure IsRepeat (ms : List Mnemonic) (r : Repeat) : Prop where
  ordered : r.earlier.toNat < r.later.toNat
  first : ms[r.earlier.toNat]? = some r.mnemonic
  again : ms[r.later.toNat]? = some r.mnemonic
  nearest : ∀ k, r.earlier.toNat < k → k < r.later.toNat → ms[k]? ≠ some r.mnemonic

theorem is_repeat_iff {ms : List Mnemonic} {r : Repeat} :
    IsRepeat ms r ↔
      ms[r.later.toNat]? = some r.mnemonic ∧
        IsLast (ms.take r.later.toNat) r.mnemonic r.earlier.toNat := by
  constructor
  · intro repeated
    refine ⟨repeated.again, ?_, ?_⟩
    · rw [List.getElem?_take_of_lt repeated.ordered]
      exact repeated.first
    · intro k after
      rw [List.getElem?_take]
      split
      · rename_i before
        exact repeated.nearest k after before
      · exact nofun
  · rintro ⟨again, there, none⟩
    rw [List.getElem?_take] at there
    split at there
    · rename_i ordered
      refine ⟨ordered, there, again, fun k after before => ?_⟩
      have other := none k after
      rwa [List.getElem?_take_of_lt before] at other
    · cases there

/-- The first of all repeats: no declaration before its later one repeats anything. -/
structure IsFirstRepeat (ms : List Mnemonic) (r : Repeat) : Prop where
  ordered : r.earlier.toNat < r.later.toNat
  first : ms[r.earlier.toNat]? = some r.mnemonic
  again : ms[r.later.toNat]? = some r.mnemonic
  only : ∀ i, i < r.later.toNat → ms[i]? = some r.mnemonic → i = r.earlier.toNat
  least : ∀ i j m, i < j → ms[i]? = some m → ms[j]? = some m → r.later.toNat ≤ j

namespace Table

def numbered (start : Nat) (ms : List Mnemonic) : List Entry :=
  (ms.zipIdx start).map fun (m, position) => ⟨m, .ofNat position⟩

theorem numbered_cons (start : Nat) (m : Mnemonic) (rest : List Mnemonic) :
    numbered start (m :: rest) = ⟨m, .ofNat start⟩ :: numbered (start + 1) rest := rfl

/-- `latest` holds the last position of every mnemonic that has been read. -/
def Tracks (latest : Std.TreeMap String Code) (before : List Mnemonic) : Prop :=
  ∀ (m : Mnemonic) (code : Code), latest[m.name]? = some code ↔ IsLast before m code.toNat

theorem tracks_nothing : Tracks ∅ [] := by
  intro m code
  simp [IsLast]

theorem tracks_next {latest : Std.TreeMap String Code} {before : List Mnemonic} {m : Mnemonic}
    (tracks : Tracks latest before) (room : before.length < UInt32.size) :
    Tracks (latest.insert m.name (.ofNat before.length)) (before ++ [m]) := by
  intro other code
  rw [Std.TreeMap.getElem?_insert]
  by_cases same : m = other
  · subst same
    rw [if_pos Std.ReflCmp.compare_self, last_append_self, Option.some.injEq,
      ← UInt32.toNat_inj, UInt32.toNat_ofNat_of_lt' room, eq_comm]
  · have names : m.name ≠ other.name := mt (congrArg Mnemonic.mk) same
    rw [if_neg (by simpa using names), last_append_other (Ne.symm same)]
    exact tracks other code

theorem mem_repeats_cons {latest : Std.TreeMap String Code} {entry : Entry} {rest : List Entry}
    {r : Repeat} :
    r ∈ repeatsFrom latest (entry :: rest) ↔
      (∃ earlier, latest[entry.mnemonic.name]? = some earlier ∧
        r = ⟨entry.mnemonic, earlier, entry.code⟩) ∨
      r ∈ repeatsFrom (latest.insert entry.mnemonic.name entry.code) rest := by
  simp only [repeatsFrom]
  cases latest[entry.mnemonic.name]? with
  | none => simp
  | some earlier => simp

theorem repeat_next_iff {before rest : List Mnemonic} {m : Mnemonic} {r : Repeat}
    (next : r.later.toNat = before.length) :
    IsRepeat (before ++ m :: rest) r ↔
      r.mnemonic = m ∧ IsLast before r.mnemonic r.earlier.toNat := by
  rw [is_repeat_iff, next, List.take_left]
  simp [eq_comm]

section Scan
variable {latest : Std.TreeMap String Code} {before rest : List Mnemonic}

theorem room_after {m : Mnemonic} (bound : before.length + (m :: rest).length ≤ UInt32.size) :
    before.length < UInt32.size ∧ (before ++ [m]).length + rest.length ≤ UInt32.size := by
  rw [List.length_cons] at bound
  rw [List.length_append, List.length_singleton]
  constructor <;> omega

/-- From any point on, the repeats are those whose later declaration is still to come. -/
theorem mem_repeats_from (tracks : Tracks latest before)
    (bound : before.length + rest.length ≤ UInt32.size) {r : Repeat} :
    r ∈ repeatsFrom latest (numbered before.length rest) ↔
      before.length ≤ r.later.toNat ∧ IsRepeat (before ++ rest) r := by
  -- Each step moves one mnemonic from `rest` to the end of `before`, and `latest` keeps track.
  induction rest generalizing latest before with
  | nil =>
    simp only [numbered, List.zipIdx_nil, List.map_nil, repeatsFrom, List.not_mem_nil,
      List.append_nil, false_iff, not_and]
    intro beyond repeated
    have again := repeated.again
    rw [List.getElem?_eq_none beyond] at again
    cases again
  | cons m rest ih =>
    obtain ⟨room, enough⟩ := room_after bound
    have later := ih (tracks_next tracks room) enough
    rw [List.length_append, List.length_singleton, List.append_assoc, List.singleton_append]
      at later
    have here : (∃ earlier, latest[m.name]? = some earlier ∧
        r = ⟨m, earlier, .ofNat before.length⟩) ↔
        r.later.toNat = before.length ∧ IsRepeat (before ++ m :: rest) r := by
      constructor
      · rintro ⟨earlier, tracked, rfl⟩
        have next : (UInt32.ofNat before.length).toNat = before.length :=
          UInt32.toNat_ofNat_of_lt' room
        exact ⟨next, (repeat_next_iff next).mpr ⟨rfl, (tracks m earlier).mp tracked⟩⟩
      · rintro ⟨next, repeated⟩
        obtain ⟨rfl, isLast⟩ := (repeat_next_iff next).mp repeated
        refine ⟨r.earlier, (tracks _ _).mpr isLast, ?_⟩
        rw [← next, UInt32.ofNat_toNat]
    rw [numbered_cons, mem_repeats_cons, here, later, ← or_and_right]
    refine and_congr_left fun _ => ?_
    omega

theorem repeats_from_increasing (tracks : Tracks latest before)
    (bound : before.length + rest.length ≤ UInt32.size) :
    (repeatsFrom latest (numbered before.length rest)).Pairwise
      fun a b => a.later.toNat < b.later.toNat := by
  induction rest generalizing latest before with
  | nil => exact List.Pairwise.nil
  | cons m rest ih =>
    obtain ⟨room, enough⟩ := room_after bound
    have tracksNext := tracks_next (m := m) tracks room
    have increasing := ih tracksNext enough
    have coming : ∀ b ∈ repeatsFrom (latest.insert m.name (.ofNat before.length))
        (numbered (before ++ [m]).length rest), before.length < b.later.toNat := by
      intro b listed
      have beyond := ((mem_repeats_from tracksNext enough).mp listed).1
      rw [List.length_append, List.length_singleton] at beyond
      omega
    rw [List.length_append, List.length_singleton] at increasing coming
    simp only [numbered_cons, repeatsFrom]
    cases latest[m.name]? with
    | none => exact increasing
    | some earlier =>
      refine List.pairwise_cons.mpr ⟨fun b listed => ?_, increasing⟩
      rw [UInt32.toNat_ofNat_of_lt' room]
      exact coming b listed

end Scan

theorem no_repeats_from {latest : Std.TreeMap String Code} {entries : List Entry}
    (distinct : (entries.map (·.mnemonic)).Nodup)
    (fresh : ∀ entry ∈ entries, latest[entry.mnemonic.name]? = none) :
    repeatsFrom latest entries = [] := by
  induction entries generalizing latest with
  | nil => rfl
  | cons entry rest ih =>
    rw [List.map_cons, List.nodup_cons] at distinct
    obtain ⟨unlisted, distinctRest⟩ := distinct
    simp only [repeatsFrom, fresh entry List.mem_cons_self]
    apply ih distinctRest
    intro other member
    have names : entry.mnemonic.name ≠ other.mnemonic.name := by
      intro same
      have equal : entry.mnemonic = other.mnemonic := congrArg Mnemonic.mk same
      apply unlisted
      rw [equal]
      exact List.mem_map_of_mem member
    rw [Std.TreeMap.getElem?_insert, if_neg (by simpa using names)]
    exact fresh other (List.mem_cons_of_mem _ member)

/-- Without equal mnemonics there is no repeat, even where codes run out. -/
theorem no_repeats_of_distinct {ms : List Mnemonic} (distinct : ms.Nodup) :
    (ofMnemonics ms).repeats = [] := by
  apply no_repeats_from
  · rw [mnemonics_of_entries]
    exact distinct
  · intro entry _
    exact Std.TreeMap.getElem?_emptyc

section Listed
variable {ms : List Mnemonic} (bound : ms.length ≤ UInt32.size)
include bound

theorem mem_repeats_iff {r : Repeat} : r ∈ (ofMnemonics ms).repeats ↔ IsRepeat ms r := by
  have all : r ∈ repeatsFrom ∅ (numbered ([] : List Mnemonic).length ms) ↔
      ([] : List Mnemonic).length ≤ r.later.toNat ∧ IsRepeat ([] ++ ms) r :=
    mem_repeats_from tracks_nothing (by simpa using bound)
  rw [List.length_nil, List.nil_append, and_iff_right (Nat.zero_le _)] at all
  exact all

theorem repeats_increasing :
    (ofMnemonics ms).repeats.Pairwise fun a b => a.later.toNat < b.later.toNat := by
  have all : (repeatsFrom ∅ (numbered ([] : List Mnemonic).length ms)).Pairwise
      fun a b => a.later.toNat < b.later.toNat :=
    repeats_from_increasing tracks_nothing (by simpa using bound)
  exact all

theorem repeat_found {i j : Nat} {m : Mnemonic} (ordered : i < j) (first : ms[i]? = some m)
    (again : ms[j]? = some m) :
    ∃ r ∈ (ofMnemonics ms).repeats, r.mnemonic = m ∧ r.later.toNat = j := by
  have inside := (List.getElem?_eq_some_iff.mp again).1
  have before : m ∈ ms.take j := by
    rw [← List.getElem?_take_of_lt ordered] at first
    exact List.mem_of_getElem? first
  obtain ⟨nearest, isLast⟩ := exists_last before
  have earlier := (List.getElem?_eq_some_iff.mp isLast.1).1
  rw [List.length_take] at earlier
  have codes : (UInt32.ofNat nearest).toNat = nearest ∧ (UInt32.ofNat j).toNat = j :=
    ⟨UInt32.toNat_ofNat_of_lt' (by omega), UInt32.toNat_ofNat_of_lt' (by omega)⟩
  refine ⟨⟨m, .ofNat nearest, .ofNat j⟩, (mem_repeats_iff bound).mpr ?_, rfl, codes.2⟩
  refine is_repeat_iff.mpr ?_
  simp only [codes]
  exact ⟨again, isLast⟩

theorem first_repeat {r : Repeat} {later : List Repeat}
    (found : (ofMnemonics ms).repeats = r :: later) : IsFirstRepeat ms r := by
  have repeated : IsRepeat ms r := by
    refine (mem_repeats_iff bound).mp ?_
    rw [found]
    exact List.mem_cons_self
  have least : ∀ i j m, i < j → ms[i]? = some m → ms[j]? = some m → r.later.toNat ≤ j := by
    intro i j m ordered first again
    -- Any repetition is some repeat's later declaration, and the repeats come in that order.
    obtain ⟨other, listed, _, rfl⟩ := repeat_found bound ordered first again
    have increasing := repeats_increasing bound
    rw [found] at listed increasing
    rcases List.mem_cons.mp listed with rfl | more
    · exact Nat.le_refl _
    · exact Nat.le_of_lt (List.rel_of_pairwise_cons increasing more)
  refine ⟨repeated.ordered, repeated.first, repeated.again, ?_, least⟩
  intro i before there
  rcases Nat.lt_trichotomy i r.earlier.toNat with sooner | same | between
  · have := least i r.earlier.toNat r.mnemonic sooner there repeated.first
    have := repeated.ordered
    omega
  · exact same
  · exact absurd there (repeated.nearest i between before)

theorem no_repeats_iff : (ofMnemonics ms).repeats = [] ↔ ms.Nodup := by
  constructor
  · intro none
    rw [List.nodup_iff_getElem?_ne_getElem?]
    intro i j ordered inside same
    have again := List.getElem?_eq_getElem inside
    obtain ⟨r, listed, _⟩ := repeat_found bound ordered (same.trans again) again
    rw [none] at listed
    cases listed
  · exact no_repeats_of_distinct

end Listed

theorem of_distinct_nil {ms : List Mnemonic} (none : (ofMnemonics ms).repeats = []) :
    ofDistinct ms = .ok (ofMnemonics ms) := by
  simp only [ofDistinct, none]

theorem of_distinct_cons {ms : List Mnemonic} {r : Repeat} {later : List Repeat}
    (found : (ofMnemonics ms).repeats = r :: later) :
    ofDistinct ms = .error (.repeatedMnemonic r.mnemonic.name r.earlier r.later) := by
  simp only [ofDistinct, found]

end Table
end Opcodes
