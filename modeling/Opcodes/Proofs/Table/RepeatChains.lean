import Mathlib.Data.List.Sort
import Opcodes.Proofs.Shadowing
import Opcodes.Proofs.Table.Numbering

/-! The repeats of a table as a whole. There is one for every two neighbouring declarations of a
   mnemonic, so the repeats of one mnemonic lead from its first declaration to its last, and every
   declaration is either the first of its name or the later one of a repeat. -/
namespace Opcodes

/-- Two declarations of a mnemonic between which it is not declared. -/
def Neighbours (ms : List Mnemonic) (m : Mnemonic) (i j : Nat) : Prop :=
  i < j ∧ ms[i]? = some m ∧ ms[j]? = some m ∧ ∀ k, i < k → k < j → ms[k]? ≠ some m

def Repeat.places (r : Repeat) : Mnemonic × Nat × Nat :=
  (r.mnemonic, r.earlier.toNat, r.later.toNat)

theorem repeat_iff_neighbours {ms : List Mnemonic} {r : Repeat} :
    IsRepeat ms r ↔ Neighbours ms r.mnemonic r.earlier.toNat r.later.toNat := by
  constructor
  · intro repeated
    exact ⟨repeated.ordered, repeated.first, repeated.again, repeated.nearest⟩
  · intro neighbours
    obtain ⟨ordered, first, again, nearest⟩ := neighbours
    exact ⟨ordered, first, again, nearest⟩

namespace Table

def repeatsOf (table : Table) (m : Mnemonic) : List Repeat :=
  table.repeats.filter (·.mnemonic == m)

theorem repeats_from_append (latest : Std.TreeMap String Code) (first second : List Entry) :
    repeatsFrom latest (first ++ second) =
      repeatsFrom latest first ++
        repeatsFrom (first.foldl (fun found e => found.insert e.mnemonic.name e.code) latest)
          second := by
  induction first generalizing latest with
  | nil => rfl
  | cons entry first ih =>
    simp only [List.cons_append, repeatsFrom, ih, List.foldl_cons]
    cases latest[entry.mnemonic.name]? with
    | none => rfl
    | some earlier => rfl

theorem repeats_append (before : List Mnemonic) (m : Mnemonic) :
    (ofMnemonics (before ++ [m])).repeats =
      (ofMnemonics before).repeats ++
        (((ofMnemonics before).codeOf? m.name).map
          fun earlier => ⟨m, earlier, .ofNat before.length⟩).toList := by
  have found : (ofMnemonics before).codeMap[m.name]? = (ofMnemonics before).codeOf? m.name :=
    code_map_lookup _ _
  rw [repeats, entries_append, repeats_from_append, ← found]
  change _ ++ repeatsFrom (ofMnemonics before).codeMap _ = _
  simp only [repeatsFrom]
  cases (ofMnemonics before).codeMap[m.name]? with
  | none => rfl
  | some earlier => rfl

theorem code_map_append (before : List Mnemonic) (m : Mnemonic) :
    (ofMnemonics (before ++ [m])).codeMap =
      (ofMnemonics before).codeMap.insert m.name (.ofNat before.length) := by
  rw [codeMap, entries_append, List.foldl_append]
  rfl

/-- A declaration counts once, as the first of its name or as a repeat. -/
theorem size_counts_names_and_repeats (ms : List Mnemonic) :
    (ofMnemonics ms).size = (ofMnemonics ms).codeMap.size + (ofMnemonics ms).repeats.length := by
  induction ms using List.reverseRecOn with
  | nil => rfl
  | append_singleton before m ih =>
    rw [size_of_mnemonics] at ih ⊢
    have known : (ofMnemonics before).codeMap.contains m.name =
        ((ofMnemonics before).codeOf? m.name).isSome := by
      rw [Std.TreeMap.contains_eq_isSome_getElem?, code_map_lookup]
    rw [repeats_append, code_map_append, Std.TreeMap.size_insert, known]
    simp only [List.length_append, List.length_singleton]
    cases (ofMnemonics before).codeOf? m.name with
    | none =>
      simp only [Option.isSome_none, Bool.false_eq_true, if_false, Option.map_none,
        Option.toList_none, List.length_nil]
      omega
    | some earlier =>
      simp only [Option.isSome_some, if_true, Option.map_some, Option.toList_some,
        List.length_singleton]
      omega

section Declarations
variable {ms : List Mnemonic}

theorem positions_append (before : List Mnemonic) (last m : Mnemonic) :
    (before ++ [last]).idxsOf m =
      before.idxsOf m ++ if last = m then [before.length] else [] := by
  rw [List.idxsOf_append, Nat.zero_add]
  by_cases same : last = m <;> simp [same]

theorem repeats_of_append (before : List Mnemonic) (last m : Mnemonic) :
    (ofMnemonics (before ++ [last])).repeatsOf m =
      (ofMnemonics before).repeatsOf m ++
        if last = m then
          (((ofMnemonics before).codeOf? m.name).map
            fun earlier => ⟨m, earlier, .ofNat before.length⟩).toList
        else [] := by
  rw [repeatsOf, repeats_append, List.filter_append]
  congr 1
  by_cases same : last = m
  · subst same
    rw [if_pos rfl]
    cases (ofMnemonics before).codeOf? last.name <;> simp
  · rw [if_neg same]
    cases (ofMnemonics before).codeOf? last.name <;> simp [same]

/-- The repeats of a mnemonic start at all its declarations but the last, which is the one that is
    found, and they end at all but the first. -/
theorem repeats_cover_declarations (bound : ms.length ≤ UInt32.size) (m : Mnemonic) :
    ((ofMnemonics ms).repeatsOf m).map (·.earlier.toNat) = (ms.idxsOf m).dropLast ∧
    ((ofMnemonics ms).repeatsOf m).map (·.later.toNat) = (ms.idxsOf m).tail ∧
    ((ofMnemonics ms).codeOf? m.name).map UInt32.toNat = (ms.idxsOf m).getLast? := by
  induction ms using List.reverseRecOn with
  | nil => exact ⟨rfl, rfl, rfl⟩
  | append_singleton before last ih =>
    rw [List.length_append, List.length_singleton] at bound
    obtain ⟨starts, ends, found⟩ := ih (by omega)
    have place : (UInt32.ofNat before.length).toNat = before.length :=
      UInt32.toNat_ofNat_of_lt' (by omega)
    rw [repeats_of_append, positions_append, code_of_append]
    by_cases same : last = m
    · subst same
      rw [if_pos rfl, if_pos rfl, if_pos rfl]
      cases known : (ofMnemonics before).codeOf? last.name with
      | none =>
        rw [known, Option.map_none, eq_comm, List.getLast?_eq_none_iff] at found
        rw [found] at starts ends ⊢
        simp [starts, ends, place]
      | some earlier =>
        rw [known] at found
        have whole := List.dropLast_append_getLast? _ found.symm
        have some : before.idxsOf last ≠ [] := by
          rw [← whole]
          simp
        refine ⟨?_, ?_, ?_⟩
        · simp [starts, whole]
        · simp [ends, place, List.tail_append_of_ne_nil some]
        · simp [place]
    · have names : last.name ≠ m.name := mt (congrArg Mnemonic.mk) same
      rw [if_neg same, if_neg same, if_neg names, List.append_nil, List.append_nil]
      exact ⟨starts, ends, found⟩

theorem repeats_chain (bound : ms.length ≤ UInt32.size) (m : Mnemonic) :
    ((ofMnemonics ms).repeatsOf m).IsChain fun a b => a.later = b.earlier := by
  obtain ⟨starts, ends, _⟩ := repeats_cover_declarations bound m
  rw [List.isChain_iff_getElem]
  intro k inside
  have later : (ms.idxsOf m)[k + 1]? = some ((ofMnemonics ms).repeatsOf m)[k].later.toNat := by
    rw [← List.getElem?_tail, ← ends, List.getElem?_map, List.getElem?_eq_getElem (by omega)]
    rfl
  have earlier : (ms.idxsOf m).dropLast[k + 1]? =
      some ((ofMnemonics ms).repeatsOf m)[k + 1].earlier.toNat := by
    rw [← starts, List.getElem?_map, List.getElem?_eq_getElem inside]
    rfl
  rw [List.getElem?_dropLast] at earlier
  split at earlier
  · apply UInt32.toNat_inj.mp
    exact Option.some.inj (later.symm.trans earlier)
  · cases earlier

theorem places_of_repeats_iff (bound : ms.length ≤ UInt32.size) {m : Mnemonic} {i j : Nat} :
    (m, i, j) ∈ (ofMnemonics ms).repeats.map Repeat.places ↔ Neighbours ms m i j := by
  constructor
  · intro listed
    obtain ⟨r, member, places⟩ := List.mem_map.mp listed
    have neighbours := repeat_iff_neighbours.mp ((mem_repeats_iff bound).mp member)
    cases places
    exact neighbours
  · intro neighbours
    let r : Repeat := ⟨m, .ofNat i, .ofNat j⟩
    have first : r.earlier.toNat = i := position_is_code bound neighbours.2.1
    have second : r.later.toNat = j := position_is_code bound neighbours.2.2.1
    have places : r.places = (m, i, j) := by
      rw [Repeat.places, first, second]
    rw [← places]
    apply List.mem_map_of_mem
    apply (mem_repeats_iff bound).mpr
    apply repeat_iff_neighbours.mpr
    rw [first, second]
    exact neighbours

/-- Only one list has these pairs in the order of their later positions. -/
theorem places_of_repeats_unique (bound : ms.length ≤ UInt32.size)
    (places : List (Mnemonic × Nat × Nat)) :
    (places.Pairwise (fun a b => a.2.2 < b.2.2) ∧
        ∀ m i j, (m, i, j) ∈ places ↔ Neighbours ms m i j) ↔
      places = (ofMnemonics ms).repeats.map Repeat.places := by
  have increasing : ((ofMnemonics ms).repeats.map Repeat.places).Pairwise
      fun a b => a.2.2 < b.2.2 := by
    rw [List.pairwise_map]
    exact repeats_increasing bound
  constructor
  · intro described
    obtain ⟨ordered, listed⟩ := described
    have irreflexive : Std.Irrefl fun a b : Mnemonic × Nat × Nat => a.2.2 < b.2.2 :=
      ⟨fun a => Nat.lt_irrefl a.2.2⟩
    apply ordered.eq_of_mem_iff increasing
    intro place
    obtain ⟨m, i, j⟩ := place
    rw [listed, places_of_repeats_iff bound]
  · intro same
    subst places
    constructor
    · exact increasing
    · intro m i j
      exact places_of_repeats_iff bound

end Declarations

/-- The repeats of a table are the neighbouring declarations of equal mnemonics, in the order of the
    later one, each of them once. Those of one mnemonic are a chain through all its declarations, from
    the first to the one that is found by name; and with the names they count all declarations. -/
theorem repeats_are_neighbours (ms : List Mnemonic) (bound : ms.length ≤ UInt32.size) :
    (∀ places : List (Mnemonic × Nat × Nat),
      (places.Pairwise (fun a b => a.2.2 < b.2.2) ∧
          ∀ m i j, (m, i, j) ∈ places ↔ Neighbours ms m i j) ↔
        places = (ofMnemonics ms).repeats.map Repeat.places) ∧
    (∀ m, ((ofMnemonics ms).repeatsOf m).IsChain (fun a b => a.later = b.earlier) ∧
      ((ofMnemonics ms).repeatsOf m).map (·.earlier.toNat) = (ms.idxsOf m).dropLast ∧
      ((ofMnemonics ms).repeatsOf m).map (·.later.toNat) = (ms.idxsOf m).tail ∧
      ((ofMnemonics ms).codeOf? m.name).map UInt32.toNat = (ms.idxsOf m).getLast?) ∧
    (ofMnemonics ms).size =
      (ofMnemonics ms).codeMap.size + (ofMnemonics ms).repeats.length := by
  refine ⟨?_, ?_, size_counts_names_and_repeats ms⟩
  · exact places_of_repeats_unique bound
  · intro m
    exact ⟨repeats_chain bound m, repeats_cover_declarations bound m⟩

theorem repeats_of_interleaved_names :
    ∃ ms : List Mnemonic, ms = [⟨"a"⟩, ⟨"b"⟩, ⟨"a"⟩, ⟨"c"⟩, ⟨"a"⟩, ⟨"b"⟩] ∧
      ms.length ≤ UInt32.size ∧
      (ofMnemonics ms).repeats.map Repeat.places =
        [(⟨"a"⟩, 0, 2), (⟨"a"⟩, 2, 4), (⟨"b"⟩, 1, 5)] ∧
      Neighbours ms ⟨"a"⟩ 2 4 ∧ ¬ Neighbours ms ⟨"a"⟩ 0 4 ∧
      ((ofMnemonics ms).repeatsOf ⟨"a"⟩).map (·.later.toNat) = [2, 4] ∧
      (ofMnemonics ms).codeMap.size = 3 := by
  let ms : List Mnemonic := [⟨"a"⟩, ⟨"b"⟩, ⟨"a"⟩, ⟨"c"⟩, ⟨"a"⟩, ⟨"b"⟩]
  have bound : ms.length ≤ UInt32.size := by decide
  have found : (ofMnemonics ms).repeats.map Repeat.places =
      [(⟨"a"⟩, 0, 2), (⟨"a"⟩, 2, 4), (⟨"b"⟩, 1, 5)] := by
    decide +kernel
  obtain ⟨only, chains, count⟩ := repeats_are_neighbours ms bound
  obtain ⟨_, listed⟩ := (only _).mpr found.symm
  refine ⟨ms, rfl, bound, found, ?_, ?_, ?_, ?_⟩
  · exact (listed _ _ _).mp (by simp)
  · intro neighbours
    have member := (listed _ _ _).mpr neighbours
    revert member
    decide
  · rw [(chains ⟨"a"⟩).2.2.1]
    decide +kernel
  · have repeats : (ofMnemonics ms).repeats.length = 3 := by decide +kernel
    rw [repeats, size_of_mnemonics] at count
    have declarations : ms.length = 6 := rfl
    omega

end Table
end Opcodes
