import Opcodes.Files.Tree

/-! Where a path leads in a tree. Reading and writing by one path meet at one place, and what is
   written there is found there, while every other place stays as it was. -/
namespace Opcodes.Files.Tree

/-- The place of the file that a path names, whether the file is there yet or not. -/
def placeOf? (tree : Tree) (path : String) : Option Location :=
  match tree.destination path with
  | .ok (.named parent name false) => if isTooLong name then none else some (parent ++ [name])
  | _ => none

theorem place_of_path {tree : Tree} {path : String} {place : Location}
    (leads : tree.placeOf? path = some place) :
    ∃ parent name, tree.destination path = .ok (.named parent name false) ∧
      isTooLong name = false ∧ place = parent ++ [name] := by
  unfold placeOf? at leads
  split at leads
  · rename_i parent name found
    split at leads
    · cases leads
    · rename_i short
      exact ⟨parent, name, found, by simpa using short, (Option.some.inj leads).symm⟩
  · cases leads

theorem place_below_root {tree : Tree} {path : String} {place : Location}
    (leads : tree.placeOf? path = some place) : place ≠ [] := by
  obtain ⟨parent, name, _, _, rfl⟩ := place_of_path leads
  exact List.append_ne_nil_of_right_ne_nil parent (List.cons_ne_nil name [])

theorem read_at_place {tree : Tree} {path : String} {place : Location}
    (leads : tree.placeOf? path = some place) :
    tree.read path =
      match tree.find? place with
      | none => .error .missing
      | some .directory => .error .directory
      | some (.file content) => .ok content := by
  obtain ⟨parent, name, found, short, rfl⟩ := place_of_path leads
  cases there : tree.find? (parent ++ [name]) with
  | none => simp [read, found, short, there]
  | some node => cases node <;> simp [read, found, short, there]

theorem read_ok_iff {tree : Tree} {path : String} {content : ByteArray} :
    tree.read path = .ok content ↔
      ∃ place, tree.placeOf? path = some place ∧ tree.find? place = some (.file content) := by
  constructor
  · fun_cases read tree path with
    | case7 parent name asDirectory found short held there isFile =>
      intro isRead
      obtain rfl := Except.ok.inj isRead
      refine ⟨parent ++ [name], ?_, there⟩
      simp [placeOf?, found, isFile, short]
    | _ => exact nofun
  · rintro ⟨place, leads, there⟩
    rw [read_at_place leads, there]

/-- A write succeeds wherever a path has a place that no directory stands at, and then it puts
    the file there. -/
theorem write_ok_iff {tree after : Tree} {path : String} {content : ByteArray} :
    tree.write path content = .ok after ↔
      ∃ place, tree.placeOf? path = some place ∧ tree.find? place ≠ some .directory ∧
        after = tree.put place (.file content) := by
  constructor
  · fun_cases write tree path content with
    | case6 parent name asDirectory found isFile short free =>
      intro written
      refine ⟨parent ++ [name], ?_, free, (Except.ok.inj written).symm⟩
      simp [placeOf?, found, isFile, short]
    | _ => exact nofun
  · rintro ⟨place, leads, free, rfl⟩
    obtain ⟨parent, name, found, short, rfl⟩ := place_of_path leads
    simp [write, found, short]

theorem put_in_same {place : Location} {node : Node} {nodes : List (Location × Node)}
    (there : nodes.lookup place = some node) : putIn place node nodes = nodes := by
  induction nodes with
  | nil => cases there
  | cons head rest ih =>
    obtain ⟨p, n⟩ := head
    by_cases here : p = place
    · subst here
      rw [List.lookup_cons_self] at there
      obtain rfl := Option.some.inj there
      simp [putIn]
    · have other : (place == p) = false := beq_eq_false_iff_ne.mpr (Ne.symm here)
      simp only [List.lookup_cons, other] at there
      rw [putIn, if_neg here, ih there]

theorem put_same {tree : Tree} {place : Location} {node : Node}
    (there : tree.find? place = some node) : tree.put place node = tree := by
  by_cases root : place = []
  · simp [put, root]
  · rw [find?, if_neg root] at there
    rw [put, if_neg root, put_in_same there]

/-- A file that is put where no directory stands is in the way of no walk. -/
theorem walk_put {tree : Tree} {place : Location} (content : ByteArray)
    (free : tree.find? place ≠ some .directory) {here there : Location} {names : List String}
    (walked : tree.walk here names = .ok there) :
    (tree.put place (.file content)).walk here names = .ok there := by
  have below : place ≠ [] := by
    rintro rfl
    exact free rfl
  fun_induction walk tree here names with
  | case1 here => exact walked
  | case2 here rest ih =>
    rw [walk, if_pos rfl]
    exact ih walked
  | case3 here rest moves ih =>
    rw [walk, if_neg moves, if_pos rfl]
    exact ih walked
  | case4 => cases walked
  | case5 => cases walked
  | case6 => cases walked
  | case7 here name rest moves down short isDirectory ih =>
    -- The walk passes a directory here, so this is not the place of the file.
    have apart : here ++ [name] ≠ place := by
      rintro rfl
      exact free isDirectory
    rw [walk, if_neg moves, if_neg down, if_neg short, find_put tree place _ _ below,
      if_neg apart, isDirectory]
    exact ih walked

theorem destination_put {tree : Tree} {place : Location} (content : ByteArray)
    (free : tree.find? place ≠ some .directory) {path : String} {target : Destination}
    (found : tree.destination path = .ok target) :
    (tree.put place (.file content)).destination path = .ok target := by
  unfold destination at found ⊢
  cases spelled : spellingFault? path with
  | some fault =>
    rw [spelled] at found
    cases found
  | none =>
    rw [spelled] at found
    simp only at found ⊢
    split at found
    · cases found
    · rename_i parent walked
      rw [walk_put content free walked]
      exact found

theorem place_put {tree : Tree} {place : Location} (content : ByteArray)
    (free : tree.find? place ≠ some .directory) {path : String} {other : Location}
    (leads : tree.placeOf? path = some other) :
    (tree.put place (.file content)).placeOf? path = some other := by
  obtain ⟨parent, name, found, short, rfl⟩ := place_of_path leads
  simp [placeOf?, destination_put content free found, short]

theorem written_place {tree after : Tree} {path : String} {content : ByteArray}
    (written : tree.write path content = .ok after) :
    ∃ place, tree.placeOf? path = some place ∧ after.placeOf? path = some place ∧
      after.find? place = some (.file content) := by
  obtain ⟨place, leads, free, rfl⟩ := write_ok_iff.mp written
  refine ⟨place, leads, place_put content free leads, ?_⟩
  rw [find_put tree place place _ (place_below_root leads), if_pos rfl]

theorem read_same_place {tree after : Tree} {path other : String} {content : ByteArray}
    (written : tree.write path content = .ok after)
    (same : tree.placeOf? other = tree.placeOf? path) : after.read other = .ok content := by
  obtain ⟨place, leads, free, rfl⟩ := write_ok_iff.mp written
  have leadsToo := place_put content free (same.trans leads)
  have filled : (tree.put place (.file content)).find? place = some (.file content) := by
    simp [find_put, place_below_root leads]
  exact read_ok_iff.mpr ⟨place, leadsToo, filled⟩

theorem read_after_write {tree after : Tree} {path : String} {content : ByteArray}
    (written : tree.write path content = .ok after) : after.read path = .ok content :=
  read_same_place written rfl

theorem read_elsewhere {tree after : Tree} {path other : String} {content held : ByteArray}
    (written : tree.write path content = .ok after)
    (apart : tree.placeOf? other ≠ tree.placeOf? path) (isRead : tree.read other = .ok held) :
    after.read other = .ok held := by
  obtain ⟨target, leads, free, rfl⟩ := write_ok_iff.mp written
  obtain ⟨place, leadsToo, there⟩ := read_ok_iff.mp isRead
  rw [leads, leadsToo, ne_eq, Option.some.injEq] at apart
  refine read_ok_iff.mpr ⟨place, place_put content free leadsToo, ?_⟩
  rw [find_put tree target place _ (place_below_root leads), if_neg apart]
  exact there

theorem write_same {tree : Tree} {path : String} {content : ByteArray}
    (held : tree.read path = .ok content) : tree.write path content = .ok tree := by
  obtain ⟨place, leads, there⟩ := read_ok_iff.mp held
  refine write_ok_iff.mpr ⟨place, leads, ?_, (put_same there).symm⟩
  rw [there]
  exact nofun

theorem write_changes_iff {tree after : Tree} {path : String} {content : ByteArray}
    (written : tree.write path content = .ok after) :
    after = tree ↔ tree.read path = .ok content := by
  constructor
  · rintro rfl
    exact read_after_write written
  · intro held
    rw [write_same held] at written
    exact (Except.ok.inj written).symm

theorem readable_of_writable {tree after : Tree} {path : String} {content : ByteArray}
    (written : tree.write path content = .ok after) :
    tree.read path = .error .missing ∨ ∃ old, tree.read path = .ok old := by
  cases readable : tree.read path with
  | ok old => exact Or.inr ⟨old, rfl⟩
  | error fault =>
    left
    obtain ⟨place, leads, free, _⟩ := write_ok_iff.mp written
    rw [read_at_place leads] at readable
    split at readable
    · exact readable.symm
    · rename_i isDirectory
      exact absurd isDirectory free
    · cases readable

theorem unwritable_of_unreadable {tree : Tree} {path : String} {fault : Fault}
    (unreadable : tree.read path = .error fault) (there : fault.kind ≠ .missing)
    (content : ByteArray) : ∃ other, tree.write path content = .error other := by
  cases written : tree.write path content with
  | error other => exact ⟨other, rfl⟩
  | ok after =>
    rcases readable_of_writable written with missing | ⟨old, held⟩
    · rw [missing] at unreadable
      obtain rfl := Except.error.inj unreadable
      exact absurd rfl there
    · rw [held] at unreadable
      cases unreadable

theorem write_touches_place {tree after : Tree} {path : String} {content : ByteArray}
    (written : tree.write path content = .ok after) {place : Location}
    (changed : after.find? place ≠ tree.find? place) :
    tree.placeOf? path = some place ∧ tree.find? place ≠ some .directory ∧
      after.find? place = some (.file content) := by
  obtain ⟨target, leads, free, rfl⟩ := write_ok_iff.mp written
  rw [find_put tree target place _ (place_below_root leads)] at changed ⊢
  split at changed
  · rename_i same
    subst same
    exact ⟨leads, free, if_pos rfl⟩
  · exact absurd rfl changed

end Opcodes.Files.Tree
