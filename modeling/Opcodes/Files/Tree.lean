import Opcodes.Error

/-! A tree of directories and regular files. The root is always there; every other node is
   listed with its place, the names on the way down from the root. A path is names between slashes,
   where repeated and trailing slashes and the name `.` add nothing to what is meant. To read or
   write a file, all names but the last have to lead through directories; `.` stays in a directory,
   and `..` goes back to the one above it, or stays in the root. A failed write changes nothing. -/
namespace Opcodes.Files

namespace Path

def pieces (path : String) : List String :=
  ((path.toList.splitOn '/').map String.ofList).filter (· != "")

def isRooted (path : String) : Bool := path.toList.head? == some '/'

def endsInSlash (path : String) : Bool := path.toList.getLast? == some '/'

/-- The components of a path: a leading slash, the names other than `.`, and `.` itself where
    a path that is not rooted starts with it. -/
def components (path : String) : List String :=
  let names := (pieces path).filter (· != ".")
  if isRooted path then "/" :: names
  else if (pieces path).head? == some "." then "." :: names
  else names

def sameComponents (a b : String) : Bool := components a == components b

end Path

abbrev Location := List String

inductive Node where
  | directory
  | file (content : ByteArray)

instance : DecidableEq Node
  | .directory, .directory => isTrue rfl
  | .directory, .file _ => isFalse nofun
  | .file _, .directory => isFalse nofun
  | .file a, .file b =>
    decidable_of_iff (a.data = b.data) (by rw [Node.file.injEq, ByteArray.ext_iff])

structure Tree where
  nodes : List (Location × Node)
  deriving DecidableEq

namespace Tree

def empty : Tree := ⟨[]⟩

def find? (tree : Tree) (place : Location) : Option Node :=
  if place = [] then some .directory else tree.nodes.lookup place

def putIn (place : Location) (node : Node) : List (Location × Node) → List (Location × Node)
  | [] => [(place, node)]
  | (p, n) :: rest => if p = place then (p, node) :: rest else (p, n) :: putIn place node rest

def put (tree : Tree) (place : Location) (node : Node) : Tree :=
  if place = [] then tree else ⟨putIn place node tree.nodes⟩

def remove (tree : Tree) (place : Location) : Tree := ⟨tree.nodes.filter (·.1 ≠ place)⟩

def addDirectory (tree : Tree) (place : Location) : Tree :=
  match tree.find? place with
  | some _ => tree
  | none => tree.put place .directory

theorem lookup_put_in (place other : Location) (node : Node) (nodes : List (Location × Node)) :
    (putIn place node nodes).lookup other =
      if other = place then some node else nodes.lookup other := by
  induction nodes with
  | nil =>
    by_cases same : other = place
    · simp [putIn, same]
    · simp [putIn, List.lookup_cons, same, beq_eq_false_iff_ne.mpr same]
  | cons head rest ih =>
    obtain ⟨p, n⟩ := head
    by_cases here : p = place
    · by_cases same : other = place
      · simp [putIn, here, same]
      · simp [putIn, List.lookup_cons, here, same, beq_eq_false_iff_ne.mpr same]
    · by_cases same : other = p
      · simp [putIn, here, same]
      · simp [putIn, List.lookup_cons, here, ih, beq_eq_false_iff_ne.mpr same]

theorem find_put (tree : Tree) (place other : Location) (node : Node) (below : place ≠ []) :
    (tree.put place node).find? other = if other = place then some node else tree.find? other := by
  by_cases root : other = []
  · subst root
    simp [find?, below.symm]
  · simp [put, below, find?, root, lookup_put_in]

def add (tree : Tree) (place : Location) (node : Node) : Tree :=
  let above := (List.range place.length).map place.take
  (above.foldl addDirectory tree).put place node

def listing (tree : Tree) : List (String × Node) :=
  (tree.nodes.map fun (place, node) => (String.intercalate "/" place, node)).mergeSort
    fun a b => a.1 ≤ b.1

end Tree

def nameLimit : Nat := 255

/-- The number of bytes that a path must not reach. -/
def pathLimit : Nat := 4096

def isTooLong (name : String) : Bool := nameLimit < name.utf8ByteSize

def spellingFault? (path : String) : Option Fault :=
  if path.toList.contains '\x00' then some .nulInPath
  else if pathLimit ≤ path.utf8ByteSize then some .nameTooLong
  else if path = "" then some .missing
  else none

/-- What the last name of a path says before anyone looks for it. -/
inductive Destination where
  | directory
  | named (parent : Location) (name : String) (asDirectory : Bool)
  deriving DecidableEq, Repr

namespace Tree

def walk (tree : Tree) (here : Location) : List String → Except Fault Location
  | [] => .ok here
  | name :: rest =>
    if name = "." then tree.walk here rest
    else if name = ".." then tree.walk here.dropLast rest
    else if isTooLong name then .error .nameTooLong
    else
      match tree.find? (here ++ [name]) with
      | none => .error .missing
      | some (.file _) => .error .notDirectory
      | some .directory => tree.walk (here ++ [name]) rest

def destination (tree : Tree) (path : String) : Except Fault Destination :=
  match spellingFault? path with
  | some fault => .error fault
  | none =>
    let names := Path.pieces path
    match tree.walk [] names.dropLast with
    | .error fault => .error fault
    | .ok parent =>
      match names.getLast? with
      | none => .ok .directory
      | some name =>
        if name = "." ∨ name = ".." then .ok .directory
        else .ok (.named parent name (Path.endsInSlash path))

def read (tree : Tree) (path : String) : Except Fault ByteArray :=
  match tree.destination path with
  | .error fault => .error fault
  | .ok .directory => .error .directory
  | .ok (.named parent name asDirectory) =>
    if isTooLong name then .error .nameTooLong
    else
      match tree.find? (parent ++ [name]) with
      | none => .error .missing
      | some .directory => .error .directory
      | some (.file content) => if asDirectory then .error .notDirectory else .ok content

def write (tree : Tree) (path : String) (content : ByteArray) : Except Fault Tree :=
  match tree.destination path with
  | .error fault => .error fault
  | .ok .directory => .error .directory
  | .ok (.named parent name asDirectory) =>
    if asDirectory then .error .directory
    else if isTooLong name then .error .nameTooLong
    else
      match tree.find? (parent ++ [name]) with
      | some .directory => .error .directory
      | _ => .ok (tree.put (parent ++ [name]) (.file content))

end Tree
end Opcodes.Files
