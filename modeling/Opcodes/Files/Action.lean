import Opcodes.Error
import Opcodes.Files.Tree

/-! Work that reads and writes files, apart from the files on which it is done. The same action
   runs on a tree here and on a disk in the outer layer. Listings are read, and artifacts are written
   and compared, as UTF-8. -/
namespace Opcodes.Files

inductive Action (α : Type) where
  | done (result : α)
  | read (path : String) (next : Except Fault ByteArray → Action α)
  | write (path : String) (content : ByteArray) (next : Except Fault Unit → Action α)

namespace Action

def bind {α β : Type} : Action α → (α → Action β) → Action β
  | .done a, f => f a
  | .read path next, f => .read path fun answer => (next answer).bind f
  | .write path content next, f => .write path content fun answer => (next answer).bind f

instance : Monad Action where
  pure := .done
  bind := bind

def on {α : Type} (tree : Tree) : Action α → α × Tree
  | .done result => (result, tree)
  | .read path next => (next (tree.read path)).on tree
  | .write path content next =>
    match tree.write path content with
    | .ok changed => (next (.ok ())).on changed
    | .error fault => (next (.error fault)).on tree

@[simp] theorem on_pure {α : Type} (a : α) (tree : Tree) :
    (pure a : Action α).on tree = (a, tree) := rfl

@[simp] theorem on_bind {α β : Type} (action : Action α) (f : α → Action β) (tree : Tree) :
    (action >>= f).on tree = (f (action.on tree).1).on (action.on tree).2 := by
  change (action.bind f).on tree = _
  induction action generalizing tree with
  | done a => rfl
  | read path next ih => exact ih _ tree
  | write path content next ih =>
    simp only [bind, on]
    split
    · exact ih _ _
    · exact ih _ tree

end Action

def readText (path : String) : Action (Except Error String) :=
  .read path fun
    | .error fault => pure (.error (.unreadable path fault))
    | .ok content =>
      match String.fromUTF8? content with
      | some text => pure (.ok text)
      | none => pure (.error (.unreadable path .notText))

def writeText (path text : String) : Action (Except Error Unit) :=
  .write path text.toUTF8 fun
    | .error fault => pure (.error (.unwritable path fault))
    | .ok () => pure (.ok ())

def holdsText (path text : String) : Action (Except Error Bool) :=
  .read path fun
    | .error fault =>
      if fault.kind = .missing then pure (.ok false) else pure (.error (.unreadable path fault))
    | .ok content => pure (.ok (content.data == text.toUTF8.data))

end Opcodes.Files
