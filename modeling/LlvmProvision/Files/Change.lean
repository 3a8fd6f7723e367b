import LlvmProvision.Files.Operations

/-!
# Changes to a tree

A change is a request to alter a tree that is carried out as far as possible: what
cannot be done is left out without a word.  Making or writing something first makes the
directories above it.
-/
namespace LlvmProvision.Files

/-- A request to alter a tree. -/
inductive Change
  /-- Make a directory with all above it. -/
  | directory (path : Path)
  /-- Write a file that holds a text so many times over. -/
  | file (path : Path) (text : String) (times : Nat)
  /-- Make a link. -/
  | link (path target : Path)
  /-- Remove a file, a link, or a directory with its contents. -/
  | remove (path : Path)
  deriving DecidableEq, Repr

namespace Change

/-- A text so many times over. -/
def repeated (text : String) (times : Nat) : String := Nat.repeat (· ++ text) times ""

/-- Makes the directories above a path. -/
def prepare (tree : Tree) (here : Location) (path : Path) : Tree :=
  match path.significantNames.reverse with
  | [] => tree
  | _ :: names => (tree.createFrom here path.start (Path.along path.start names) names).2

/-- The tree after an operation, which is the old one if the operation failed. -/
def orSame (tree : Tree) : Except Fault Tree → Tree
  | .ok changed => changed
  | .error _ => tree

/-- Carries out a change as far as possible. -/
def apply (here : Location) (tree : Tree) : Change → Tree
  | directory path => (tree.createAll here path).2
  | file path text times =>
    let tree := prepare tree here path
    orSame tree (tree.writeFile here path (repeated text times))
  | link path target =>
    let tree := prepare tree here path
    orSame tree (tree.createLink here path target)
  | remove path =>
    match tree.removeFile here path with
    | .ok removed => removed
    | .error _ => (tree.removeDirectory here path).2

/-- Carries out changes one after the other. -/
def applyAll (here : Location) (changes : List Change) (tree : Tree) : Tree :=
  changes.foldl (apply here) tree

end Change

end LlvmProvision.Files
