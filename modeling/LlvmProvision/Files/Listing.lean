import LlvmProvision.Files.Tree
import LlvmProvision.Text.Order

/-!
# Listing a tree

A listing shows everything below a directory, each entry with its path from there, in the
order of the paths.  Links are shown as they are.
-/
namespace LlvmProvision.Files

/-- An entry with its path from the directory that is listed. -/
structure Listed where
  path : String
  entry : Entry
  deriving DecidableEq, Repr

/-- What `node` is called from `top`, if it lies below. -/
def Listed.ofNode? (top : Location) (node : Location × Entry) : Option Listed :=
  if top.isPrefixOf node.1 ∧ node.1 ≠ top then
    some ⟨Text.joined "/" (node.1.drop top.length), node.2⟩
  else none

/-- Everything below `top`, ordered by path. -/
def Tree.listing (tree : Tree) (top : Location) : List Listed :=
  Text.sortOn Listed.path (tree.nodes.filterMap (Listed.ofNode? top))

end LlvmProvision.Files
