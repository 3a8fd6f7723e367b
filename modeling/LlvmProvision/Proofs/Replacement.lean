import LlvmProvision.Proofs.Marker
import LlvmProvision.Proofs.StraightPaths

/-!
# Replacing the build tree

Between the check of the tool and the command that unpacks the archive, the run itself moves the
archive next to the build tree and puts an empty directory in place of the build tree.  Either
may fail, and what was done by then stays.  `Package.Replaces` lists what the files may have come
to, told by the entries before and afterwards; `Package.replaces_prepare` says that nothing else
happens.
-/
namespace LlvmProvision

open Files Tools

namespace BuildTree

theorem isEntryName_directoryName : IsEntryName directoryName where
  filled := by decide
  not_dot := by decide
  not_dots := by decide
  unslashed := by decide
  clean := by decide
  short := by decide

/-- The path of the build tree does not end in a slash. -/
theorem steps_build (source : Path) :
    (source / directoryName).steps = (source / directoryName).entrySteps := by
  rw [isEntryName_directoryName.steps_join, isEntryName_directoryName.entrySteps_join]

end BuildTree

namespace Package

/-- **What has become of the files** when the archive was to be moved out of the build tree and
the build tree to be replaced. -/
inductive Replaces (here : Location) (source : Path) (name : String) (before : Tree) :
    Tree → Prop
  /-- The archive was not moved. -/
  | unmoved {fault : MoveFault} {left : Tree} :
      before.Moves here (source / BuildTree.directoryName / name) (source / name)
        (.error fault) left →
      Replaces here source name before left
  /-- The archive was moved, and of the build tree at most an empty directory is left. -/
  | moved {moved left : Tree} :
      before.Moves here (source / BuildTree.directoryName / name) (source / name)
        (.ok ()) moved →
      moved.Empties here (source / BuildTree.directoryName) left →
      Replaces here source name before left

/-- **Nothing else happens**, whether or not it succeeds. -/
theorem replaces_prepare (here : Location) (source : Path) (name : String) (files : Tree) :
    Replaces here source name files (prepare here source name files).2 := by
  have hsteps := BuildTree.steps_build source
  unfold prepare
  split
  · rename_i fault left hmove
    exact .unmoved (Tree.moves_moveFile hmove)
  · rename_i moved hmove
    have hmoves := Tree.moves_moveFile hmove
    have hempties : moved.Empties here (source / BuildTree.directoryName)
        (moved.removeDirectory here (source / BuildTree.directoryName)).2 :=
      Tree.empties_removeDirectory hsteps
    split
    · rename_i fault left hremove
      rw [hremove] at hempties
      exact .moved hmoves hempties
    · rename_i removed hremove
      split
      · rw [hremove] at hempties
        exact .moved hmoves hempties
      · rename_i made hcreate
        exact .moved hmoves (Tree.empties_createDirectory hsteps hremove hcreate)

end Package

end LlvmProvision
