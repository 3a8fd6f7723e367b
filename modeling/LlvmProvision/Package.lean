import LlvmProvision.Archive
import LlvmProvision.BuildTree
import LlvmProvision.Text.Order

/-!
# The package

The build leaves its package as an archive in the build tree.  The archive is moved next
to the build tree, where it is kept, and the build tree is replaced by what the archive
holds.
-/
namespace LlvmProvision.Package

open Files Tools

/-- Whether an entry of the build tree is an archive: a file itself, not a link to one, and
named as archives are. -/
def isArchive (child : String × Entry) : Bool :=
  match child.2 with
  | .file _ => Archive.isArchiveName child.1
  | _ => false

/-- The names of the archives among some entries, in order. -/
def archiveNames (children : List (String × Entry)) : List String :=
  Text.sortOn id ((children.filter isArchive).map Prod.fst)

/-- The command that extracts an archive into the build tree, without the directory that
everything in the archive lies in. -/
def extractCommand (source build archive : Path) : Command where
  program := "tar"
  arguments := ["xf", archive.text, "--strip-components=1", "--directory=" ++ build.text]
  directory := some source
  purpose := "LLVM package extracting tar"

/-- Puts the contents of one archive of the build tree in place of the build tree, and
returns the path at which the archive is kept. -/
def replaceBuild (source : Path) (name : String) : Action Path := do
  let build := source / BuildTree.directoryName
  let archive := build / name
  let kept := source / name
  Action.check "tar"
  Action.change (fun here files => files.moveFile here archive kept) (.notMoved archive)
  Action.change (fun here files => files.removeDirectory here build) (.notRemoved build)
  Action.change (Action.wholly fun here files => files.createDirectory here build)
    (.notCreated build)
  Action.execute (extractCommand source build kept)
  pure kept

/-- Unpacks the archive in the build tree of the source tree, if there is one.  With
several archives there is no telling which is meant. -/
def unpack (source : Path) : Action (Option Path) := do
  let build := source / BuildTree.directoryName
  let names ← Action.look fun here files => archiveNames (files.listDirectory here build)
  match names with
  | [] => pure none
  | [name] => some <$> replaceBuild source name
  | _ => Action.fail (.ambiguousArchive (names.map (build / ·)))

end LlvmProvision.Package
