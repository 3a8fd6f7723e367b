import LlvmProvision.Proofs.Courses
import LlvmProvision.Proofs.Roots

/-!
# The marker and the directories around it

The stages of a run look at three places one inside the other: the source tree, the build tree
in it, and the marker in that.  What is found at one of them says something about the others,
whatever links are on the way.

* Where the marker is, there are the build tree and the source tree
  (`BuildTree.isDirectory_of_marker`, `BuildTree.isDirectory_source`).
* Making the build tree neither brings the marker about nor loses anything
  (`BuildTree.isPresent_marker_prepare`), and where it is present already, nothing is done
  (`BuildTree.prepare_of_isPresent`).
* A dependency root that is a directory is left as it is (`SourceTree.prepare_of_resolved`),
  and one that has been prepared is a directory (`SourceTree.prepare_spec`).
-/
namespace LlvmProvision

open Files

namespace Files.Path

theorem join_ne_empty {path : Path} {part : String} (filled : part ≠ "") :
    (path / part).text ≠ "" := by
  simp only [HDiv.hDiv, join]
  split
  · exact filled
  · rename_i h
    rw [not_or] at h
    split <;> simp [h.2]

end Files.Path

namespace BuildTree

variable {here : Location} {files prepared : Tree} {source build : Path}

theorem marker_steps : Path.steps ⟨marker⟩ = [.enter "lib", .enter "libLLVMCore.a"] := by
  decide

theorem isDirectory_of_marker (nonempty : build.text ≠ "")
    (h : files.isPresent here (build / marker) = true) : files.isDirectory here build = true :=
  Tree.isDirectory_of_join (by decide) nonempty (by decide) h

theorem isDirectory_source (nonempty : source.text ≠ "")
    (h : files.isPresent here (source / directoryName) = true) :
    files.isDirectory here source = true :=
  Tree.isDirectory_of_join (by decide) nonempty (by decide) h

theorem build_ne_empty (source : Path) : (source / directoryName).text ≠ "" :=
  Path.join_ne_empty (by decide)

theorem source_ne_empty (root : Path) : (root / SourceTree.directoryName).text ≠ "" :=
  Path.join_ne_empty (by decide)

theorem isPresent_source_of_marker (nonempty : source.text ≠ "")
    (h : files.isPresent here (source / directoryName / marker) = true) :
    files.isPresent here source = true := by
  have hbuild := isDirectory_of_marker (build_ne_empty source) h
  have hsource := isDirectory_source nonempty (Tree.isPresent_of_isDirectory hbuild)
  exact Tree.isPresent_of_isDirectory hsource

/-- A build tree that is there is used as it is. -/
theorem prepare_of_isPresent (h : files.isPresent here build = true) :
    prepare here build files = (.ok (), files) := by
  rw [prepare, if_pos h]

/-- The build tree that has been made sure of is there. -/
theorem isPresent_build_prepare (h : prepare here build files = (.ok (), prepared)) :
    prepared.isPresent here build = true := by
  rw [prepare] at h
  split at h
  · cases h
    assumption
  · split at h
    · cases h
    · rename_i made hc
      cases h
      exact Tree.isPresent_of_isDirectory (Tree.isDirectory_of_createDirectory hc)

/-- Nothing is lost when the build tree is made sure of. -/
theorem extends_prepare (h : prepare here build files = (.ok (), prepared)) :
    prepared.Extends files := by
  rw [prepare] at h
  split at h
  · cases h
    exact fun _ _ hn => hn
  · split at h
    · cases h
    · rename_i made hc
      cases h
      exact Tree.extends_of_createDirectory hc

/-- **The marker is there after the build tree was made sure of exactly if it was before.** -/
theorem isPresent_marker_prepare (nonempty : build.text ≠ "")
    (h : prepare here build files = (.ok (), prepared)) :
    prepared.isPresent here (build / marker) = files.isPresent here (build / marker) := by
  rw [prepare] at h
  split at h
  · cases h
    rfl
  · rename_i absent
    split at h
    · cases h
    · rename_i made hc
      cases h
      have hnew : prepared.isPresent here (build / marker) = false :=
        Tree.not_isPresent_join_of_createDirectory (by decide) (by decide) marker_steps hc
      -- a marker would have meant that there was a build tree to use
      have hold : files.isPresent here (build / marker) = false := by
        rw [Bool.eq_false_iff]
        intro hm
        exact absent (Tree.isPresent_of_isDirectory (isDirectory_of_marker nonempty hm))
      rw [hnew, hold]

/-- Where the marker is, nothing has to be done for the build tree. -/
theorem prepare_of_marker (nonempty : build.text ≠ "")
    (h : files.isPresent here (build / marker) = true) :
    prepare here build files = (.ok (), files) :=
  prepare_of_isPresent (Tree.isPresent_of_isDirectory (isDirectory_of_marker nonempty h))

end BuildTree

namespace SourceTree

variable {here place : Location} {files rooted : Tree} {root : Path}

/-- A root that has been prepared is a directory, and resolves to the location that was found
out. -/
theorem prepare_spec (h : prepare here root files = (.ok place, rooted)) :
    rooted.resolveFromRoot here root = .ok place ∧ rooted.node? place = some .directory := by
  rw [prepare] at h
  split at h
  · cases h
  · rename_i made hc
    split at h
    · cases h
    · rename_i found hr
      cases h
      have hd : rooted.isDirectory here root = true :=
        Tree.isDirectory_of_createAll (Tree.nonempty_of_resolveFromRoot hr) hc
      exact ⟨hr, (Tree.isDirectory_of_resolveFromRoot hr).1 hd⟩

/-- **A root that is a directory is left as it is.** -/
theorem prepare_of_resolved (hr : files.resolveFromRoot here root = .ok place)
    (hd : files.node? place = some .directory) :
    prepare here root files = (.ok place, files) := by
  have hroot := (Tree.isDirectory_of_resolveFromRoot hr).2 hd
  rw [prepare, Tree.createAll_of_isDirectory hroot]
  simp only [hr]

end SourceTree

end LlvmProvision
