import LlvmProvision.Proofs.Courses
import LlvmProvision.Proofs.Patterns
import LlvmProvision.Proofs.Presence
import Mathlib.Data.List.Nodup

/-!
# The archives of a build tree

Which archives a run finds is settled by the entries of the build tree: the files, but not the
links, that are named as archives are (`Package.mem_archives_iff`), each of them once
(`Package.nodup_archives`).  The name of an archive begins with the version, so it is a relative
path of its own and not the name of the build tree.
-/
namespace LlvmProvision

open Files

/-! ## Names -/

namespace Archive

variable {name : String}

/-- The name of an archive begins as such names do. -/
theorem exists_of_isArchiveName (h : isArchiveName name = true) :
    ∃ rest, name.toList = nameStart.toList ++ rest := by
  simp only [isArchiveName, pattern, Pattern.accepts] at h
  split at h
  · rename_i rest hr
    exact ⟨rest, Pattern.after?_eq_some_iff.1 hr⟩
  · cases h

theorem isAbsolute_of_isArchiveName (h : isArchiveName name = true) :
    Path.isAbsolute ⟨name⟩ = false := by
  obtain ⟨rest, hr⟩ := exists_of_isArchiveName h
  have hhead : name.toList.head? = some 'L' := by
    rw [hr]
    rfl
  simp [Path.isAbsolute, hhead]

theorem ne_empty_of_isArchiveName (h : isArchiveName name = true) : name ≠ "" := by
  rintro rfl
  revert h
  decide

theorem ne_build_of_isArchiveName (h : isArchiveName name = true) :
    name ≠ BuildTree.directoryName := by
  rintro rfl
  revert h
  decide

end Archive

/-! ## The archives that are found -/

/-- The name in a directory tells the location. -/
theorem Files.Location.eq_of_name {place inner : Location} {name : String}
    (h : (if inner.dropLast = place then inner.getLast? else none) = some name) :
    inner = place ++ [name] := by
  split at h
  · rename_i hp
    obtain ⟨front, rfl⟩ := List.getLast?_eq_some_iff.1 h
    rw [← hp, List.dropLast_concat]
  · cases h

/-- The entries of a directory have different names. -/
theorem Files.Tree.nodup_children (tree : Tree) (place : Location) :
    ((tree.children place).map Prod.fst).Nodup := by
  have hnames : (tree.children place).map Prod.fst = (tree.nodes.map Prod.fst).filterMap
      fun inner => if inner.dropLast = place then inner.getLast? else none := by
    rw [children, List.map_filterMap, List.filterMap_map]
    congr 1
    funext node
    cases hl : node.1.getLast? with
    | none => simp [hl]
    | some name =>
      by_cases hp : node.1.dropLast = place
      · simp [hl, hp]
      · simp [hp]
  rw [hnames]
  refine List.Nodup.filterMap (fun first second name hf hs => ?_) tree.distinct
  rw [Location.eq_of_name hf, Location.eq_of_name hs]

namespace Package

variable {here : Location} {source : Path} {files : Tree} {name : String}

theorem mem_archives_iff : name ∈ archives here source files ↔
    Archive.isArchiveName name = true ∧ ∃ place text,
      files.resolve here (source / BuildTree.directoryName) = .ok place ∧
        files.node? (place ++ [name]) = some (.file text) := by
  have hmem : name ∈ archives here source files ↔ Archive.isArchiveName name = true ∧
      ∃ text, (name, .file text) ∈ files.listDirectory here (source / BuildTree.directoryName) := by
    rw [archives, archiveNames, Text.mem_sortOn, List.mem_map]
    constructor
    · rintro ⟨⟨other, entry⟩, hm, rfl⟩
      obtain ⟨hc, ha⟩ := List.mem_filter.1 hm
      cases entry with
      | directory => cases ha
      | link target => cases ha
      | file text => exact ⟨ha, text, hc⟩
    · rintro ⟨ha, text, hc⟩
      exact ⟨(name, .file text), List.mem_filter.2 ⟨hc, ha⟩, rfl⟩
  rw [hmem, Tree.listDirectory]
  cases files.resolve here (source / BuildTree.directoryName) with
  | error fault => simp
  | ok place => simp [Tree.mem_children]

theorem isArchiveName_of_archives (h : archives here source files = [name]) :
    Archive.isArchiveName name = true :=
  (mem_archives_iff.1 (h ▸ List.mem_singleton_self name)).1

theorem nodup_archives (here : Location) (source : Path) (files : Tree) :
    (archives here source files).Nodup := by
  rw [archives, archiveNames, (Text.sortOn_perm id _).nodup_iff, Tree.listDirectory]
  split
  · rename_i place _
    exact (List.filter_sublist.map Prod.fst).nodup (files.nodup_children place)
  · exact List.nodup_nil

/-- There is a single archive of this name exactly if no other name is that of one. -/
theorem archives_eq_singleton_iff :
    archives here source files = [name] ↔ ∀ other, other ∈ archives here source files ↔ other = name := by
  rw [← List.perm_singleton,
    List.perm_ext_iff_of_nodup (nodup_archives here source files) (List.nodup_singleton name)]
  simp

end Package

end LlvmProvision
