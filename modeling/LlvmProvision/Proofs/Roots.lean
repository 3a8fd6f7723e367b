import LlvmProvision.Proofs.Lookups

/-!
# Making a directory with all above it

`createAll` is how a run makes its dependency root.  Where there is a directory already, it
does nothing at all (`createAll_of_isDirectory`), even where the path has a spelling that no
directory could be made by, since the path itself is tried before any of its parents.  If it
succeeds there is a directory (`isDirectory_of_createAll`), unless the path is empty.  With
that, a path that a run has resolved is known to be the path of a directory.
-/
namespace LlvmProvision.Files.Tree

variable {tree made left : Tree} {here place : Location} {path : Path} {start : String}
  {names : List String} {fault : Fault}

/-- Where there is a directory, its path leads to something that is in the way. -/
theorem createDirectory_of_isDirectory (h : tree.isDirectory here path = true) :
    tree.createDirectory here path = .error (.system .alreadyExists) := by
  obtain ⟨place, hf, -⟩ := isDirectory_iff.1 h
  obtain ⟨hp, hw⟩ := seek_eq_ok_iff.1 hf
  have hslot : ∃ entry, tree.walk ⟨true, false⟩ linkLimit (startOf path here) path.entrySteps =
      .ok (.found entry) := by
    rw [Path.steps] at hw
    split at hw
    · obtain ⟨entry, he, -⟩ := found_of_append hw
      exact ⟨entry, he⟩
    · exact ⟨place, hw⟩
  obtain ⟨entry, he⟩ := hslot
  obtain ⟨other, ho⟩ := walk_unfollowed_of_found he
  have hs : tree.findSlot here path = .ok (.found other) := seek_eq_ok_iff.2 ⟨hp, ho⟩
  simp only [createDirectory, hs, addAt]

/-- **Nothing is made where there is a directory.** -/
theorem createAll_of_isDirectory (h : tree.isDirectory here path = true) :
    tree.createAll here path = (.ok (), tree) := by
  have hc := createDirectory_of_isDirectory h
  obtain ⟨place, hf, -⟩ := isDirectory_iff.1 h
  have filled : path.text ≠ "" := (seek_eq_ok_iff.1 hf).1.nonempty
  rw [createAll, createFrom.eq_def, if_neg filled]
  simp [hc, createFrom.settle, h]

/-! ## What an attempt leaves behind -/

/-- The end of an attempt is a success only if there is a directory. -/
theorem isDirectory_of_settle {outcome : Except Fault Tree}
    (ho : ∀ made, outcome = .ok made → made.isDirectory here path = true)
    (h : createFrom.settle here path tree outcome = (.ok (), left)) :
    left.isDirectory here path = true := by
  cases outcome with
  | ok made =>
    obtain rfl : made = left := by simpa [createFrom.settle] using h
    exact ho made rfl
  | error fault =>
    simp only [createFrom.settle, Prod.mk.injEq] at h
    obtain ⟨hr, rfl⟩ := h
    split at hr
    · assumption
    · cases hr

theorem isDirectory_of_createFrom (filled : path.text ≠ "")
    (h : tree.createFrom here start path names = (.ok (), left)) :
    left.isDirectory here path = true := by
  rw [createFrom.eq_def, if_neg filled] at h
  split at h
  · rename_i made hc
    obtain rfl : made = left := by simpa using h
    exact isDirectory_of_createDirectory hc
  · -- the parent was missing, and after it was made the directory is tried again
    split at h
    · cases h
    · split at h
      · cases h
      · exact isDirectory_of_settle (fun made hm => isDirectory_of_createDirectory hm) h
  · exact isDirectory_of_settle (fun made hm => isDirectory_of_createDirectory hm) h

/-- **Where the making succeeds there is a directory.** -/
theorem isDirectory_of_createAll (filled : path.text ≠ "")
    (h : tree.createAll here path = (.ok (), left)) : left.isDirectory here path = true :=
  isDirectory_of_createFrom filled h

/-! ## The location of a directory -/

/-- A path that resolves to a directory is the path of a directory, and the other way
around. -/
theorem isDirectory_of_resolveFromRoot (h : tree.resolveFromRoot here path = .ok place) :
    tree.isDirectory here path = true ↔ tree.node? place = some .directory := by
  have hf := resolve_eq_ok_iff.1 (resolve_of_resolveFromRoot h)
  rw [isDirectory_iff]
  constructor
  · rintro ⟨other, ho, hd⟩
    obtain rfl : other = place := by simpa [hf, eq_comm] using ho
    exact hd
  · intro hd
    exact ⟨place, hf, hd⟩

/-- The empty path resolves to nothing. -/
theorem nonempty_of_resolveFromRoot (h : tree.resolveFromRoot here path = .ok place) :
    path.text ≠ "" := by
  have hf := resolve_eq_ok_iff.1 (resolve_of_resolveFromRoot h)
  exact (seek_eq_ok_iff.1 hf).1.nonempty

end LlvmProvision.Files.Tree
