import LlvmProvision.Files.Move
import LlvmProvision.Proofs.Alterations

/-!
# Moving a file and replacing a directory

Operations that take several steps may stop after any of them.  `Moves` lists what a tree may
have come to when a file was to be moved over a target, and `Empties` when a directory was to be
removed, or removed and made again.  Both are told by the entries before and afterwards and do
not refer to the steps.

* Moving a file comes to one of the cases of `Moves` (`moves_moveFile`): nothing is done; the
  file is copied over the target; or it is copied and then removed.  A file that is moved onto
  itself is emptied first, so that no text is left to be copied.
* Of a directory that is removed at most an empty directory is left, and the same holds if it is
  made again (`empties_removeDirectory`, `empties_createDirectory`).
-/
namespace LlvmProvision.Files.Tree

variable {tree copied moved removed made left : Tree} {here place origin entry : Location}
  {path source target : Path} {text name : String} {result : Except MoveFault Unit}

/-! ## Moving a file -/

/-- A file that is copied over another one keeps its text; copied over itself, it loses it. -/
theorem copyFile_of_writesAt (ho : tree.find here source = .ok (.found origin))
    (hn : tree.node? origin = some (.file text)) (ht : tree.WritesAt here target place) :
    ∃ copied, tree.copyFile here source target = .ok copied ∧
      Written copied tree place (if origin = place then "" else text) := by
  obtain ⟨emptied, he, hw⟩ := exists_writeFile ht ""
  have hfound : emptied.find here target = .ok (.found place) := find_of_written ht hw
  have htarget : emptied.WritesAt here target place :=
    .onto hfound (by rw [hw.node?_eq, if_pos rfl])
  -- the source is read after the target has been emptied
  have hsource : emptied.find here source = .ok (.found origin) := hw.seek_found ho
  have hread : emptied.readFile? here source = some (if origin = place then "" else text) := by
    have hl : emptied.lookup? here source =
        some (.file (if origin = place then "" else text)) := by
      refine lookup?_eq_some_iff.2 ⟨origin, hsource, ?_⟩
      rw [hw.node?_eq]
      split
      · rfl
      · exact hn
    rw [readFile?, hl]
  obtain ⟨copied, hc, hw'⟩ := exists_writeFile htarget (if origin = place then "" else text)
  refine ⟨copied, ?_, hw.trans hw'⟩
  simp only [copyFile, he, hread, Option.getD_some]
  exact hc

theorem exists_writesAt_of_copyFile (h : tree.copyFile here source target = .ok copied) :
    ∃ place, tree.WritesAt here target place := by
  rw [copyFile] at h
  split at h
  · cases h
  · rename_i emptied he
    exact exists_writesAt he

/-- **What moving a file comes to.** -/
inductive Moves (tree : Tree) (here : Location) (source target : Path) :
    Except MoveFault Unit → Tree → Prop
  /-- Nothing was done. -/
  | unmoved {fault : MoveFault} : Moves tree here source target (.error fault) tree
  /-- The file was copied over the target, but it is still there. -/
  | copied {fault : MoveFault} {origin place : Location} {text : String} {copied : Tree} :
      tree.find here source = .ok (.found origin) → tree.node? origin = some (.file text) →
      tree.WritesAt here target place →
      Written copied tree place (if origin = place then "" else text) →
      Moves tree here source target (.error fault) copied
  /-- The file was copied over the target, and the entry at the source was removed. -/
  | moved {origin place entry : Location} {text : String} {copied : Tree} :
      tree.find here source = .ok (.found origin) → tree.node? origin = some (.file text) →
      tree.WritesAt here target place →
      Written copied tree place (if origin = place then "" else text) →
      copied.findEntry here source = .ok (.found entry) →
      copied.node? entry ≠ some .directory →
      Moves tree here source target (.ok ()) (copied.remove entry)

theorem removeFile_spec (h : tree.removeFile here path = .ok removed) :
    ∃ entry, tree.findEntry here path = .ok (.found entry) ∧
      tree.node? entry ≠ some .directory ∧ removed = tree.remove entry := by
  rw [removeFile] at h
  split at h
  · rename_i entry hf
    split at h
    · cases h
    · rename_i hn
      cases h
      exact ⟨entry, hf, hn, rfl⟩
  · cases h
  · cases h

/-- **Moving a file comes to one of these.** -/
theorem moves_moveFile (h : tree.moveFile here source target = (result, left)) :
    tree.Moves here source target result left := by
  rw [moveFile] at h
  split at h
  · cases h
    exact .unmoved
  · rename_i text hl
    obtain ⟨origin, ho, hn⟩ := lookup?_eq_some_iff.1 hl
    split at h
    · cases h
      exact .unmoved
    · rename_i copied hc
      obtain ⟨place, ht⟩ := exists_writesAt_of_copyFile hc
      obtain ⟨same, hs, hw⟩ := copyFile_of_writesAt ho hn ht
      obtain rfl : same = copied := by simpa [hc, eq_comm] using hs
      split at h
      · cases h
        exact .copied ho hn ht hw
      · rename_i removed hr
        cases h
        obtain ⟨entry, he, hd, rfl⟩ := removeFile_spec hr
        exact .moved ho hn ht hw he hd
  · cases h
    exact .unmoved

/-- **Moving a file succeeds** where its path leads to itself and the target leads to another file
or a free place. -/
theorem exists_moveFile (ho : tree.find here source = .ok (.found origin))
    (he : tree.findEntry here source = .ok (.found origin))
    (hn : tree.node? origin = some (.file text)) (ht : tree.WritesAt here target place)
    (hne : origin ≠ place) :
    ∃ copied, tree.moveFile here source target = (.ok (), copied.remove origin) ∧
      Written copied tree place text := by
  obtain ⟨copied, hc, hw⟩ := copyFile_of_writesAt ho hn ht
  rw [if_neg hne] at hw
  have hl : tree.lookup? here source = some (.file text) := lookup?_eq_some_iff.2 ⟨origin, ho, hn⟩
  have hentry : copied.findEntry here source = .ok (.found origin) := hw.seek_found he
  have hfile : copied.node? origin = some (.file text) := by rw [hw.node?_eq, if_neg hne, hn]
  have hremoved : copied.removeFile here source = .ok (copied.remove origin) := by
    simp only [removeFile, hentry, hfile]
  exact ⟨copied, by simp only [moveFile, hl, hc, hremoved], hw⟩

/-! ## Replacing a directory -/

/-- **What is left of a directory**, or of a link in its place, that has been removed and
perhaps made again: at most an empty directory, and outside of it all is as before. -/
inductive Empties (tree : Tree) (here : Location) (path : Path) : Tree → Prop
  /-- Nothing was done. -/
  | untouched : Empties tree here path tree
  /-- The contents are gone. -/
  | emptied {place : Location} {left : Tree} :
      tree.findEntry here path = .ok (.found place) →
      (∀ other, ¬ place <+: other → left.node? other = tree.node? other) →
      (∀ other, place <+: other → other ≠ place → left.node? other = none) →
      (left.node? place = none ∨ left.node? place = some .directory) →
      Empties tree here path left

theorem empties_clear (hf : tree.findEntry here path = .ok (.found place))
    (hd : tree.node? place = some .directory) : tree.Empties here path (tree.clear place) := by
  refine .emptied hf (fun other ho => ?_) (fun other ho hne => ?_) (.inr ?_)
  · rw [node?_clear, if_neg (fun h => ho h.1)]
  · rw [node?_clear, if_pos ⟨ho, hne⟩]
  · rw [node?_clear, if_neg (fun h => h.2 rfl), hd]

/-- A path that does not end in a slash leads to an entry in the same way, whether it is looked
for or has to be made. -/
theorem findSlot_of_steps (hs : path.steps = path.entrySteps) :
    tree.findSlot here path = tree.findEntry here path := by
  rw [findSlot, findEntry, hs]

theorem removeEmpty_spec (h : tree.removeEmpty here path = .ok removed) :
    ∃ place, tree.findSlot here path = .ok (.found place) ∧
      tree.node? place = some .directory ∧ removed = tree.remove place := by
  rw [removeEmpty] at h
  split at h
  · rename_i place hf
    split at h
    · cases h
    · split at h
      · rename_i hd
        split at h
        · cases h
          exact ⟨place, hf, hd, rfl⟩
        · cases h
      · cases h
  · cases h
  · cases h

/-- Removing a directory that has been cleared. -/
theorem empties_removeEmpty (hs : path.steps = path.entrySteps)
    (hf : tree.findEntry here path = .ok (.found place)) (hd : tree.node? place = some .directory)
    (h : (tree.clear place).removeEmpty here path = .ok removed) :
    tree.Empties here path removed := by
  obtain ⟨other, ho, -, rfl⟩ := removeEmpty_spec h
  -- the path leads to the same place as before, for there is nothing new in the cleared tree
  have hsame : tree.findEntry here path = .ok (.found other) :=
    findEntry_of_extends (extends_clear tree place) (by rw [← findSlot_of_steps hs, ho])
  obtain rfl : place = other := by simpa [hf] using hsame
  by_cases root : place = []
  · rw [remove, if_pos root]
    exact empties_clear hf hd
  · refine .emptied hf (fun other ho => ?_) (fun other ho hne => ?_) (.inl ?_)
    · rw [node?_remove root, if_neg ho, node?_clear, if_neg (fun h => ho h.1)]
    · rw [node?_remove root, if_pos ho]
    · rw [node?_remove root, if_pos List.prefix_rfl]

/-- **Removing a directory leaves at most an empty one.** -/
theorem empties_removeDirectory (hs : path.steps = path.entrySteps) :
    tree.Empties here path (tree.removeDirectory here path).2 := by
  rw [removeDirectory]
  split
  · rename_i place hf
    split
    · rename_i hd
      simp only []
      split
      · rename_i removed hr
        exact empties_removeEmpty hs hf hd hr
      · exact empties_clear hf hd
      · exact empties_clear hf hd
    · rename_i linked hl
      have root : place ≠ [] := by
        rintro rfl
        simp at hl
      have hlink : tree.node? place ≠ some .directory := by simp [hl]
      refine .emptied hf (fun other ho => ?_) (fun other ho hne => ?_) (.inl ?_)
      · rw [node?_remove root, if_neg ho]
      · rw [node?_remove root, if_pos ho]
      · rw [node?_remove root, if_pos List.prefix_rfl]
    · exact .untouched
  · exact .untouched
  · exact .untouched

/-- A walk that goes one step and stops at a link ends at the entry of that name. -/
theorem place_of_walk_enter {links : Nat} {parent : Location}
    (h : tree.walk ⟨false, false⟩ links parent [.enter name] = .ok (.found place)) :
    place = parent ++ [name] := by
  rw [walk, stride_cons] at h
  cases hf : tree.footing parent (.enter name) with
  | moved next =>
    have hr : ∀ error, tree.footing parent (.enter name) ≠ .refused error := by
      simp [hf]
    have hd := isDirectory_of_footing hr
    simp only [hf, stride_nil, Except.ok.injEq, Arrival.found.injEq] at h
    simp only [footing, hd] at hf
    split at hf
    · cases hf
    · split at hf <;> cases hf
      exact h.symm
  | absent other => simp [hf] at h
  | refused error => simp [hf] at h
  | link other linked =>
    obtain ⟨hs, -, -⟩ := link_spec hf
    cases hs
    simpa [hf, eq_comm] using h

theorem findSlot_of_createDirectory (h : tree.createDirectory here path = .ok made) :
    ∃ parent name, tree.findSlot here path = .ok (.missing parent name []) ∧
      made = tree.add parent name .directory := by
  rw [createDirectory] at h
  rcases hf : tree.findSlot here path with fault | (place | ⟨parent, name, rest⟩)
  · simp [hf, addAt] at h
  · simp [hf, addAt] at h
  · cases rest with
    | nil => exact ⟨parent, name, rfl, by simpa [hf, addAt, eq_comm] using h⟩
    | cons step rest => simp [hf, addAt] at h

theorem extends_removeDirectory (tree : Tree) (here : Location) (path : Path) :
    Extends tree (tree.removeDirectory here path).2 := by
  have hsame : Extends tree tree := fun _ _ h => h
  rw [removeDirectory]
  split
  · rename_i place hf
    split
    · simp only []
      split
      · rename_i removed hr
        obtain ⟨other, -, -, rfl⟩ := removeEmpty_spec hr
        exact (extends_clear tree place).trans (extends_remove _ other)
      · exact extends_clear tree place
      · exact extends_clear tree place
    · exact extends_remove tree place
    · exact hsame
  · exact hsame
  · exact hsame

theorem exists_findEntry_of_removeDirectory
    (h : tree.removeDirectory here path = (.ok (), removed)) :
    ∃ place, tree.findEntry here path = .ok (.found place) := by
  rw [removeDirectory] at h
  split at h
  · rename_i place hf
    exact ⟨place, hf⟩
  · cases h
  · cases h

/-- **A directory that is made again takes the place of the one that was removed.** -/
theorem empties_createDirectory (hs : path.steps = path.entrySteps)
    (hr : tree.removeDirectory here path = (.ok (), removed))
    (hc : removed.createDirectory here path = .ok made) : tree.Empties here path made := by
  have hremoved : tree.Empties here path removed := by
    have he : tree.Empties here path (tree.removeDirectory here path).2 :=
      empties_removeDirectory hs
    rwa [hr] at he
  have hlarger : Extends tree removed := by
    have he := extends_removeDirectory tree here path
    rwa [hr] at he
  obtain ⟨place, hfound⟩ := exists_findEntry_of_removeDirectory hr
  obtain ⟨parent, name, hslot, rfl⟩ := findSlot_of_createDirectory hc
  obtain ⟨hp, hw⟩ := seek_eq_ok_iff.1 hslot
  obtain ⟨-, hd, hn⟩ := absent_spec (walk_missing_spec hw)
  -- in the larger tree the walk goes on to the entry that is missing here
  obtain ⟨fewer, hsame⟩ := walk_missing_of_extends hlarger hw
  obtain ⟨-, hentry⟩ := seek_eq_ok_iff.1 hfound
  rw [hs, hsame] at hentry
  obtain rfl := place_of_walk_enter hentry
  cases hremoved with
  | untouched =>
    rw [findSlot_of_steps hs, hfound] at hslot
    cases hslot
  | emptied hf houter hinner _ =>
    obtain rfl : parent ++ [name] = _ := by simpa [hfound] using hf
    refine .emptied hfound (fun other ho => ?_) (fun other ho hne => ?_) (.inr ?_)
    · have hne : other ≠ parent ++ [name] := by
        rintro rfl
        exact ho List.prefix_rfl
      rw [node?_add hd hn, if_neg hne, houter other ho]
    · rw [node?_add hd hn, if_neg hne, hinner other ho hne]
    · rw [node?_add hd hn, if_pos rfl]

end LlvmProvision.Files.Tree
