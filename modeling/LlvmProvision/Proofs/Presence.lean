import LlvmProvision.Files.Operations
import LlvmProvision.Proofs.Walks

/-!
# What is present along a path

The places that a run looks at are reached by joining relative parts to a path.  The steps of
a joined path are those of the path, a slash at its end left out, and then those of the part
(`Path.steps_join`).  With the laws of walks this says what the answers to different questions
have to do with each other.

* Something at a joined path means a directory at the path (`isDirectory_of_join`).
* What is present stays present when entries are added (`isPresent_of_extends`).
* A directory that has just been made is there, and nothing is in it
  (`isDirectory_of_createDirectory`, `not_isPresent_join_of_createDirectory`).
-/
namespace LlvmProvision

namespace Text

theorem splitAt_append_sep (sep : Char) (cs ds : List Char) :
    splitAt sep (cs ++ sep :: ds) = splitAt sep cs ++ splitAt sep ds := by
  induction cs with
  | nil => simp [splitAt]
  | cons c cs ih =>
    by_cases h : c = sep
    · simp [splitAt, h, ih]
    · simp only [List.cons_append, splitAt, h, if_false, ih]
      cases hs : splitAt sep cs with
      | nil => exact absurd hs (splitAt_ne_nil sep cs)
      | cons part parts => rfl

end Text

namespace Files

namespace Path

variable {path : Path} {part : String}

/-- The names on both sides of a slash. -/
theorem names_append_slash (front back : String) :
    names ⟨front ++ "/" ++ back⟩ = names ⟨front⟩ ++ names ⟨back⟩ := by
  have hs : (front ++ "/" ++ back).toList = front.toList ++ '/' :: back.toList := by
    simp [String.toList_append]
  simp [names, Text.fields, hs, Text.splitAt_append_sep]

theorem names_empty : names ⟨""⟩ = [] := by
  simp [names, Text.fields, Text.splitAt]

theorem exists_of_endsInSlash (h : path.endsInSlash = true) :
    ∃ front, path.text = front ++ "/" := by
  have hl : path.text.toList.getLast? = some '/' := by simpa [endsInSlash] using h
  obtain ⟨front, hf⟩ := List.getLast?_eq_some_iff.1 hl
  exact ⟨String.ofList front, String.toList_inj.1 (by simp [hf])⟩

/-- The names of a joined path. -/
theorem names_join (relative : isAbsolute ⟨part⟩ = false) (nonempty : path.text ≠ "") :
    (path / part).names = path.names ++ names ⟨part⟩ := by
  have ht := join_text relative nonempty
  obtain ⟨text⟩ := path
  have hp : (⟨text⟩ : Path) / part = ⟨((⟨text⟩ : Path) / part).text⟩ := rfl
  rw [hp, ht]
  by_cases hs : endsInSlash ⟨text⟩ = true
  · -- the slash at the end of the path is the one between the path and the part
    obtain ⟨front, rfl⟩ := exists_of_endsInSlash hs
    have hf := names_append_slash front ""
    rw [String.append_empty, names_empty, List.append_nil] at hf
    simp only [hs, if_true, String.append_empty]
    rw [names_append_slash, hf]
  · simp only [hs]
    exact names_append_slash text part

theorem entrySteps_join (relative : isAbsolute ⟨part⟩ = false) (nonempty : path.text ≠ "") :
    (path / part).entrySteps = path.entrySteps ++ entrySteps ⟨part⟩ := by
  rw [entrySteps, names_join relative nonempty, List.map_append]
  rfl

theorem endsInSlash_join (relative : isAbsolute ⟨part⟩ = false) (nonempty : path.text ≠ "")
    (filled : part ≠ "") : (path / part).endsInSlash = endsInSlash ⟨part⟩ := by
  obtain ⟨last, hl⟩ : ∃ last, part.toList.getLast? = some last :=
    Option.isSome_iff_exists.1 (by simpa using filled)
  simp only [endsInSlash, join_text relative nonempty, String.toList_append,
    List.getLast?_append, hl, Option.some_or]

/-- **The steps of a joined path.** -/
theorem steps_join (relative : isAbsolute ⟨part⟩ = false) (nonempty : path.text ≠ "")
    (named : names ⟨part⟩ ≠ []) : (path / part).steps = path.entrySteps ++ steps ⟨part⟩ := by
  have filled : part ≠ "" := by
    rintro rfl
    exact named names_empty
  have hn : (path / part).names ≠ [] := by simp [names_join relative nonempty, named]
  rw [steps, steps, endsInSlash_join relative nonempty filled, entrySteps_join relative nonempty]
  by_cases hs : endsInSlash ⟨part⟩ = true
  · simp [hs, hn, named]
  · simp [hs]

/-- A joined path begins where the path does. -/
theorem isAbsolute_join (relative : isAbsolute ⟨part⟩ = false) (nonempty : path.text ≠ "") :
    (path / part).isAbsolute = path.isAbsolute := by
  obtain ⟨head, hh⟩ : ∃ head, path.text.toList.head? = some head :=
    Option.isSome_iff_exists.1 (by simpa using nonempty)
  simp only [isAbsolute, join_text relative nonempty, String.toList_append, List.append_assoc,
    List.head?_append, hh, Option.some_or]

/-- The system takes a path with this spelling. -/
structure IsLegal (path : Path) : Prop where
  clean : '\x00' ∉ path.text.toList
  nonempty : path.text ≠ ""
  short : path.text.utf8ByteSize < pathLimit

theorem IsLegal.of_join (h : (path / part).IsLegal) (relative : isAbsolute ⟨part⟩ = false)
    (nonempty : path.text ≠ "") : path.IsLegal where
  clean hc := h.clean (by
    rw [join_text relative nonempty, String.toList_append, String.toList_append]
    exact List.mem_append_left _ (List.mem_append_left _ hc))
  nonempty := nonempty
  short := by
    have hs := h.short
    rw [join_text relative nonempty, String.utf8ByteSize_append, String.utf8ByteSize_append] at hs
    omega

end Path

namespace Tree

variable {tree larger made : Tree} {here place parent : Location} {path : Path}
  {part name : String} {entry : Entry} {gait : Gait} {steps : List Step} {arrival : Arrival}

/-! ### Arrivals -/

theorem seek_eq_ok_iff : tree.seek here path gait steps = .ok arrival ↔
    path.IsLegal ∧ tree.walk gait linkLimit (startOf path here) steps = .ok arrival := by
  rw [seek]
  constructor
  · intro h
    split at h
    · cases h
    · split at h
      · cases h
      · split at h
        · cases h
        · rename_i hc hn hs
          refine ⟨⟨hc, hn, Nat.lt_of_not_le hs⟩, ?_⟩
          cases hw : tree.walk gait linkLimit (startOf path here) steps with
          | ok other => simpa [reported, hw] using h
          | error error => simp [reported, hw] at h
  · rintro ⟨hp, hw⟩
    rw [if_neg hp.clean, if_neg hp.nonempty, if_neg (Nat.not_le_of_lt hp.short), hw]
    rfl

/-- A path that the system takes leads where the walk along it ends. -/
theorem seek_of_isLegal (legal : path.IsLegal) : tree.seek here path gait steps =
    reported (tree.walk gait linkLimit (startOf path here) steps) := by
  rw [seek, if_neg legal.clean, if_neg legal.nonempty, if_neg (Nat.not_le_of_lt legal.short)]

theorem resolve_eq_ok_iff :
    tree.resolve here path = .ok place ↔ tree.find here path = .ok (.found place) := by
  rw [resolve]
  rcases tree.find here path with fault | (other | _)
  · simp [placeOf]
  · simp [placeOf]
  · simp [placeOf]

theorem lookup?_eq_some_iff : tree.lookup? here path = some entry ↔
    ∃ place, tree.find here path = .ok (.found place) ∧ tree.node? place = some entry := by
  simp only [lookup?, ← resolve_eq_ok_iff]
  cases tree.resolve here path <;> simp

theorem isPresent_iff : tree.isPresent here path = true ↔
    ∃ place entry, tree.find here path = .ok (.found place) ∧ tree.node? place = some entry := by
  rw [isPresent, Option.isSome_iff_exists]
  simp only [lookup?_eq_some_iff]
  exact exists_comm

theorem isDirectory_iff : tree.isDirectory here path = true ↔
    ∃ place, tree.find here path = .ok (.found place) ∧ tree.node? place = some .directory := by
  rw [isDirectory, decide_eq_true_iff, lookup?_eq_some_iff]

theorem isPresent_of_isDirectory (h : tree.isDirectory here path = true) :
    tree.isPresent here path = true := by
  obtain ⟨place, hf, hn⟩ := isDirectory_iff.1 h
  exact isPresent_iff.2 ⟨place, _, hf, hn⟩

/-- A slash at the end of a path makes no difference to where a directory is found. -/
theorem find_of_entrySteps (hp : path.IsLegal)
    (hw : tree.walk ⟨true, false⟩ linkLimit (startOf path here) path.entrySteps =
      .ok (.found place))
    (hd : tree.node? place = some .directory) : tree.find here path = .ok (.found place) := by
  refine seek_eq_ok_iff.2 ⟨hp, ?_⟩
  rw [Path.steps]
  split
  · exact walk_slash_of_found hw hd
  · exact hw

/-- **What is at a joined path lies in a directory at the path.** -/
theorem isDirectory_of_join (relative : Path.isAbsolute ⟨part⟩ = false) (nonempty : path.text ≠ "")
    (named : Path.names ⟨part⟩ ≠ []) (h : tree.isPresent here (path / part) = true) :
    tree.isDirectory here path = true := by
  obtain ⟨place, entry, hf, -⟩ := isPresent_iff.1 h
  obtain ⟨hp, hw⟩ := seek_eq_ok_iff.1 hf
  rw [Path.steps_join relative nonempty named, startOf,
    Path.isAbsolute_join relative nonempty] at hw
  obtain ⟨step, rest, hs⟩ : ∃ step rest, Path.steps ⟨part⟩ = step :: rest := by
    refine List.exists_cons_of_ne_nil ?_
    simp only [Path.steps, Path.entrySteps]
    split <;> simp [named]
  rw [hs] at hw
  obtain ⟨between, hb, hd⟩ := found_of_append hw
  exact isDirectory_iff.2 ⟨between, find_of_entrySteps (hp.of_join relative nonempty) hb hd, hd⟩

/-! ### Larger trees -/

theorem find_of_extends (he : Extends larger tree) (h : tree.find here path = .ok (.found place)) :
    larger.find here path = .ok (.found place) := by
  obtain ⟨hp, hw⟩ := seek_eq_ok_iff.1 h
  exact seek_eq_ok_iff.2 ⟨hp, walk_found_of_extends he hw⟩

theorem isPresent_of_extends (he : Extends larger tree) (h : tree.isPresent here path = true) :
    larger.isPresent here path = true := by
  obtain ⟨place, entry, hf, hn⟩ := isPresent_iff.1 h
  exact isPresent_iff.2 ⟨place, entry, find_of_extends he hf, he _ _ hn⟩

/-! ### New directories -/

/-- Making a directory adds it where its path led to nothing. -/
theorem createDirectory_spec (h : tree.createDirectory here path = .ok made) :
    ∃ parent name, path.IsLegal ∧ made = tree.add parent name .directory ∧
      tree.walk ⟨true, false⟩ linkLimit (startOf path here) path.entrySteps =
        .ok (.missing parent name []) := by
  rw [createDirectory] at h
  rcases hf : tree.findSlot here path with fault | (place | ⟨parent, name, left⟩)
  · simp [hf, addAt] at h
  · simp [hf, addAt] at h
  · cases left with
    | nil =>
      -- the slot is looked for without following a link at the end, but a link is no slot
      obtain ⟨hp, hw⟩ := seek_eq_ok_iff.1 hf
      refine ⟨parent, name, hp, ?_, walk_followed_of_missing hw⟩
      simpa [hf, addAt, eq_comm] using h
    | cons step left => simp [hf, addAt] at h

theorem extends_of_createDirectory (h : tree.createDirectory here path = .ok made) :
    Extends made tree := by
  obtain ⟨parent, name, -, rfl, hw⟩ := createDirectory_spec h
  obtain ⟨-, hd, hn⟩ := absent_spec (walk_missing_spec hw)
  exact extends_add .directory hd hn

/-- A directory that has been made is there. -/
theorem isDirectory_of_createDirectory (h : tree.createDirectory here path = .ok made) :
    made.isDirectory here path = true := by
  obtain ⟨parent, name, hp, rfl, hw⟩ := createDirectory_spec h
  obtain ⟨-, hd, hn⟩ := absent_spec (walk_missing_spec hw)
  have hnew : (tree.add parent name .directory).node? (parent ++ [name]) = some .directory := by
    rw [node?_add hd hn, if_pos rfl]
  obtain ⟨fewer, hm⟩ := walk_add_directory hw
  rw [walk_nil] at hm
  exact isDirectory_iff.2 ⟨_, find_of_entrySteps hp hm hnew, hnew⟩

/-- A directory that has been made is empty. -/
theorem not_isPresent_join_of_createDirectory {rest : List Step}
    (relative : Path.isAbsolute ⟨part⟩ = false) (named : Path.names ⟨part⟩ ≠ [])
    (hs : Path.steps ⟨part⟩ = .enter name :: rest)
    (h : tree.createDirectory here path = .ok made) :
    made.isPresent here (path / part) = false := by
  obtain ⟨parent, new, hp, rfl, hw⟩ := createDirectory_spec h
  rw [Bool.eq_false_iff]
  intro hpresent
  obtain ⟨place, entry, hf, -⟩ := isPresent_iff.1 hpresent
  obtain ⟨-, hm⟩ := seek_eq_ok_iff.1 hf
  rw [Path.steps_join relative hp.nonempty named, startOf,
    Path.isAbsolute_join relative hp.nonempty, hs] at hm
  have hmissing := walk_append tree true linkLimit (startOf path here) path.entrySteps
    (List.cons_ne_nil (Step.enter name) rest)
  rw [hw] at hmissing
  exact walk_add_directory_enter hmissing hm

end Tree

end Files

end LlvmProvision
