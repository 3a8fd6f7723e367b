import LlvmProvision.Proofs.Relocation

/-!
# Straight paths

A path leads straight to a directory if it meets no link on its way and never goes up
(`LeadsStraight`).  Then it only passes through the directories above the one it leads to, and it
leads there in every tree in which that is still a directory (`LeadsStraight.of_isDirectory`).
So what is done to the entries inside does not change where the path leads, and a walk along a
joined path is a walk from the directory (`LeadsStraight.walk_join`).

What is joined here are the names of entries (`IsEntryName`): each is one step, and such a path
does not end in a slash.
-/
namespace LlvmProvision.Files

/-- A name that an entry of a directory may have. -/
structure IsEntryName (name : String) : Prop where
  filled : name ≠ ""
  not_dot : name ≠ "."
  not_dots : name ≠ ".."
  unslashed : '/' ∉ name.toList
  clean : '\x00' ∉ name.toList
  short : name.utf8ByteSize ≤ nameLimit

namespace IsEntryName

variable {name : String}

theorem names_eq (h : IsEntryName name) : Path.names ⟨name⟩ = [name] := by
  simp [Path.names, Text.fields, Text.splitAt_of_not_mem h.unslashed, h.filled]

theorem entrySteps_eq (h : IsEntryName name) : Path.entrySteps ⟨name⟩ = [.enter name] := by
  rw [Path.entrySteps, h.names_eq, List.map_singleton, Step.ofName, if_neg h.not_dot,
    if_neg h.not_dots]

theorem endsInSlash_eq (h : IsEntryName name) : Path.endsInSlash ⟨name⟩ = false := by
  rw [Path.endsInSlash, decide_eq_false_iff_not]
  intro hl
  exact h.unslashed (List.mem_of_getLast? hl)

theorem steps_eq (h : IsEntryName name) : Path.steps ⟨name⟩ = [.enter name] := by
  rw [Path.steps, if_neg (by simp [h.endsInSlash_eq]), h.entrySteps_eq]

theorem isAbsolute_eq (h : IsEntryName name) : Path.isAbsolute ⟨name⟩ = false := by
  rw [Path.isAbsolute, decide_eq_false_iff_not]
  intro hl
  exact h.unslashed (List.mem_of_head? hl)

theorem names_ne_nil (h : IsEntryName name) : Path.names ⟨name⟩ ≠ [] := by
  simp [h.names_eq]

/-- The steps of a path that is joined with a single name. -/
theorem steps_join (h : IsEntryName name) (path : Path) :
    (path / name).steps = path.entrySteps ++ [.enter name] := by
  obtain ⟨text⟩ := path
  by_cases he : text = ""
  · subst he
    rw [Path.join_empty, h.steps_eq, Path.entrySteps, Path.names_empty]
    rfl
  · rw [Path.steps_join h.isAbsolute_eq he h.names_ne_nil, h.steps_eq]

theorem entrySteps_join (h : IsEntryName name) (path : Path) :
    (path / name).entrySteps = path.entrySteps ++ [.enter name] := by
  obtain ⟨text⟩ := path
  by_cases he : text = ""
  · subst he
    rw [Path.join_empty, h.entrySteps_eq, Path.entrySteps, Path.names_empty]
    rfl
  · rw [Path.entrySteps_join h.isAbsolute_eq he, h.entrySteps_eq]

theorem startOf_join (h : IsEntryName name) (path : Path) (here : Location) :
    Tree.startOf (path / name) here = Tree.startOf path here := by
  obtain ⟨text⟩ := path
  by_cases he : text = ""
  · subst he
    have hempty : Path.isAbsolute ⟨""⟩ = false := by decide
    rw [Path.join_empty, Tree.startOf, Tree.startOf, h.isAbsolute_eq, hempty]
  · rw [Tree.startOf, Tree.startOf, Path.isAbsolute_join h.isAbsolute_eq he]

/-- Such a path does not end in a slash. -/
theorem findSlot_join (h : IsEntryName name) (tree : Tree) (here : Location) (path : Path) :
    tree.findSlot here (path / name) = tree.findEntry here (path / name) :=
  Tree.findSlot_of_steps (by rw [h.steps_join, h.entrySteps_join])

/-- A name is looked up in the directory itself. -/
theorem find_eq (h : IsEntryName name) (tree : Tree) (here : Location) :
    tree.find here ⟨name⟩ =
      Tree.reported (tree.walk ⟨true, false⟩ linkLimit here [.enter name]) := by
  have hlegal : Path.IsLegal ⟨name⟩ :=
    ⟨h.clean, h.filled, Nat.lt_of_le_of_lt h.short (by decide)⟩
  rw [Tree.find, Tree.seek_of_isLegal hlegal, h.steps_eq, Tree.startOf, h.isAbsolute_eq,
    if_neg Bool.false_ne_true]

end IsEntryName

namespace Path

variable {path : Path} {part name : String}

theorem utf8ByteSize_join (relative : isAbsolute ⟨part⟩ = false) (nonempty : path.text ≠ "") :
    (path / part).text.utf8ByteSize =
      path.text.utf8ByteSize + (if path.endsInSlash then 0 else 1) + part.utf8ByteSize := by
  rw [join_text relative nonempty, String.utf8ByteSize_append, String.utf8ByteSize_append]
  split
  · rfl
  · rfl

theorem IsLegal.join (h : path.IsLegal) (hname : IsEntryName name)
    (short : (path / name).text.utf8ByteSize < pathLimit) : (path / name).IsLegal where
  clean hc := by
    rw [join_text hname.isAbsolute_eq h.nonempty, String.toList_append, String.toList_append,
      List.mem_append, List.mem_append] at hc
    rcases hc with (hc | hc) | hc
    · exact h.clean hc
    · split at hc
      · simp at hc
      · simp at hc
    · exact hname.clean hc
  nonempty := by
    rw [join_text hname.isAbsolute_eq h.nonempty]
    simp [h.nonempty]
  short := short

end Path

namespace Tree

variable {tree other : Tree} {gait : Gait} {links : Nat} {follow : Bool} {here place : Location}
  {path : Path} {steps rest : List Step} {name part : String}

/-! ## Single steps -/

/-- A step to a name that is not too long leads to the entry of the name. -/
theorem footing_enter (short : name.utf8ByteSize ≤ nameLimit)
    (hd : tree.node? here = some .directory) :
    tree.footing here (.enter name) =
      match tree.node? (here ++ [name]) with
      | none => .absent name
      | some (.link target) => .link name target
      | some _ => .moved (here ++ [name]) := by
  have hlimit : ¬ nameLimit < name.utf8ByteSize := Nat.not_lt.2 short
  cases hn : tree.node? (here ++ [name]) with
  | none => simp only [footing, hd, hn, if_neg hlimit]
  | some entry =>
    cases entry with
    | directory => simp only [footing, hd, hn, if_neg hlimit]
    | file text => simp only [footing, hd, hn, if_neg hlimit]
    | link target => simp only [footing, hd, hn, if_neg hlimit]

/-- A step to an entry that is no link. -/
theorem walk_enter_of_entry {entry : Entry} (short : name.utf8ByteSize ≤ nameLimit)
    (hn : tree.node? (here ++ [name]) = some entry) (hl : ∀ target, entry ≠ .link target) :
    tree.walk ⟨follow, false⟩ links here [.enter name] = .ok (.found (here ++ [name])) := by
  have hd : tree.node? here = some .directory := by
    have hp := node?_dropLast hn
    rwa [List.dropLast_concat] at hp
  have hf : tree.footing here (.enter name) = .moved (here ++ [name]) := by
    rw [footing_enter short hd, hn]
    cases entry with
    | directory => rfl
    | file text => rfl
    | link target => exact absurd rfl (hl target)
  rw [walk_moved hf, walk_nil]

/-- A step to an entry that is missing. -/
theorem walk_enter_of_none (short : name.utf8ByteSize ≤ nameLimit)
    (hd : tree.node? here = some .directory) (hn : tree.node? (here ++ [name]) = none) :
    tree.walk ⟨follow, false⟩ links here [.enter name] = .ok (.missing here name []) := by
  have hf : tree.footing here (.enter name) = .absent name := by
    rw [footing_enter short hd, hn]
  rw [walk, stride_cons, hf]

/-! ## Strides that do not go up -/

/-- A step that is taken leads to its name, or stays, or goes up. -/
theorem moved_spec {step : Step} {next : Location}
    (h : tree.footing here step = .moved next) : tree.node? here = some .directory ∧
      (next = here ∨ step = .up ∨ ∃ name, step = .enter name ∧ next = here ++ [name]) := by
  have hd : tree.node? here = some .directory :=
    isDirectory_of_footing fun error he => by
      rw [h] at he
      cases he
  refine ⟨hd, ?_⟩
  cases step with
  | stay => exact .inl (by simpa [footing, hd, eq_comm] using h)
  | slash => exact .inl (by simpa [footing, hd, eq_comm] using h)
  | up => exact .inr (.inl rfl)
  | enter name =>
    simp only [footing, hd] at h
    split at h
    · cases h
    · split at h
      · cases h
      · cases h
      · cases h
        exact .inr (.inr ⟨name, rfl, rfl⟩)

/-- A step that does not go up is taken in every tree in which it leads to a directory. -/
theorem footing_of_isDirectory {step : Step} {next : Location} (hup : step ≠ .up)
    (h : tree.footing here step = .moved next) (hd : other.node? next = some .directory) :
    other.footing here step = .moved next := by
  obtain ⟨hhere, rfl | rfl | ⟨name, rfl, rfl⟩⟩ := moved_spec h
  · cases step with
    | stay => simp [footing, hd]
    | slash => simp [footing, hd]
    | up => exact absurd rfl hup
    | enter name =>
      -- a name leads on, never back to the same directory
      simp only [footing, hhere] at h
      split at h
      · cases h
      · split at h <;> simp at h
  · exact absurd rfl hup
  · have hparent : other.node? here = some .directory := by
      have hp := node?_dropLast hd
      rwa [List.dropLast_concat] at hp
    simp only [footing, hhere] at h
    simp only [footing, hparent, hd]
    split at h
    · cases h
    · rename_i hl
      rw [if_neg hl]

/-- A stride that does not go up ends at its start or below it. -/
theorem prefix_of_stride (hup : .up ∉ steps)
    (h : tree.stride ⟨true, false⟩ here steps = .arrived (.found place)) : here <+: place := by
  induction steps generalizing here with
  | nil =>
    obtain rfl : here = place := by simpa [stride_nil] using h
    exact List.prefix_rfl
  | cons step rest ih =>
    rw [List.mem_cons, not_or] at hup
    rw [stride_cons] at h
    cases hf : tree.footing here step with
    | moved next =>
      have hnext : next <+: place := ih hup.2 (by simpa [hf] using h)
      obtain ⟨-, rfl | rfl | ⟨name, rfl, rfl⟩⟩ := moved_spec hf
      · exact hnext
      · exact absurd rfl hup.1
      · exact (List.prefix_append here [name]).trans hnext
    | absent name => simp [hf] at h
    | refused error => simp [hf] at h
    | link name target => simp [hf] at h

/-- **Such a stride passes through directories above its end only**, so it depends on nothing
else. -/
theorem stride_of_isDirectory (hup : .up ∉ steps)
    (h : tree.stride ⟨true, false⟩ here steps = .arrived (.found place))
    (hd : other.node? place = some .directory) :
    other.stride ⟨true, false⟩ here steps = .arrived (.found place) := by
  induction steps generalizing here with
  | nil => simpa [stride_nil] using h
  | cons step rest ih =>
    rw [List.mem_cons, not_or] at hup
    rw [stride_cons] at h
    cases hf : tree.footing here step with
    | moved next =>
      simp only [hf] at h
      have hnext : other.node? next = some .directory := by
        by_cases he : next = place
        · rw [he, hd]
        · exact node?_of_prefix hd (prefix_of_stride hup.2 h) he
      rw [stride_cons, footing_of_isDirectory (Ne.symm hup.1) hf hnext]
      exact ih hup.2 h
    | absent name => simp [hf] at h
    | refused error => simp [hf] at h
    | link name target => simp [hf] at h

/-! ## Straight paths -/

/-- A walk that must not follow any link is a stride. -/
theorem walk_zero_iff {arrival : Arrival} :
    tree.walk gait 0 here steps = .ok arrival ↔ tree.stride gait here steps = .arrived arrival := by
  rw [walk]
  cases tree.stride gait here steps with
  | arrived other => simp
  | refused error => simp
  | link parent target rest => simp

/-- **The path leads straight to a directory**: no link has to be followed, and no step goes
up. -/
structure LeadsStraight (tree : Tree) (here : Location) (path : Path) (place : Location) :
    Prop where
  legal : path.IsLegal
  upless : .up ∉ path.entrySteps
  linkless : tree.walk ⟨true, false⟩ 0 (startOf path here) path.entrySteps = .ok (.found place)
  directory : tree.node? place = some .directory

namespace LeadsStraight

/-- **It leads there in every tree in which there is a directory.** -/
theorem of_isDirectory (h : tree.LeadsStraight here path place)
    (hd : other.node? place = some .directory) : other.LeadsStraight here path place where
  legal := h.legal
  upless := h.upless
  linkless := walk_zero_iff.2 (stride_of_isDirectory h.upless (walk_zero_iff.1 h.linkless) hd)
  directory := hd

/-- A walk that goes on from a straight path. -/
theorem walk_append (h : tree.LeadsStraight here path place) (hrest : rest ≠ []) :
    tree.walk ⟨follow, false⟩ links (startOf path here) (path.entrySteps ++ rest) =
      tree.walk ⟨follow, false⟩ links place rest := by
  have hs : tree.stride ⟨follow, false⟩ (startOf path here) (path.entrySteps ++ rest) =
      tree.stride ⟨follow, false⟩ place rest := by
    rw [stride_append hrest, walk_zero_iff.1 h.linkless]
    rfl
  rw [walk, walk, hs]

/-- A walk along a path that is joined to a straight one with a single name. -/
theorem walk_join (h : tree.LeadsStraight here path place) (hname : IsEntryName name) :
    tree.walk ⟨follow, false⟩ links (startOf (path / name) here) (path / name).steps =
      tree.walk ⟨follow, false⟩ links place [.enter name] := by
  rw [hname.steps_join, hname.startOf_join]
  exact h.walk_append (List.cons_ne_nil _ _)

/-- The path of a directory inside is straight, too. -/
theorem join (h : tree.LeadsStraight here path place) (hname : IsEntryName name)
    (hlegal : (path / name).IsLegal) (hd : tree.node? (place ++ [name]) = some .directory) :
    tree.LeadsStraight here (path / name) (place ++ [name]) where
  legal := hlegal
  upless := by
    rw [hname.entrySteps_join]
    simpa using h.upless
  linkless := by
    have hf : tree.footing place (.enter name) = .moved (place ++ [name]) := by
      rw [footing_enter hname.short h.directory, hd]
    rw [hname.startOf_join, hname.entrySteps_join, walk_zero_iff,
      stride_append (List.cons_ne_nil _ _), walk_zero_iff.1 h.linkless, onward,
      stride_cons, hf]
    exact stride_nil
  directory := hd

/-! ## Entries behind straight paths -/

section Inside

variable (h : tree.LeadsStraight here path place) (hname : IsEntryName name)
  (hlegal : (path / name).IsLegal)

include h hname hlegal

/-- A single name behind a straight path leads to the entry of that name, unless it is a link. -/
theorem seek_entry {entry : Entry} (hn : tree.node? (place ++ [name]) = some entry)
    (hl : ∀ target, entry ≠ .link target) :
    tree.seek here (path / name) ⟨follow, false⟩ (path / name).steps =
      .ok (.found (place ++ [name])) := by
  refine seek_eq_ok_iff.2 ⟨hlegal, ?_⟩
  rw [h.walk_join hname, walk_enter_of_entry hname.short hn hl]

theorem seek_none (hn : tree.node? (place ++ [name]) = none) :
    tree.seek here (path / name) ⟨follow, false⟩ (path / name).steps =
      .ok (.missing place name []) := by
  refine seek_eq_ok_iff.2 ⟨hlegal, ?_⟩
  rw [h.walk_join hname, walk_enter_of_none hname.short h.directory hn]

end Inside

end LeadsStraight

end Tree

end LlvmProvision.Files
