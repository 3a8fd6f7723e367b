import LlvmProvision.Proofs.StraightPaths
import LlvmProvision.Proofs.Trails

/-!
# Joined paths

A path that leads to a directory, through links or not (`Leads`), is joined with the name of an
entry.  The joined path then leads to the entry of that name in the directory.

If the path leads to the directory whatever becomes of that entry (`LeadsDespite`), a directory
under that name can be removed and made again (`LeadsDespite.exists_replaced`), and the same holds
of a link in its place.  A path that does not lead through the entry is such a path
(`Leads.of_same`), and so is a straight one (`LeadsStraight.despite`).
-/
namespace LlvmProvision.Files.Tree

variable {tree other : Tree} {links : Nat} {follow : Bool}
  {here place through : Location} {path : Path} {steps rest : List Step} {name : String}
  {entry : Entry} {arrival : Arrival}

theorem not_prefix_of_concat (place : Location) (name : String) : ¬ place ++ [name] <+: place := by
  intro hp
  have hl := hp.length_le
  rw [List.length_append, List.length_singleton] at hl
  omega

/-- A step to an entry, a link taken for itself. -/
theorem walk_enter_of_some (short : name.utf8ByteSize ≤ nameLimit)
    (hn : tree.node? (here ++ [name]) = some entry) :
    tree.walk ⟨false, false⟩ links here [.enter name] = .ok (.found (here ++ [name])) := by
  have hd : tree.node? here = some .directory := by
    have hp := node?_dropLast hn
    rwa [List.dropLast_concat] at hp
  cases entry with
  | directory => exact walk_enter_of_entry short hn (by simp)
  | file text => exact walk_enter_of_entry short hn (by simp)
  | link target =>
    have hf : tree.footing here (.enter name) = .link name target := by
      rw [footing_enter short hd, hn]
    rw [walk, stride_cons, hf]
    simp

/-! ## Where a path leads -/

/-- **The path leads to a directory**, through links or not. -/
structure Leads (tree : Tree) (here : Location) (path : Path) (place : Location) : Prop where
  walk : tree.walk ⟨true, false⟩ linkLimit (startOf path here) path.entrySteps =
    .ok (.found place)
  directory : tree.node? place = some .directory

/-- What is found behind a path lies in a directory that the path leads to. -/
theorem exists_leads_of_walk (hrest : rest ≠ [])
    (h : tree.walk ⟨follow, false⟩ linkLimit (startOf path here) (path.entrySteps ++ rest) =
      .ok (.found place)) : ∃ parent, tree.Leads here path parent := by
  obtain ⟨step, left, rfl⟩ := List.exists_cons_of_ne_nil hrest
  obtain ⟨parent, hw, hd⟩ := found_of_append h
  exact ⟨parent, hw, hd⟩

namespace Leads

theorem unique {place' : Location} (h : tree.Leads here path place)
    (h' : tree.Leads here path place') : place = place' := by
  simpa [h'.walk, eq_comm] using h.walk

theorem find_eq (h : tree.Leads here path place) (legal : path.IsLegal) :
    tree.find here path = .ok (.found place) :=
  find_of_entrySteps legal h.walk h.directory

/-- **The walk to a name in the directory** goes on from there, with the links that are left. -/
theorem exists_walk_join (h : tree.Leads here path place) (hname : IsEntryName name)
    (follow : Bool) :
    ∃ fewer, fewer ≤ linkLimit ∧
      tree.walk ⟨follow, false⟩ linkLimit (startOf (path / name) here) (path / name).steps =
        tree.walk ⟨follow, false⟩ fewer place [.enter name] := by
  have hw : tree.walk ⟨true, false⟩ linkLimit (startOf path here)
      path.entrySteps = .ok (.found place) := h.walk
  rw [hname.steps_join, hname.startOf_join]
  exact exists_le_walk_append (List.cons_ne_nil _ _) hw

/-- **The entry of a name** in the directory. -/
theorem findEntry_join (h : tree.Leads here path place) (hname : IsEntryName name)
    (hlegal : (path / name).IsLegal) (hn : tree.node? (place ++ [name]) = some entry) :
    tree.findEntry here (path / name) = .ok (.found (place ++ [name])) := by
  obtain ⟨fewer, -, hw⟩ := h.exists_walk_join hname false
  refine seek_eq_ok_iff.2 ⟨hlegal, ?_⟩
  rw [hw, walk_enter_of_some hname.short hn]

theorem findSlot_join_of_none (h : tree.Leads here path place) (hname : IsEntryName name)
    (hlegal : (path / name).IsLegal) (hn : tree.node? (place ++ [name]) = none) :
    tree.findSlot here (path / name) = .ok (.missing place name []) := by
  obtain ⟨fewer, -, hw⟩ := h.exists_walk_join hname false
  rw [hname.findSlot_join]
  refine seek_eq_ok_iff.2 ⟨hlegal, ?_⟩
  rw [hw, walk_enter_of_none hname.short h.directory hn]

/-- The path of a directory inside leads there. -/
theorem join (h : tree.Leads here path place) (hname : IsEntryName name)
    (hn : tree.node? (place ++ [name]) = some .directory) :
    tree.Leads here (path / name) (place ++ [name]) where
  walk := by
    obtain ⟨fewer, -, hw⟩ := h.exists_walk_join hname true
    rw [hname.entrySteps_join, ← hname.steps_join, hw,
      walk_enter_of_entry hname.short hn (by simp)]
  directory := hn

end Leads

/-! ## Entries that may change -/

/-- **The path leads to a directory whatever becomes of an entry** and of all below it. -/
def LeadsDespite (tree : Tree) (here : Location) (path : Path) (place through : Location) : Prop :=
  ∀ other : Tree, (∀ inner, ¬ through <+: inner → other.node? inner = tree.node? inner) →
    other.Leads here path place

theorem mem_strideTrail_of_stride
    (h : tree.stride ⟨true, false⟩ here steps = .arrived (.found place)) :
    place ∈ tree.strideTrail here steps := by
  induction steps generalizing here with
  | nil =>
    obtain rfl : here = place := by simpa [stride_nil] using h
    exact mem_strideTrail_self
  | cons step rest ih =>
    rw [stride_cons] at h
    cases hf : tree.footing here step with
    | moved next =>
      simp only [hf] at h
      simp only [strideTrail, hf, List.mem_cons]
      exact .inr (.inr (ih h))
    | absent name => simp [hf] at h
    | refused error => simp [hf] at h
    | link name target => simp [hf] at h

/-- The end of a walk is on its trail. -/
theorem mem_trail_of_walk
    (h : tree.walk ⟨true, false⟩ links here steps = .ok (.found place)) :
    place ∈ tree.trail ⟨true, false⟩ links here steps := by
  induction links generalizing here steps with
  | zero =>
    rw [walk] at h
    rw [trail]
    cases hs : tree.stride ⟨true, false⟩ here steps with
    | arrived arrival =>
      obtain rfl : arrival = .found place := by simpa [hs] using h
      exact List.mem_append_left _ (mem_strideTrail_of_stride hs)
    | refused error => simp [hs] at h
    | link parent target rest => simp [hs] at h
  | succ links ih =>
    rw [walk] at h
    rw [trail]
    cases hs : tree.stride ⟨true, false⟩ here steps with
    | arrived arrival =>
      obtain rfl : arrival = .found place := by simpa [hs] using h
      exact List.mem_append_left _ (mem_strideTrail_of_stride hs)
    | refused error => simp [hs] at h
    | link parent target rest => exact List.mem_append_right _ (ih (by simpa only [hs] using h))

/-- A path leads to the same directory where nothing on its way is different. -/
theorem Leads.of_trail (h : tree.Leads here path place)
    (hsame : ∀ between ∈ tree.trail ⟨true, false⟩ linkLimit (startOf path here) path.entrySteps,
      other.node? between = tree.node? between) : other.Leads here path place where
  walk := by rw [walk_of_trail hsame, h.walk]
  directory := by rw [hsame place (mem_trail_of_walk h.walk), h.directory]

/-- **A path does not depend on what it does not lead through.** -/
theorem Leads.of_same (h : tree.Leads here path place)
    (hpast : ¬ tree.LeadsThrough here path through)
    (hsame : ∀ between, tree.LeadsOn between → ¬ through <+: between →
      other.node? between = tree.node? between) : other.Leads here path place :=
  h.of_trail fun between hm =>
    hsame between (leadsOn_of_mem_trail h.walk h.directory between hm) fun hp =>
      hpast ⟨between, hm, hp⟩

theorem Leads.of_extends (h : tree.Leads here path place) (he : Extends other tree) :
    other.Leads here path place where
  walk := walk_found_of_extends he h.walk
  directory := he _ _ h.directory

theorem LeadsStraight.leads (h : tree.LeadsStraight here path place) :
    tree.Leads here path place where
  walk := by
    rcases walk_of_le tree ⟨true, false⟩ (startOf path here) path.entrySteps
      (Nat.zero_le linkLimit) with he | he
    · rw [h.linkless] at he
      cases he
    · rw [he, h.linkless]
  directory := h.directory

/-- **A straight path** does not depend on what is in its directory. -/
theorem LeadsStraight.despite (h : tree.LeadsStraight here path place) :
    tree.LeadsDespite here path place (place ++ [name]) := by
  intro other hsame
  have hd : other.node? place = some .directory := by
    rw [hsame place (not_prefix_of_concat place name), h.directory]
  exact (h.of_isDirectory hd).leads

/-! ## Directories that are made -/

/-- A step that misses an entry misses the one of its name. -/
theorem missing_of_walk_enter {parent other : Location} {missed : String}
    (h : tree.walk ⟨false, false⟩ links parent [.enter name] = .ok (.missing other missed [])) :
    other = parent ∧ missed = name := by
  rw [walk, stride_cons] at h
  cases hf : tree.footing parent (.enter name) with
  | moved next => simp [hf, stride_nil] at h
  | absent found =>
    obtain ⟨hs, -, -⟩ := absent_spec hf
    cases hs
    simpa [hf, eq_comm] using h
  | refused error => simp [hf] at h
  | link found target => simp [hf] at h

/-- **A directory is made in the directory that the path in front leads to.** -/
theorem leads_of_createDirectory {made : Tree} (hname : IsEntryName name)
    (h : tree.createDirectory here (path / name) = .ok made) :
    ∃ place, tree.Leads here path place ∧ tree.node? (place ++ [name]) = none ∧
      made = tree.add place name .directory := by
  obtain ⟨parent, missed, hslot, rfl⟩ := findSlot_of_createDirectory h
  rw [hname.findSlot_join] at hslot
  obtain ⟨-, hw⟩ := seek_eq_ok_iff.1 hslot
  rw [hname.steps_join, hname.startOf_join] at hw
  have hc := walk_append tree false linkLimit (startOf path here) path.entrySteps
    (List.cons_ne_nil (Step.enter name) [])
  rw [hw] at hc
  rcases hb : tree.walk ⟨true, false⟩ linkLimit (startOf path here) path.entrySteps with
    error | (place | ⟨other, left, rest⟩)
  · rw [hb] at hc
    cases hc
  · rw [hb] at hc
    obtain ⟨fewer, hc⟩ := hc
    obtain ⟨rfl, rfl⟩ := missing_of_walk_enter hc.symm
    obtain ⟨-, hd, hn⟩ := absent_spec (walk_missing_spec hc.symm)
    exact ⟨parent, ⟨hb, hd⟩, hn, rfl⟩
  · rw [hb] at hc
    simp [Continued] at hc

namespace LeadsDespite

variable (h : tree.LeadsDespite here path place (place ++ [name])) (hname : IsEntryName name)
  (hlegal : (path / name).IsLegal)

include h hname hlegal

/-- **What is under the name is removed**, be it a directory with its contents or a link. -/
theorem removeDirectory_eq (hn : tree.node? (place ++ [name]) = some .directory ∨
      ∃ target, tree.node? (place ++ [name]) = some (.link target)) :
    ∃ removed, tree.removeDirectory here (path / name) = (.ok (), removed) ∧
      ∀ inner, removed.node? inner =
        if place ++ [name] <+: inner then none else tree.node? inner := by
  have hleads := h tree fun _ _ => rfl
  rcases hn with hn | ⟨target, hn⟩
  · have hfound := hleads.findEntry_join hname hlegal hn
    -- the path leads to the cleared directory, too
    have hcleared : (tree.clear (place ++ [name])).node? (place ++ [name]) = some .directory := by
      rw [node?_clear, if_neg (by simp), hn]
    have hslot : (tree.clear (place ++ [name])).findSlot here (path / name) =
        .ok (.found (place ++ [name])) := by
      rw [hname.findSlot_join]
      refine (h _ fun inner hi => ?_).findEntry_join hname hlegal hcleared
      rw [node?_clear, if_neg fun hp => hi hp.1]
    have hlast : (path / name).entrySteps.getLast? ≠ some .stay := by
      rw [hname.entrySteps_join]
      simp
    have hempty : ((tree.clear (place ++ [name])).children (place ++ [name])).isEmpty = true := by
      rw [List.isEmpty_iff, List.eq_nil_iff_forall_not_mem]
      rintro ⟨inner, entry⟩ hm
      rw [mem_children, node?_clear, if_pos (by simp)] at hm
      cases hm
    have hremoved : (tree.clear (place ++ [name])).removeEmpty here (path / name) =
        .ok ((tree.clear (place ++ [name])).remove (place ++ [name])) := by
      simp only [removeEmpty, hslot, if_neg hlast, hcleared, if_pos hempty]
    refine ⟨(tree.clear (place ++ [name])).remove (place ++ [name]), ?_, fun inner => ?_⟩
    · simp only [removeDirectory, hfound, hn, hremoved]
    · rw [node?_remove (by simp)]
      split
      · rfl
      · rename_i ho
        rw [node?_clear, if_neg fun hp => ho hp.1]
  · have hfound := hleads.findEntry_join hname hlegal hn
    refine ⟨tree.remove (place ++ [name]), ?_, node?_remove (by simp)⟩
    simp only [removeDirectory, hfound, hn]

/-- **A directory or a link under the name is replaced** by an empty directory. -/
theorem exists_replaced (hn : tree.node? (place ++ [name]) = some .directory ∨
      ∃ target, tree.node? (place ++ [name]) = some (.link target)) :
    ∃ removed made, tree.removeDirectory here (path / name) = (.ok (), removed) ∧
      removed.createDirectory here (path / name) = .ok made ∧
      ∀ inner, made.node? inner =
        if inner = place ++ [name] then some .directory
        else if place ++ [name] <+: inner then none else tree.node? inner := by
  obtain ⟨removed, hremove, hview⟩ := h.removeDirectory_eq hname hlegal hn
  have hfree : removed.node? (place ++ [name]) = none := by
    rw [hview, if_pos List.prefix_rfl]
  have hleads : removed.Leads here path place := h _ fun inner hi => by rw [hview, if_neg hi]
  have hcreate : removed.createDirectory here (path / name) =
      .ok (removed.add place name .directory) := by
    rw [createDirectory, hleads.findSlot_join_of_none hname hlegal hfree, addAt]
  refine ⟨removed, _, hremove, hcreate, fun inner => ?_⟩
  rw [node?_add hleads.directory hfree, hview]

end LeadsDespite

end LlvmProvision.Files.Tree
