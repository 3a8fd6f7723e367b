import LlvmProvision.Proofs.Presence

/-!
# Paths that are looked up from the root

The location of a path is found out on a walk that looks up each entry by its path from the root
(`Tree.resolveFromRoot`).  Such a path may be too long, even where the path that was given is
short: it may lead through links, or start in a directory far from the root.

`Tree.lookups` lists the paths that are looked up.  The walk is the plain one if they are all within
reach, and otherwise it is refused for the length of a name (`walk_fromRoot`).  So these paths alone
tell whether a path that leads to something can be resolved (`resolveFromRoot_eq`).
-/
namespace LlvmProvision.Files

/-- The path is short enough for an entry to be looked up by it. -/
def Path.IsWithinReach (path : Path) : Prop := path.text.utf8ByteSize < pathLimit

instance (path : Path) : Decidable path.IsWithinReach := inferInstanceAs (Decidable (_ < _))

namespace Tree

variable {tree : Tree} {links : Nat} {here place : Location} {path : Path} {name : String}
  {steps first rest : List Step}

/-- The paths that a stride looks up: before each step the one that comes next. -/
def strideLookups (tree : Tree) : Location → List Step → List Path
  | _, [] => []
  | here, step :: rest =>
    (tree.nextLookup? here (step :: rest)).toList ++
      match tree.footing here step with
      | .moved place => strideLookups tree place rest
      | _ => []

/-- **The paths that a walk looks up** if it follows links to the end. -/
def lookups (tree : Tree) (links : Nat) (here : Location) (steps : List Step) : List Path :=
  tree.strideLookups here steps ++
    match tree.stride ⟨true, false⟩ here steps with
    | .link parent target rest =>
      match links with
      | 0 => []
      | links + 1 => lookups tree links (startOf target parent) (target.steps ++ rest)
    | _ => []

/-- The paths that are looked up when the location of a path is found out. -/
def lookupsOf (tree : Tree) (here : Location) (path : Path) : List Path :=
  tree.lookups linkLimit (startOf path here) path.steps

/-- At the end of a path an entry of any kind will do. -/
theorem lookupPath_nil (tree : Tree) (place : Location) : tree.lookupPath place [] = place.path := by
  unfold lookupPath
  split
  · rfl
  · rfl

/-! ## Walks that look everything up from the root -/

theorem isOutOfReach_eq_false_iff : tree.isOutOfReach ⟨true, true⟩ here steps = false ↔
    ∀ next ∈ (tree.nextLookup? here steps).toList, next.IsWithinReach := by
  unfold isOutOfReach
  cases tree.nextLookup? here steps with
  | none => simp
  | some next => simp [Path.IsWithinReach]

/-- **A stride is the plain one if everything is within reach**, and otherwise it is refused. -/
theorem stride_fromRoot (tree : Tree) (here : Location) (steps : List Step) :
    tree.stride ⟨true, true⟩ here steps =
      if ∀ between ∈ tree.strideLookups here steps, between.IsWithinReach then
        tree.stride ⟨true, false⟩ here steps
      else .refused .nameTooLong := by
  induction steps generalizing here with
  | nil => simp [strideLookups, stride_nil]
  | cons step rest ih =>
    simp only [stride_step, isOutOfReach_plain, strideLookups, List.forall_mem_append,
      ← isOutOfReach_eq_false_iff]
    cases tree.isOutOfReach ⟨true, true⟩ here (step :: rest) with
    | true => simp
    | false =>
      -- nothing hinders this step, and only an entry that is no link leads on to further lookups
      cases tree.footing here step with
      | moved place => simpa using ih place
      | absent name => simp
      | refused error => simp
      | link name target => simp

/-- **A walk is the plain one if everything is within reach**, and otherwise it is refused. -/
theorem walk_fromRoot (tree : Tree) (links : Nat) (here : Location) (steps : List Step) :
    tree.walk ⟨true, true⟩ links here steps =
      if ∀ between ∈ tree.lookups links here steps, between.IsWithinReach then
        tree.walk ⟨true, false⟩ links here steps
      else .error .nameTooLong := by
  induction links generalizing here steps with
  | zero =>
    rw [walk, walk, lookups, stride_fromRoot]
    by_cases hreach : ∀ between ∈ tree.strideLookups here steps, between.IsWithinReach
    · rw [if_pos hreach]
      simp only [List.forall_mem_append, eq_true hreach, true_and]
      cases tree.stride ⟨true, false⟩ here steps with
      | arrived arrival => simp
      | refused error => simp
      | link parent target rest => simp
    · rw [if_neg hreach, if_neg fun h => hreach (List.forall_mem_append.1 h).1]
  | succ links ih =>
    rw [walk, walk, lookups, stride_fromRoot]
    by_cases hreach : ∀ between ∈ tree.strideLookups here steps, between.IsWithinReach
    · rw [if_pos hreach]
      simp only [List.forall_mem_append, eq_true hreach, true_and]
      cases tree.stride ⟨true, false⟩ here steps with
      | arrived arrival => simp
      | refused error => simp
      | link parent target rest => exact ih _ _
    · rw [if_neg hreach, if_neg fun h => hreach (List.forall_mem_append.1 h).1]

/-! ## Resolving a path -/

/-- **A path is resolved as it is by the system** if everything that is looked up for it is within
reach, and otherwise a name is too long. -/
theorem resolveFromRoot_eq (legal : path.IsLegal) : tree.resolveFromRoot here path =
    if ∀ between ∈ tree.lookupsOf here path, between.IsWithinReach then tree.resolve here path
    else .error (.system .nameTooLong) := by
  rw [resolveFromRoot, resolve, findFromRoot, find, seek_of_isLegal legal, seek_of_isLegal legal,
    walk_fromRoot, lookupsOf]
  split
  · rfl
  · rfl

-- the link is read by its name, and the directory that it leads to is asked for as one
example : ((Tree.empty.add [] "deps" .directory).add [] "alias" (.link ⟨"deps"⟩)).lookupsOf []
    ⟨"alias/."⟩ = [⟨"/alias"⟩, ⟨"/deps/"⟩] := by decide +kernel

/-- Whoever resolves a path from the root finds what the path leads to. -/
theorem resolve_of_resolveFromRoot (h : tree.resolveFromRoot here path = .ok place) :
    tree.resolve here path = .ok place := by
  have legal : path.IsLegal := by
    rw [resolveFromRoot] at h
    rcases hf : tree.findFromRoot here path with fault | (other | _)
    · simp [hf, placeOf] at h
    · exact (seek_eq_ok_iff.1 hf).1
    · simp [hf, placeOf] at h
  rw [resolveFromRoot_eq legal] at h
  split at h
  · exact h
  · cases h

/-- The name behind the steps that lead to a place is looked up there. -/
theorem lookupPath_mem_strideLookups (name : String) (rest : List Step)
    (h : tree.stride ⟨true, false⟩ here first = .arrived (.found place)) :
    tree.lookupPath (place ++ [name]) rest ∈
      tree.strideLookups here (first ++ .enter name :: rest) := by
  induction first generalizing here with
  | nil =>
    obtain rfl : here = place := by simpa [stride_nil] using h
    simp [strideLookups, nextLookup?]
  | cons step first ih =>
    rw [stride_cons] at h
    rw [List.cons_append, strideLookups, List.mem_append]
    cases hstep : tree.footing here step with
    | moved next => exact .inr (ih (by simpa only [hstep] using h))
    | absent name => simp [hstep] at h
    | refused error => simp [hstep] at h
    | link name target => simp [hstep] at h

end Tree

end LlvmProvision.Files
