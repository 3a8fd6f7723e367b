import LlvmProvision.Files.Walk

/-!
# Walks taken in parts

`Tree.walk` takes the steps of a path through links.  This module says how a walk depends on
its steps, on its gait and on the tree.  Most of it is about plain walks, which look nothing up
from the root.

* A walk along `first ++ rest` is a walk along `first` that follows links to the end, and
  then a walk along `rest` from where that arrived (`walk_append`, `found_of_append`).  So
  whatever a path leads to, each part of the path in front of its last step leads to a
  directory.
* A walk that does not follow a link at its end arrives where one that does arrives
  (`walk_unfollowed_of_found`).
* In a tree with more entries a walk gets at least as far (`walk_found_of_extends`,
  `walk_missing_of_extends`).

What a single step can come to is said once, in `Footing`.  Each law is first shown of
`stride`, by induction on the steps, and then of `walk`, by induction on the links that may
still be followed.
-/
namespace LlvmProvision.Files

/-- What a single step comes to. -/
inductive Footing
  /-- It leads to an entry that is no link. -/
  | moved (place : Location)
  /-- There is no entry of the name. -/
  | absent (name : String)
  | refused (error : SystemError)
  /-- It leads to a link. -/
  | link (name : String) (target : Path)

namespace Tree

variable {tree larger : Tree} {gait : Gait} {follow : Bool} {links : Nat}
  {here place parent : Location}
  {name : String} {target : Path} {step : Step} {first rest steps left : List Step}
  {error : SystemError}

/-- Takes a single step. -/
def footing (tree : Tree) (here : Location) (step : Step) : Footing :=
  match tree.node? here with
  | some .directory =>
    match step with
    | .stay | .slash => .moved here
    | .up => .moved here.dropLast
    | .enter name =>
      if nameLimit < name.utf8ByteSize then .refused .nameTooLong
      else
        match tree.node? (here ++ [name]) with
        | none => .absent name
        | some (.link target) => .link name target
        | some _ => .moved (here ++ [name])
  | some _ => .refused .notDirectory
  | none => .refused .noEntry

theorem stride_nil : tree.stride gait here [] = .arrived (.found here) := by
  simp [stride]

theorem walk_nil : tree.walk gait links here [] = .ok (.found here) := by
  rw [walk, stride_nil]

/-- **A stride goes step by step**, as long as what it looks up is within reach.  Only for a link
it matters whether steps are left. -/
theorem stride_step : tree.stride gait here (step :: rest) =
    if tree.isOutOfReach gait here (step :: rest) then .refused .nameTooLong
    else
      match tree.footing here step with
      | .moved place => tree.stride gait place rest
      | .absent name => .arrived (.missing here name rest)
      | .refused error => .refused error
      | .link name target =>
        if rest = [] ∧ gait.follow = false then .arrived (.found (here ++ [name]))
        else .link here target rest := by
  rw [stride.eq_def]
  by_cases hout : tree.isOutOfReach gait here (step :: rest) = true
  · simp only [hout, if_true]
  · simp only [hout, if_false, Bool.false_eq_true]
    cases hn : tree.node? here with
    | none => simp [footing, hn]
    | some entry =>
      cases entry with
      | file text => simp [footing, hn]
      | link target => simp [footing, hn]
      | directory =>
        cases step with
        | stay => simp [footing, hn]
        | up => simp [footing, hn]
        | slash => simp [footing, hn]
        | enter name =>
          simp only [footing, hn]
          by_cases hl : nameLimit < name.utf8ByteSize
          · simp only [hl, if_true]
          · simp only [hl, if_false]
            cases tree.node? (here ++ [name]) with
            | none => rfl
            | some entry => cases entry <;> rfl

/-- Nothing is out of reach on a plain walk. -/
theorem isOutOfReach_plain : tree.isOutOfReach ⟨follow, false⟩ here steps = false := rfl

theorem stride_cons : tree.stride ⟨follow, false⟩ here (step :: rest) =
    match tree.footing here step with
    | .moved place => tree.stride ⟨follow, false⟩ place rest
    | .absent name => .arrived (.missing here name rest)
    | .refused error => .refused error
    | .link name target =>
      if rest = [] ∧ follow = false then .arrived (.found (here ++ [name]))
      else .link here target rest := by
  rw [stride_step, isOutOfReach_plain, if_neg Bool.false_ne_true]

/-- A step that leads anywhere is taken in a directory. -/
theorem isDirectory_of_footing (h : ∀ error, tree.footing here step ≠ .refused error) :
    tree.node? here = some .directory := by
  cases hn : tree.node? here with
  | none => exact absurd (by simp [footing, hn]) (h .noEntry)
  | some entry =>
    cases entry with
    | directory => rfl
    | file text => exact absurd (by simp [footing, hn]) (h .notDirectory)
    | link target => exact absurd (by simp [footing, hn]) (h .notDirectory)

/-- Where no entry of a name is met, there is none. -/
theorem absent_spec (h : tree.footing here step = .absent name) :
    step = .enter name ∧ tree.node? here = some .directory ∧
      tree.node? (here ++ [name]) = none := by
  have hr : ∀ error, tree.footing here step ≠ .refused error := fun error he => by
    simp [h] at he
  have hd := isDirectory_of_footing hr
  cases step with
  | stay => simp [footing, hd] at h
  | up => simp [footing, hd] at h
  | slash => simp [footing, hd] at h
  | enter other =>
    simp only [footing, hd] at h
    split at h
    · cases h
    · split at h <;> cases h
      rename_i hn
      exact ⟨rfl, hd, hn⟩

/-- Where there is no entry of a name, a step to it is refused for its length or leads to none. -/
theorem footing_enter_of_none (hd : tree.node? here = some .directory)
    (hn : tree.node? (here ++ [name]) = none) :
    tree.footing here (.enter name) = .refused .nameTooLong ∨
      tree.footing here (.enter name) = .absent name := by
  simp only [footing, hd, hn]
  split
  · exact .inl rfl
  · exact .inr rfl

/-- A walk goes beyond its start only if that is a directory. -/
theorem isDirectory_of_walk_cons
    (h : tree.walk ⟨follow, false⟩ links here (step :: rest) = .ok (.found place)) :
    tree.node? here = some .directory := by
  have hr : ∀ error, tree.footing here step ≠ .refused error := fun error he => by
    rw [walk, stride_cons, he] at h
    cases h
  exact isDirectory_of_footing hr

/-! ## Steps in two parts -/

/-- A stride that goes on with more steps. -/
def onward (tree : Tree) (follow : Bool) (rest : List Step) : Stride → Stride
  | .arrived (.found place) => tree.stride ⟨follow, false⟩ place rest
  | .arrived (.missing parent name left) => .arrived (.missing parent name (left ++ rest))
  | .refused error => .refused error
  | .link parent target left => .link parent target (left ++ rest)

/-- With steps still to come, a link is followed in any case. -/
theorem stride_append (hrest : rest ≠ []) : tree.stride ⟨follow, false⟩ here (first ++ rest) =
    onward tree follow rest (tree.stride ⟨true, false⟩ here first) := by
  induction first generalizing here with
  | nil => simp [stride_nil, onward]
  | cons step first ih =>
    rw [List.cons_append, stride_cons, stride_cons]
    cases tree.footing here step with
    | moved place => exact ih
    | absent name => rfl
    | refused error => rfl
    | link name target => simp [hrest, onward]

/-- How a walk that goes on with more steps ends, told by how the walk so far ended. -/
def Continued (tree : Tree) (follow : Bool) (rest : List Step) (whole : Except SystemError Arrival) :
    Except SystemError Arrival → Prop
  | .ok (.found place) => ∃ links, whole = tree.walk ⟨follow, false⟩ links place rest
  | .ok (.missing parent name left) => whole = .ok (.missing parent name (left ++ rest))
  | .error error => whole = .error error

/-- **A walk along two lists of steps** is a walk along the second from where the first
leads. -/
theorem walk_append (tree : Tree) (follow : Bool) (links : Nat) (here : Location)
    (first : List Step) (hrest : rest ≠ []) :
    Continued tree follow rest (tree.walk ⟨follow, false⟩ links here (first ++ rest))
      (tree.walk ⟨true, false⟩ links here first) := by
  induction links generalizing here first with
  | zero =>
    -- no link may be followed any more, so that a link ends both walks
    rw [walk, walk, stride_append hrest]
    rcases tree.stride ⟨true, false⟩ here first with (place | ⟨parent, name, left⟩) | error | _
    · exact ⟨0, by rw [walk]; rfl⟩
    · rfl
    · rfl
    · rfl
  | succ links ih =>
    rw [walk, walk, stride_append hrest]
    rcases tree.stride ⟨true, false⟩ here first with
      (place | ⟨parent, name, left⟩) | error | ⟨parent, target, left⟩
    · exact ⟨links + 1, by rw [walk]; rfl⟩
    · rfl
    · rfl
    · -- both walks start again at the target of the link, with the same steps still to come
      simp only [onward, ← List.append_assoc]
      exact ih _ _

/-- What stands in front of the last steps of a path leads to a directory. -/
theorem found_of_append
    (h : tree.walk ⟨follow, false⟩ links here (first ++ step :: rest) = .ok (.found place)) :
    ∃ between, tree.walk ⟨true, false⟩ links here first = .ok (.found between) ∧
      tree.node? between = some .directory := by
  have hw := walk_append tree follow links here first (List.cons_ne_nil step rest)
  rcases hf : tree.walk ⟨true, false⟩ links here first with error | (between | ⟨_, _, _⟩)
  · rw [hf, h] at hw
    cases hw
  · rw [hf, h] at hw
    obtain ⟨fewer, hw⟩ := hw
    exact ⟨between, rfl, isDirectory_of_walk_cons hw.symm⟩
  · rw [hf, h] at hw
    cases hw

/-- A slash at the end asks for a directory and nothing more. -/
theorem walk_slash_of_found (h : tree.walk ⟨true, false⟩ links here steps = .ok (.found place))
    (hd : tree.node? place = some .directory) :
    tree.walk ⟨follow, false⟩ links here (steps ++ [.slash]) = .ok (.found place) := by
  have hw := walk_append tree follow links here steps (List.cons_ne_nil Step.slash [])
  rw [h] at hw
  obtain ⟨fewer, hw⟩ := hw
  rw [hw, walk, stride_cons]
  simp [footing, hd, stride_nil]

/-! ## Walks that arrive -/

/-- A walk that arrives: it strides to the arrival, perhaps through links. -/
inductive Arrives (tree : Tree) (gait : Gait) : Nat → Location → List Step → Arrival → Prop
  | arrived {links : Nat} {here : Location} {steps : List Step} {arrival : Arrival} :
      tree.stride gait here steps = .arrived arrival → Arrives tree gait links here steps arrival
  | through {links : Nat} {here : Location} {steps : List Step} {arrival : Arrival}
      {parent : Location} {target : Path} {left : List Step} :
      tree.stride gait here steps = .link parent target left →
      Arrives tree gait links (startOf target parent) (target.steps ++ left) arrival →
      Arrives tree gait (links + 1) here steps arrival

theorem walk_eq_ok_iff {arrival : Arrival} :
    tree.walk gait links here steps = .ok arrival ↔ Arrives tree gait links here steps arrival := by
  constructor
  · intro h
    induction links generalizing here steps with
    | zero =>
      rw [walk] at h
      cases hs : tree.stride gait here steps with
      | arrived other =>
        obtain rfl : other = arrival := by simpa [hs] using h
        exact .arrived hs
      | refused error => simp [hs] at h
      | link parent target left => simp [hs] at h
    | succ links ih =>
      rw [walk] at h
      cases hs : tree.stride gait here steps with
      | arrived other =>
        obtain rfl : other = arrival := by simpa [hs] using h
        exact .arrived hs
      | refused error => simp [hs] at h
      | link parent target left => exact .through hs (ih (by simpa [hs] using h))
  · intro h
    induction h with
    | arrived hs => rw [walk, hs]
    | through hs _ ih => rw [walk, hs]; exact ih

/-! ## Links at the end -/

/-- A stride that follows a link at the end gets as far as one that stops there. -/
theorem stride_unfollowed :
    tree.stride ⟨false, false⟩ here steps = tree.stride ⟨true, false⟩ here steps ∨
      ∃ place parent target, tree.stride ⟨false, false⟩ here steps = .arrived (.found place) ∧
        tree.stride ⟨true, false⟩ here steps = .link parent target [] := by
  induction steps generalizing here with
  | nil => exact .inl (by rw [stride_nil, stride_nil])
  | cons step rest ih =>
    rw [stride_cons, stride_cons]
    cases tree.footing here step with
    | moved place => exact ih
    | absent name => exact .inl rfl
    | refused error => exact .inl rfl
    | link name target =>
      by_cases hrest : rest = []
      · exact .inr ⟨here ++ [name], here, target, by simp [hrest], by simp [hrest]⟩
      · exact .inl (by simp [hrest])

/-- What is found through a link at the end is also found as that link. -/
theorem walk_unfollowed_of_found
    (h : tree.walk ⟨true, false⟩ links here steps = .ok (.found place)) :
    ∃ entry, tree.walk ⟨false, false⟩ links here steps = .ok (.found entry) := by
  simp only [walk_eq_ok_iff] at h ⊢
  generalize hp : Arrival.found place = arrival at h
  -- the strides of the two gaits differ only at a link at the end, and there one of them arrives
  induction h with
  | arrived hs =>
    obtain he | ⟨entry, _, _, he, -⟩ := stride_unfollowed
    · exact ⟨place, .arrived (by rw [he, hs, hp])⟩
    · exact ⟨entry, .arrived he⟩
  | through hs _ ih =>
    obtain he | ⟨entry, _, _, he, -⟩ := stride_unfollowed
    · obtain ⟨entry, hw⟩ := ih hp
      exact ⟨entry, .through (he.trans hs) hw⟩
    · exact ⟨entry, .arrived he⟩

/-- What is missing is missing whether or not a link at the end would be followed. -/
theorem walk_followed_of_missing
    (h : tree.walk ⟨false, false⟩ links here steps = .ok (.missing parent name left)) :
    tree.walk ⟨true, false⟩ links here steps = .ok (.missing parent name left) := by
  simp only [walk_eq_ok_iff] at h ⊢
  generalize hm : Arrival.missing parent name left = arrival at h ⊢
  induction h with
  | arrived hs =>
    obtain he | ⟨_, _, _, he, -⟩ := stride_unfollowed
    · exact .arrived (he.symm.trans hs)
    · rw [he, ← hm] at hs
      cases hs
  | through hs _ ih =>
    obtain he | ⟨_, _, _, he, -⟩ := stride_unfollowed
    · exact .through (he.symm.trans hs) (ih hm)
    · rw [he] at hs
      cases hs

/-! ## Larger trees -/

/-- All entries of the tree are in the larger one. -/
def Extends (larger tree : Tree) : Prop :=
  ∀ place entry, tree.node? place = some entry → larger.node? place = some entry

theorem extends_add (entry : Entry) (hd : tree.node? parent = some .directory)
    (hn : tree.node? (parent ++ [name]) = none) : Extends (tree.add parent name entry) tree := by
  intro place other h
  rw [node?_add hd hn, if_neg]
  · exact h
  · rintro rfl
    rw [hn] at h
    cases h

/-- An entry that is there leads the same way in a larger tree. -/
theorem footing_of_extends (he : Extends larger tree)
    (hr : ∀ error, tree.footing here step ≠ .refused error)
    (ha : ∀ name, tree.footing here step ≠ .absent name) :
    larger.footing here step = tree.footing here step := by
  have hd := isDirectory_of_footing hr
  cases step with
  | stay => simp [footing, hd, he _ _ hd]
  | up => simp [footing, hd, he _ _ hd]
  | slash => simp [footing, hd, he _ _ hd]
  | enter name =>
    simp only [footing, hd, he _ _ hd] at hr ha ⊢
    split
    · rfl
    · cases hn : tree.node? (here ++ [name]) with
      | none => simp_all
      | some entry => rw [he _ _ hn]

/-- A stride that meets an entry or a link meets it in a larger tree; one that misses an entry
comes to the same place and goes on from there. -/
theorem stride_of_extends (follow : Bool) (here : Location) (steps : List Step)
    (he : Extends larger tree) :
    match tree.stride ⟨follow, false⟩ here steps with
    | .arrived (.missing parent name left) =>
      larger.stride ⟨follow, false⟩ here steps = larger.stride ⟨follow, false⟩ parent (.enter name :: left)
    | .refused _ => True
    | found => larger.stride ⟨follow, false⟩ here steps = found := by
  induction steps generalizing here with
  | nil => rw [stride_nil, stride_nil]
  | cons step rest ih =>
    cases hf : tree.footing here step with
    | moved place =>
      have hl : larger.footing here step = .moved place := by
        rw [footing_of_extends he (by simp [hf]) (by simp [hf]), hf]
      rw [stride_cons, stride_cons, hf, hl]
      exact ih place
    | absent name =>
      -- here the larger tree may have an entry, and its stride goes on from this very step
      obtain ⟨rfl, -, -⟩ := absent_spec hf
      rw [stride_cons, hf]
    | refused error =>
      rw [stride_cons, hf]
      trivial
    | link name target =>
      have hl : larger.footing here step = .link name target := by
        rw [footing_of_extends he (by simp [hf]) (by simp [hf]), hf]
      rw [stride_cons, stride_cons, hf, hl]
      by_cases hr : rest = [] ∧ follow = false
      · simp [hr]
      · simp [hr]

theorem walk_found_of_extends (he : Extends larger tree)
    (h : tree.walk ⟨follow, false⟩ links here steps = .ok (.found place)) :
    larger.walk ⟨follow, false⟩ links here steps = .ok (.found place) := by
  rw [walk_eq_ok_iff] at h ⊢
  generalize hp : Arrival.found place = arrival at h
  induction h with
  | @arrived _ here steps _ hs =>
    subst hp
    have hl := stride_of_extends follow here steps he
    rw [hs] at hl
    exact .arrived hl
  | @through _ here steps _ _ _ _ hs _ ih =>
    have hl := stride_of_extends follow here steps he
    rw [hs] at hl
    exact .through hl (ih hp)

theorem walk_missing_of_extends (he : Extends larger tree)
    (h : tree.walk ⟨follow, false⟩ links here steps = .ok (.missing parent name left)) :
    ∃ fewer, larger.walk ⟨follow, false⟩ links here steps =
      larger.walk ⟨follow, false⟩ fewer parent (.enter name :: left) := by
  rw [walk_eq_ok_iff] at h
  generalize hm : Arrival.missing parent name left = arrival at h
  induction h with
  | @arrived links here steps _ hs =>
    subst hm
    have hl := stride_of_extends follow here steps he
    rw [hs] at hl
    exact ⟨links, by rw [walk, walk, hl]⟩
  | @through links here steps _ _ _ _ hs _ ih =>
    have hl := stride_of_extends follow here steps he
    rw [hs] at hl
    obtain ⟨fewer, hw⟩ := ih hm
    exact ⟨fewer, by rw [← hw, walk, hl]⟩

/-- Where a stride misses an entry, there is a directory that has none of the name, and the
name itself is no obstacle. -/
theorem stride_missing_spec
    (h : tree.stride ⟨follow, false⟩ here steps = .arrived (.missing parent name left)) :
    tree.footing parent (.enter name) = .absent name := by
  induction steps generalizing here with
  | nil => simp [stride_nil] at h
  | cons step rest ih =>
    rw [stride_cons] at h
    cases hf : tree.footing here step with
    | moved place => exact ih (by simpa [hf] using h)
    | absent other =>
      obtain ⟨rfl, -, -⟩ := absent_spec hf
      simp only [hf, Stride.arrived.injEq, Arrival.missing.injEq] at h
      obtain ⟨rfl, rfl, rfl⟩ := h
      exact hf
    | refused error => simp [hf] at h
    | link other target =>
      simp only [hf] at h
      split at h <;> cases h

theorem walk_missing_spec
    (h : tree.walk ⟨follow, false⟩ links here steps = .ok (.missing parent name left)) :
    tree.footing parent (.enter name) = .absent name := by
  rw [walk_eq_ok_iff] at h
  generalize hm : Arrival.missing parent name left = arrival at h
  induction h with
  | arrived hs => exact stride_missing_spec (hs.trans (by rw [hm]))
  | through _ _ ih => exact ih hm

/-! ## New directories -/

/-- Where the name was missing, a step leads to the entry that has it in another tree. -/
theorem footing_of_absent {other : Tree} {entry : Entry}
    (h : tree.footing parent (.enter name) = .absent name)
    (hd : other.node? parent = some .directory)
    (hn : other.node? (parent ++ [name]) = some entry) (hl : ∀ target, entry ≠ .link target) :
    other.footing parent (.enter name) = .moved (parent ++ [name]) := by
  obtain ⟨-, hparent, hmissing⟩ := absent_spec h
  have hlimit : ¬ nameLimit < name.utf8ByteSize := by
    intro hlimit
    simp [footing, hparent, hlimit] at h
  cases entry with
  | directory => simp only [footing, hd, hn, if_neg hlimit]
  | file text => simp only [footing, hd, hn, if_neg hlimit]
  | link target => exact absurd rfl (hl target)

/-- A new directory is entered where the name was missing. -/
theorem footing_add_directory (h : tree.footing parent (.enter name) = .absent name) :
    (tree.add parent name .directory).footing parent (.enter name) =
      .moved (parent ++ [name]) := by
  obtain ⟨-, hd, hn⟩ := absent_spec h
  have hd' : (tree.add parent name .directory).node? parent = some .directory :=
    extends_add .directory hd hn _ _ hd
  have hn' : (tree.add parent name .directory).node? (parent ++ [name]) = some .directory := by
    rw [node?_add hd hn, if_pos rfl]
  exact footing_of_absent h hd' hn' (by simp)

/-- A walk that missed an entry goes on inside once there is a directory. -/
theorem walk_add_directory
    (h : tree.walk ⟨follow, false⟩ links here steps = .ok (.missing parent name left)) :
    ∃ fewer, (tree.add parent name .directory).walk ⟨follow, false⟩ links here steps =
      (tree.add parent name .directory).walk ⟨follow, false⟩ fewer (parent ++ [name]) left := by
  obtain ⟨-, hd, hn⟩ := absent_spec (walk_missing_spec h)
  obtain ⟨fewer, hw⟩ := walk_missing_of_extends (extends_add .directory hd hn) h
  refine ⟨fewer, ?_⟩
  rw [hw, walk, walk, stride_cons, footing_add_directory (walk_missing_spec h)]

/-- Nothing is below an entry that is missing. -/
theorem node?_below_of_none (hn : tree.node? place = none) :
    tree.node? (place ++ [name]) = none := by
  cases h : tree.node? (place ++ [name]) with
  | none => rfl
  | some entry =>
    have hd := node?_dropLast h
    rw [List.dropLast_concat, hn] at hd
    cases hd

/-- There is nothing to be found in a new directory. -/
theorem walk_add_directory_enter {inner : String}
    (h : tree.walk ⟨follow, false⟩ links here steps = .ok (.missing parent name (.enter inner :: left))) :
    (tree.add parent name .directory).walk ⟨follow, false⟩ links here steps ≠ .ok (.found place) := by
  obtain ⟨-, hd, hn⟩ := absent_spec (walk_missing_spec h)
  obtain ⟨fewer, hw⟩ := walk_add_directory h
  have hd' : (tree.add parent name .directory).node? (parent ++ [name]) = some .directory := by
    rw [node?_add hd hn, if_pos rfl]
  -- below the new directory there is nothing, since there was nothing below the missing entry
  have hn' : (tree.add parent name .directory).node? (parent ++ [name] ++ [inner]) = none := by
    rw [node?_add hd hn, if_neg (by simp), node?_below_of_none hn]
  rw [hw, walk, stride_cons]
  obtain hf | hf := footing_enter_of_none hd' hn'
  · simp [hf]
  · simp [hf]

end Tree

end LlvmProvision.Files
