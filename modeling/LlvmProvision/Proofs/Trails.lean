import LlvmProvision.Proofs.Alterations

/-!
# Trails of walks

A walk looks at the entries that it comes by, and at no others.  `Tree.trail` lists their places,
so that trees which agree along the trail have the same walk (`walk_of_trail`).  A path leads
through a place (`LeadsThrough`) if its trail comes to that place or below it.

Whatever is met on the way to a directory leads on (`LeadsOn`): it is a directory, or a link to one
(`leadsOn_of_mem_trail`).  So the way to a directory never passes a file or a link to a file
(`not_leadsOn_of_file`), and it does not change with them.

The module also says how far a walk depends on the number of links that it may still follow: it
does not, unless they are used up (`walk_of_le`).
-/
namespace LlvmProvision.Files

/-- The place that a step is aimed at. -/
def Step.aim (here : Location) : Step → Location
  | .stay | .slash => here
  | .up => here.dropLast
  | .enter name => here ++ [name]

namespace Tree

variable {tree other : Tree} {gait : Gait} {follow : Bool}
  {links fewer more : Nat}
  {here place origin entry parent : Location} {step : Step} {steps first rest : List Step}
  {target : Path}

/-! ## The number of links -/

/-- **With more links to follow** a walk ends in the same way, unless it was for want of links. -/
theorem walk_of_le (tree : Tree) (gait : Gait) (here : Location) (steps : List Step)
    (h : fewer ≤ more) :
    tree.walk gait fewer here steps = .error .tooManyLinks ∨
      tree.walk gait more here steps = tree.walk gait fewer here steps := by
  induction fewer generalizing more here steps with
  | zero =>
    rw [walk, walk]
    cases tree.stride gait here steps with
    | arrived arrival => exact .inr rfl
    | refused error => exact .inr rfl
    | link parent target rest => exact .inl rfl
  | succ fewer ih =>
    obtain ⟨more, rfl⟩ : ∃ most, more = most + 1 := ⟨more - 1, by omega⟩
    rw [walk, walk]
    cases tree.stride gait here steps with
    | arrived arrival => exact .inr rfl
    | refused error => exact .inr rfl
    | link parent target rest => exact ih _ _ (by omega)

/-- Two walks that arrive arrive at the same place, however many links they may follow. -/
theorem arrival_unique {arrival arrival' : Arrival}
    (h : tree.walk gait fewer here steps = .ok arrival)
    (h' : tree.walk gait more here steps = .ok arrival') : arrival = arrival' := by
  rcases Nat.le_total fewer more with hle | hle
  · rcases walk_of_le tree gait here steps hle with he | he
    · rw [h] at he
      cases he
    · simpa [h, h', eq_comm] using he
  · rcases walk_of_le tree gait here steps hle with he | he
    · rw [h'] at he
      cases he
    · simpa [h, h', eq_comm] using he

/-- A walk that goes on has no more links to follow than before. -/
theorem exists_le_walk_append (hrest : rest ≠ [])
    (h : tree.walk ⟨true, false⟩ links here first = .ok (.found place)) :
    ∃ fewer, fewer ≤ links ∧
      tree.walk ⟨follow, false⟩ links here (first ++ rest) = tree.walk ⟨follow, false⟩ fewer place rest := by
  induction links generalizing here first with
  | zero =>
    rw [walk] at h
    rw [walk, stride_append hrest]
    cases hs : tree.stride ⟨true, false⟩ here first with
    | arrived arrival =>
      obtain rfl : arrival = .found place := by simpa [hs] using h
      exact ⟨0, Nat.le_refl 0, by rw [walk]; rfl⟩
    | refused error => simp [hs] at h
    | link parent target left => simp [hs] at h
  | succ links ih =>
    rw [walk] at h
    rw [walk, stride_append hrest]
    cases hs : tree.stride ⟨true, false⟩ here first with
    | arrived arrival =>
      obtain rfl : arrival = .found place := by simpa [hs] using h
      exact ⟨links + 1, Nat.le_refl _, by rw [walk]; rfl⟩
    | refused error => simp [hs] at h
    | link parent target left =>
      simp only [hs] at h
      obtain ⟨fewer, hle, hw⟩ := ih h
      refine ⟨fewer, by omega, ?_⟩
      simpa only [onward, ← List.append_assoc] using hw

/-! ## Links at the end -/

/-- A link that a stride meets is an entry of the directory that it is met in, and a stride that
follows no link at the end stops there if it was the end. -/
theorem stride_link_spec (h : tree.stride ⟨true, false⟩ here steps = .link parent target rest) :
    ∃ name, tree.node? (parent ++ [name]) = some (.link target) ∧
      tree.stride ⟨false, false⟩ here steps =
        if rest = [] then .arrived (.found (parent ++ [name])) else .link parent target rest := by
  induction steps generalizing here with
  | nil => simp [stride_nil] at h
  | cons step left ih =>
    rw [stride_cons] at h
    rw [stride_cons]
    cases hs : tree.footing here step with
    | moved next => exact ih (by simpa [hs] using h)
    | absent name => simp [hs] at h
    | refused error => simp [hs] at h
    | link name linked =>
      obtain ⟨rfl, rfl, rfl⟩ : here = parent ∧ linked = target ∧ left = rest := by
        simpa [hs] using h
      exact ⟨name, (link_spec hs).2.2, by simp⟩

/-- **What is found through a link at the end** is found at the end of the link's target. -/
theorem walk_unfollowed_spec
    (h : tree.walk ⟨true, false⟩ links here steps = .ok (.found origin)) :
    ∃ entry, tree.walk ⟨false, false⟩ links here steps = .ok (.found entry) ∧
      (entry = origin ∨ ∃ target fewer, tree.node? entry = some (.link target) ∧
        tree.walk ⟨true, false⟩ fewer (startOf target entry.dropLast) target.steps =
          .ok (.found origin)) := by
  rw [walk_eq_ok_iff] at h
  generalize hp : Arrival.found origin = arrival at h
  induction h with
  | @arrived links here steps _ hs =>
    subst hp
    refine ⟨origin, walk_eq_ok_iff.2 (.arrived ?_), .inl rfl⟩
    obtain he | ⟨_, _, _, -, he⟩ := stride_unfollowed
    · exact he.trans hs
    · rw [hs] at he
      cases he
  | @through links here steps _ parent target left hs ha ih =>
    subst hp
    obtain ⟨name, hn, hstride⟩ := stride_link_spec hs
    by_cases hleft : left = []
    · -- the link is the end, and a walk that does not follow it stops there
      subst hleft
      rw [List.append_nil] at ha
      rw [if_pos rfl] at hstride
      refine ⟨_, walk_eq_ok_iff.2 (.arrived hstride), .inr ⟨target, links, hn, ?_⟩⟩
      rw [List.dropLast_concat]
      exact walk_eq_ok_iff.2 ha
    · rw [if_neg hleft] at hstride
      obtain ⟨entry, hw, hentry⟩ := ih rfl
      exact ⟨entry, walk_eq_ok_iff.2 (.through hstride (walk_eq_ok_iff.1 hw)), hentry⟩

/-! ## Trails -/

/-- The places that a stride looks at. -/
def strideTrail (tree : Tree) : Location → List Step → List Location
  | here, [] => [here]
  | here, step :: rest =>
    here :: step.aim here ::
      match tree.footing here step with
      | .moved place => strideTrail tree place rest
      | _ => []

/-- **The places that a walk looks at.** -/
def trail (tree : Tree) (gait : Gait) (links : Nat) (here : Location) (steps : List Step) :
    List Location :=
  tree.strideTrail here steps ++
    match tree.stride gait here steps with
    | .link parent target rest =>
      match links with
      | 0 => []
      | links + 1 => trail tree gait links (startOf target parent) (target.steps ++ rest)
    | _ => []

/-- **The path leads through a place**: whoever follows it comes to the place or below it. -/
def LeadsThrough (tree : Tree) (here : Location) (path : Path) (through : Location) : Prop :=
  ∃ place ∈ tree.trail ⟨true, false⟩ linkLimit (startOf path here) path.entrySteps,
    through <+: place

instance (tree : Tree) (here : Location) (path : Path) (through : Location) :
    Decidable (tree.LeadsThrough here path through) :=
  inferInstanceAs (Decidable (∃ place ∈ _, through <+: place))

theorem footing_of_same (hhere : other.node? here = tree.node? here)
    (haim : other.node? (step.aim here) = tree.node? (step.aim here)) :
    other.footing here step = tree.footing here step := by
  cases step with
  | stay => simp only [footing, hhere]
  | slash => simp only [footing, hhere]
  | up => simp only [footing, hhere]
  | enter name =>
    simp only [Step.aim] at haim
    simp only [footing, hhere, haim]

theorem stride_of_trail
    (h : ∀ place ∈ tree.strideTrail here steps, other.node? place = tree.node? place) :
    other.stride ⟨follow, false⟩ here steps = tree.stride ⟨follow, false⟩ here steps := by
  induction steps generalizing here with
  | nil => rw [stride_nil, stride_nil]
  | cons step rest ih =>
    simp only [strideTrail, List.forall_mem_cons] at h
    obtain ⟨hhere, haim, hrest⟩ := h
    rw [stride_cons, stride_cons, footing_of_same hhere haim]
    cases hf : tree.footing here step with
    | moved place => exact ih (by simpa [hf] using hrest)
    | absent name => rfl
    | refused error => rfl
    | link name target => rfl

/-- **Trees that agree along the trail** of a walk have the same walk. -/
theorem walk_of_trail
    (h : ∀ place ∈ tree.trail ⟨follow, false⟩ links here steps, other.node? place = tree.node? place) :
    other.walk ⟨follow, false⟩ links here steps = tree.walk ⟨follow, false⟩ links here steps := by
  induction links generalizing here steps with
  | zero =>
    rw [trail, List.forall_mem_append] at h
    rw [walk, walk, stride_of_trail h.1]
  | succ links ih =>
    rw [trail, List.forall_mem_append] at h
    rw [walk, walk, stride_of_trail h.1]
    cases hs : tree.stride ⟨follow, false⟩ here steps with
    | arrived arrival => rfl
    | refused error => rfl
    | link parent target rest => exact ih (by simpa only [hs] using h.2)

/-! ## The way to a directory -/

/-- **What can be on the way to a directory**: a directory, or a link to one. -/
def LeadsOn (tree : Tree) (place : Location) : Prop :=
  tree.node? place = some .directory ∨
    ∃ target links arrival, tree.node? place = some (.link target) ∧
      tree.walk ⟨true, false⟩ links (startOf target place.dropLast) target.steps =
        .ok (.found arrival) ∧ tree.node? arrival = some .directory

theorem LeadsOn.exists_node? (h : tree.LeadsOn place) : ∃ entry, tree.node? place = some entry := by
  rcases h with hd | ⟨target, -, -, hn, -⟩
  · exact ⟨_, hd⟩
  · exact ⟨_, hn⟩

/-- A step that is taken is taken in a directory, and leads where it is aimed at. -/
theorem aim_of_footing {next : Location} (h : tree.footing here step = .moved next) :
    tree.node? here = some .directory ∧ step.aim here = next := by
  have hr : ∀ error, tree.footing here step ≠ .refused error := by simp [h]
  have hd := isDirectory_of_footing hr
  refine ⟨hd, ?_⟩
  cases step with
  | stay => simpa [footing, hd, Step.aim] using h
  | slash => simpa [footing, hd, Step.aim] using h
  | up => simpa [footing, hd, Step.aim] using h
  | enter name =>
    simp only [footing, hd] at h
    split at h
    · cases h
    · split at h <;> cases h
      rfl

theorem mem_strideTrail_self : here ∈ tree.strideTrail here steps := by
  cases steps <;> simp [strideTrail]

/-- Where a stride arrives at a directory, everything on its way is one. -/
theorem isDirectory_of_mem_strideTrail
    (h : tree.stride ⟨true, false⟩ here steps = .arrived (.found place))
    (hd : tree.node? place = some .directory) :
    ∀ between ∈ tree.strideTrail here steps,
      tree.node? between = some .directory := by
  induction steps generalizing here with
  | nil =>
    obtain rfl : here = place := by simpa [stride_nil] using h
    simpa [strideTrail] using hd
  | cons step rest ih =>
    rw [stride_cons] at h
    cases hf : tree.footing here step with
    | moved next =>
      obtain ⟨hhere, haim⟩ := aim_of_footing hf
      have hrest := ih (by simpa [hf] using h)
      simp only [strideTrail, hf, haim, List.forall_mem_cons]
      exact ⟨hhere, hrest _ mem_strideTrail_self, hrest⟩
    | absent name => simp [hf] at h
    | refused error => simp [hf] at h
    | link name target => simp [hf] at h

/-- Where a stride meets a link, everything before it is a directory. -/
theorem entry_of_mem_strideTrail
    (h : tree.stride ⟨true, false⟩ here steps = .link parent target rest) :
    ∀ between ∈ tree.strideTrail here steps,
      tree.node? between = some .directory ∨
        between.dropLast = parent ∧ tree.node? between = some (.link target) := by
  induction steps generalizing here with
  | nil => simp [stride_nil] at h
  | cons step left ih =>
    rw [stride_cons] at h
    cases hf : tree.footing here step with
    | moved next =>
      obtain ⟨hhere, haim⟩ := aim_of_footing hf
      have hrest := ih (by simpa [hf] using h)
      simp only [strideTrail, hf, haim, List.forall_mem_cons]
      exact ⟨.inl hhere, hrest _ mem_strideTrail_self, hrest⟩
    | absent name => simp [hf] at h
    | refused error => simp [hf] at h
    | link name linked =>
      obtain ⟨rfl, hhere, hn⟩ := link_spec hf
      obtain ⟨rfl, rfl, rfl⟩ : here = parent ∧ linked = target ∧ left = rest := by
        simpa [hf] using h
      simp only [strideTrail, hf, Step.aim, List.forall_mem_cons, List.not_mem_nil, false_imp_iff,
        implies_true, and_true]
      exact ⟨.inl hhere, .inr ⟨List.dropLast_concat, hn⟩⟩

/-- **Everything on the way to a directory leads on.** -/
theorem leadsOn_of_mem_trail
    (h : tree.walk ⟨true, false⟩ links here steps = .ok (.found place))
    (hd : tree.node? place = some .directory) :
    ∀ between ∈ tree.trail ⟨true, false⟩ links here steps, tree.LeadsOn between := by
  induction links generalizing here steps with
  | zero =>
    rw [walk] at h
    rw [trail, List.forall_mem_append]
    cases hs : tree.stride ⟨true, false⟩ here steps with
    | arrived arrival =>
      obtain rfl : arrival = .found place := by simpa [hs] using h
      exact ⟨fun between hm => .inl (isDirectory_of_mem_strideTrail hs hd between hm), by simp⟩
    | refused error => simp [hs] at h
    | link parent target rest => simp [hs] at h
  | succ links ih =>
    rw [walk] at h
    rw [trail, List.forall_mem_append]
    cases hs : tree.stride ⟨true, false⟩ here steps with
    | arrived arrival =>
      obtain rfl : arrival = .found place := by simpa [hs] using h
      exact ⟨fun between hm => .inl (isDirectory_of_mem_strideTrail hs hd between hm), by simp⟩
    | refused error => simp [hs] at h
    | link parent target rest =>
      simp only [hs] at h
      -- the link has to lead to a directory, whether or not steps are left behind it
      obtain ⟨arrival, hw, hdir⟩ : ∃ arrival, tree.walk ⟨true, false⟩ links (startOf target parent)
          target.steps = .ok (.found arrival) ∧ tree.node? arrival = some .directory := by
        cases rest with
        | nil => exact ⟨place, by simpa using h, hd⟩
        | cons step rest => exact found_of_append h
      refine ⟨fun between hm => ?_, ih h⟩
      rcases entry_of_mem_strideTrail hs between hm with hn | ⟨rfl, hn⟩
      · exact .inl hn
      · exact .inr ⟨target, links, arrival, hn, hw, hdir⟩

/-- **A file, or a link to a file, does not lead on.** -/
theorem not_leadsOn_of_file {text : String} (hn : tree.node? origin = some (.file text))
    (h : entry = origin ∨ ∃ target links, tree.node? entry = some (.link target) ∧
      tree.walk ⟨true, false⟩ links (startOf target entry.dropLast) target.steps =
        .ok (.found origin)) : ¬ tree.LeadsOn entry := by
  rcases h with rfl | ⟨target, links, hlink, hw⟩
  · rintro (hd | ⟨target, -, -, hlink, -⟩)
    · simp [hn] at hd
    · simp [hn] at hlink
  · rintro (hd | ⟨target', links', arrival, hlink', hw', hd⟩)
    · simp [hlink] at hd
    · obtain rfl : target = target' := by simpa [hlink] using hlink'
      obtain rfl : origin = arrival := by simpa using arrival_unique hw hw'
      simp [hn] at hd

/-- What leads on is not below anything that does not. -/
theorem LeadsOn.not_below (h : tree.LeadsOn place) (hn : ¬ tree.LeadsOn entry) :
    ¬ entry <+: place := by
  intro hp
  by_cases he : entry = place
  · exact hn (he ▸ h)
  · obtain ⟨other, ho⟩ := h.exists_node?
    have hd := node?_of_prefix ho hp he
    exact hn (.inl hd)

end Tree

end LlvmProvision.Files
