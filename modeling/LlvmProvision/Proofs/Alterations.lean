import LlvmProvision.Proofs.Presence

/-!
# Walks in altered trees

A walk looks at the entries on its way and at nothing else.  This module says which changes to a
tree a walk does not notice, and what is known of the entry where it ends.

* What a walk finds is there (`exists_node?_of_walk`).
* Walks do not look into files, so trees that differ only in texts have the same walks
  (`walk_of_alike`).
* A file that is written is `Written`: it has its text, and all else is as it was.  Whatever was
  found before is found afterwards (`Written.walk_found`), and the path that it was written along
  leads to it (`find_of_written`).
* A tree from which something was removed is extended by the tree as it was (`extends_remove`,
  `extends_clear`), so what is still found in it was found at the same place before.
-/
namespace LlvmProvision.Files.Tree

variable {tree other larger after : Tree} {follow : Bool} {links : Nat}
  {here place parent target : Location} {name text : String} {step : Step} {path : Path}
  {steps rest : List Step} {entry : Entry}

/-! ## What is found is there -/

theorem exists_node?_of_footing (h : tree.footing here step = .moved place) :
    ∃ entry, tree.node? place = some entry := by
  have hr : ∀ error, tree.footing here step ≠ .refused error := by simp [h]
  have hd := isDirectory_of_footing hr
  cases step with
  | stay =>
    obtain rfl : here = place := by simpa [footing, hd] using h
    exact ⟨_, hd⟩
  | slash =>
    obtain rfl : here = place := by simpa [footing, hd] using h
    exact ⟨_, hd⟩
  | up =>
    obtain rfl : here.dropLast = place := by simpa [footing, hd] using h
    exact ⟨_, node?_dropLast hd⟩
  | enter name =>
    simp only [footing, hd] at h
    split at h
    · cases h
    · split at h
      · cases h
      · cases h
      · rename_i entry _ hn
        obtain rfl : here ++ [name] = place := by simpa using h
        exact ⟨_, hn⟩

/-- Where a link is met, it is in a directory. -/
theorem link_spec {linked : Path} (h : tree.footing here step = .link name linked) :
    step = .enter name ∧ tree.node? here = some .directory ∧
      tree.node? (here ++ [name]) = some (.link linked) := by
  have hr : ∀ error, tree.footing here step ≠ .refused error := by simp [h]
  have hd := isDirectory_of_footing hr
  cases step with
  | stay => simp [footing, hd] at h
  | slash => simp [footing, hd] at h
  | up => simp [footing, hd] at h
  | enter other =>
    simp only [footing, hd] at h
    split at h
    · cases h
    · split at h
      · cases h
      · rename_i hn
        cases h
        exact ⟨rfl, hd, hn⟩
      · cases h

theorem exists_node?_of_stride (hs : ∃ entry, tree.node? here = some entry)
    (h : tree.stride ⟨follow, false⟩ here steps = .arrived (.found place)) :
    ∃ entry, tree.node? place = some entry := by
  induction steps generalizing here with
  | nil =>
    obtain rfl : here = place := by simpa [stride_nil] using h
    exact hs
  | cons step rest ih =>
    rw [stride_cons] at h
    cases hf : tree.footing here step with
    | moved next => exact ih (exists_node?_of_footing hf) (by simpa [hf] using h)
    | absent name => simp [hf] at h
    | refused error => simp [hf] at h
    | link name linked =>
      simp only [hf] at h
      split at h
      · cases h
        exact ⟨_, (link_spec hf).2.2⟩
      · cases h

/-- A stride meets a link in a directory. -/
theorem isDirectory_of_stride_link {linked : Path}
    (h : tree.stride ⟨follow, false⟩ here steps = .link parent linked rest) :
    tree.node? parent = some .directory := by
  induction steps generalizing here with
  | nil => simp [stride_nil] at h
  | cons step left ih =>
    rw [stride_cons] at h
    cases hf : tree.footing here step with
    | moved next => exact ih (by simpa [hf] using h)
    | absent name => simp [hf] at h
    | refused error => simp [hf] at h
    | link name target =>
      simp only [hf] at h
      split at h
      · cases h
      · cases h
        exact (link_spec hf).2.1

/-- **What is found is there.** -/
theorem exists_node?_of_walk (hs : ∃ entry, tree.node? here = some entry)
    (h : tree.walk ⟨follow, false⟩ links here steps = .ok (.found place)) :
    ∃ entry, tree.node? place = some entry := by
  rw [walk_eq_ok_iff] at h
  generalize hp : Arrival.found place = arrival at h
  induction h with
  | arrived hstride =>
    subst hp
    exact exists_node?_of_stride hs hstride
  | through hstride _ ih =>
    refine ih ?_ hp
    rw [startOf]
    split
    · exact ⟨_, node?_root tree⟩
    · exact ⟨_, isDirectory_of_stride_link hstride⟩

/-- A step that leads to an entry is taken, whatever comes after it. -/
theorem walk_moved (hf : tree.footing here step = .moved place) :
    tree.walk ⟨follow, false⟩ links here (step :: rest) = tree.walk ⟨follow, false⟩ links place rest := by
  rw [walk, walk, stride_cons, hf]

/-! ## Other texts -/

/-- The trees differ at most in the texts of their files. -/
def Alike (other tree : Tree) : Prop :=
  ∀ place, other.node? place = tree.node? place ∨
    ∃ old new, tree.node? place = some (.file old) ∧ other.node? place = some (.file new)

theorem footing_of_alike (ha : Alike other tree) :
    other.footing here step = tree.footing here step := by
  rcases ha here with hh | ⟨old, new, ho, hn⟩
  · cases step with
    | stay => simp only [footing, hh]
    | slash => simp only [footing, hh]
    | up => simp only [footing, hh]
    | enter name =>
      rcases ha (here ++ [name]) with hi | ⟨old, new, ho, hn⟩
      · simp only [footing, hh, hi]
      · simp only [footing, hh, ho, hn]
  · simp only [footing, ho, hn]

theorem stride_of_alike (ha : Alike other tree) :
    other.stride ⟨follow, false⟩ here steps = tree.stride ⟨follow, false⟩ here steps := by
  induction steps generalizing here with
  | nil => rw [stride_nil, stride_nil]
  | cons step rest ih =>
    rw [stride_cons, stride_cons, footing_of_alike ha]
    cases tree.footing here step with
    | moved place => exact ih
    | absent name => rfl
    | refused error => rfl
    | link name linked => rfl

/-- **A walk does not look into files.** -/
theorem walk_of_alike (ha : Alike other tree) :
    other.walk ⟨follow, false⟩ links here steps = tree.walk ⟨follow, false⟩ links here steps := by
  induction links generalizing here steps with
  | zero =>
    rw [walk, walk, stride_of_alike ha]
  | succ links ih =>
    rw [walk, walk, stride_of_alike ha]
    cases tree.stride ⟨follow, false⟩ here steps with
    | arrived arrival => rfl
    | refused error => rfl
    | link parent linked rest => exact ih

/-! ## Written files -/

/-- After the change there is a file with the text at `place`, where there was a file or nothing
before, and all else is as it was. -/
structure Written (after tree : Tree) (place : Location) (text : String) : Prop where
  before : tree.node? place = none ∨ ∃ old, tree.node? place = some (.file old)
  node?_eq : ∀ other, after.node? other =
    if other = place then some (.file text) else tree.node? other

theorem written_rewrite {old : String} (h : tree.node? place = some (.file old)) (text : String) :
    Written (tree.rewrite place text) tree place text where
  before := .inr ⟨old, h⟩
  node?_eq other := by
    rw [node?_rewrite]
    by_cases he : other = place
    · subst he
      simp [h]
    · simp only [he, if_false]
      split <;> simp_all

theorem written_add (hd : tree.node? parent = some .directory)
    (hn : tree.node? (parent ++ [name]) = none) (text : String) :
    Written (tree.add parent name (.file text)) tree (parent ++ [name]) text where
  before := .inl hn
  node?_eq := node?_add hd hn

/-- A file that is written twice has the second text. -/
theorem Written.trans {middle : Tree} {first second : String} (h : Written middle tree place first)
    (h' : Written after middle place second) : Written after tree place second where
  before := h.before
  node?_eq other := by
    rw [h'.node?_eq, h.node?_eq]
    split <;> rfl

/-- Where a file was written over, only its text has changed. -/
theorem Written.alike {old : String} (h : Written after tree place text)
    (ho : tree.node? place = some (.file old)) : Alike after tree := by
  intro other
  by_cases he : other = place
  · subst he
    exact .inr ⟨old, text, ho, by rw [h.node?_eq, if_pos rfl]⟩
  · exact .inl (by rw [h.node?_eq, if_neg he])

/-- Where nothing was, the tree has grown. -/
theorem Written.extends (h : Written after tree place text) (hn : tree.node? place = none) :
    Extends after tree := by
  intro other entry ho
  rw [h.node?_eq, if_neg]
  · exact ho
  · rintro rfl
    rw [hn] at ho
    cases ho

/-- **What was found before a file was written is found afterwards.** -/
theorem Written.walk_found (h : Written after tree place text) {found : Location}
    (hw : tree.walk ⟨follow, false⟩ links here steps = .ok (.found found)) :
    after.walk ⟨follow, false⟩ links here steps = .ok (.found found) := by
  rcases h.before with hn | ⟨old, ho⟩
  · exact walk_found_of_extends (h.extends hn) hw
  · rw [walk_of_alike (h.alike ho), hw]

theorem Written.seek_found (h : Written after tree place text) {found : Location}
    (hs : tree.seek here path ⟨follow, false⟩ steps = .ok (.found found)) :
    after.seek here path ⟨follow, false⟩ steps = .ok (.found found) := by
  obtain ⟨hp, hw⟩ := seek_eq_ok_iff.1 hs
  exact seek_eq_ok_iff.2 ⟨hp, h.walk_found hw⟩

/-- A walk that missed an entry finds it once there is a file. -/
theorem Written.walk_missing (h : Written after tree (parent ++ [name]) text)
    (hw : tree.walk ⟨follow, false⟩ links here steps = .ok (.missing parent name [])) :
    after.walk ⟨follow, false⟩ links here steps = .ok (.found (parent ++ [name])) := by
  have hf := walk_missing_spec hw
  obtain ⟨-, hd, hn⟩ := absent_spec hf
  obtain ⟨fewer, he⟩ := walk_missing_of_extends (h.extends hn) hw
  have hd' : after.node? parent = some .directory := h.extends hn _ _ hd
  have hn' : after.node? (parent ++ [name]) = some (.file text) := by rw [h.node?_eq, if_pos rfl]
  rw [he, walk_moved (footing_of_absent hf hd' hn' (by simp)), walk_nil]

/-- The path leads to a file that can be written over, or to a place where one can be made. -/
inductive WritesAt (tree : Tree) (here : Location) (path : Path) : Location → Prop
  | onto {place : Location} {old : String} :
      tree.find here path = .ok (.found place) → tree.node? place = some (.file old) →
      WritesAt tree here path place
  | anew {parent : Location} {name : String} :
      tree.find here path = .ok (.missing parent name []) →
      WritesAt tree here path (parent ++ [name])

theorem find_of_written (ht : tree.WritesAt here path place) (h : Written after tree place text) :
    after.find here path = .ok (.found place) := by
  cases ht with
  | onto hf _ => exact h.seek_found hf
  | anew hf =>
    obtain ⟨hp, hw⟩ := seek_eq_ok_iff.1 hf
    exact seek_eq_ok_iff.2 ⟨hp, h.walk_missing hw⟩

/-- **Writing succeeds where the path leads to a file or a free place.** -/
theorem exists_writeFile (ht : tree.WritesAt here path place) (text : String) :
    ∃ after, tree.writeFile here path text = .ok after ∧ Written after tree place text := by
  cases ht with
  | onto hf ho =>
    refine ⟨_, ?_, written_rewrite ho text⟩
    simp only [writeFile, hf, ho]
  | anew hf =>
    obtain ⟨hp, hw⟩ := seek_eq_ok_iff.1 hf
    obtain ⟨-, hd, hn⟩ := absent_spec (walk_missing_spec hw)
    refine ⟨_, ?_, written_add hd hn text⟩
    simp only [writeFile, hf]

theorem exists_writesAt (h : tree.writeFile here path text = .ok after) :
    ∃ place, tree.WritesAt here path place := by
  rw [writeFile] at h
  split at h
  · rename_i place hf
    split at h
    · rename_i old ho
      exact ⟨place, .onto hf ho⟩
    · cases h
  · rename_i parent name hf
    exact ⟨_, .anew hf⟩
  · cases h
  · cases h
  · cases h

/-! ## Removed entries -/

theorem Extends.trans {larger smaller : Tree} (h : Extends larger tree) (h' : Extends tree smaller) :
    Extends larger smaller := fun place entry hn => h place entry (h' place entry hn)

theorem extends_remove (tree : Tree) (place : Location) : Extends tree (tree.remove place) := by
  intro other entry h
  by_cases root : place = []
  · rwa [remove, if_pos root] at h
  · rw [node?_remove root] at h
    split at h
    · cases h
    · exact h

theorem extends_clear (tree : Tree) (place : Location) : Extends tree (tree.clear place) := by
  intro other entry h
  rw [node?_clear] at h
  split at h
  · cases h
  · exact h

/-- What is found in a smaller tree is found. -/
theorem findEntry_of_extends {larger : Tree} (he : Extends larger tree)
    (h : tree.findEntry here path = .ok (.found place)) :
    larger.findEntry here path = .ok (.found place) := by
  obtain ⟨hp, hw⟩ := seek_eq_ok_iff.1 h
  exact seek_eq_ok_iff.2 ⟨hp, walk_found_of_extends he hw⟩

end LlvmProvision.Files.Tree
