import LlvmProvision.Files.Path

/-!
# The file tree

A tree maps locations to entries.  A location is the list of names that lead to it
from the root, and every entry lies in a directory, so that what is removed takes all
below it along.  Few changes suffice for everything that happens to files: adding an entry
where there is none (`add`), replacing the text of a file (`rewrite`), and removing an
entry with all below it (`remove`) or only what is below it (`clear`).  `node?` is the view
through which each change is described: `node?_add`, `node?_rewrite`, `node?_remove` and
`node?_clear`.
-/
namespace LlvmProvision.Files

/-- A place in the tree: the names on the way from the root. -/
abbrev Location := List String

/-- What can stand at a location. -/
inductive Entry
  | directory
  | file (text : String)
  | link (target : Path)
  deriving DecidableEq, Repr

/-- The path of a location from the root. -/
def Location.path (location : Location) : Path := ⟨"/" ++ Text.joined "/" location⟩

/-- A finite tree of files.  The root is a directory without being listed. -/
structure Tree where
  nodes : List (Location × Entry)
  distinct : (nodes.map Prod.fst).Nodup
  rooted : ∀ node ∈ nodes, node.1 ≠ [] ∧
    (node.1.dropLast = [] ∨ (node.1.dropLast, Entry.directory) ∈ nodes)

namespace Tree

/-- The tree in which there is only the root. -/
def empty : Tree := ⟨[], by simp, by simp⟩

/-- The entry at a location, if there is one. -/
def node? (tree : Tree) (place : Location) : Option Entry :=
  if place = [] then some .directory else tree.nodes.lookup place

@[simp] theorem node?_root (tree : Tree) : tree.node? [] = some .directory := rfl

private theorem lookup_eq_some {nodes : List (Location × Entry)}
    (distinct : (nodes.map Prod.fst).Nodup) {place : Location} {entry : Entry} :
    nodes.lookup place = some entry ↔ (place, entry) ∈ nodes := by
  induction nodes with
  | nil => simp
  | cons node rest ih =>
    obtain ⟨here, e⟩ := node
    rw [List.map_cons, List.nodup_cons] at distinct
    by_cases h : place = here
    · subst h
      have absent : (place, entry) ∉ rest := fun hm =>
        distinct.1 (List.mem_map.2 ⟨_, hm, rfl⟩)
      simp [absent, eq_comm]
    · have : (place == here) = false := by simpa using h
      simp [List.lookup_cons, this, ih distinct.2, h]

/-- Off the root, the entries are the listed nodes. -/
theorem node?_eq_some_iff {tree : Tree} {place : Location} {entry : Entry}
    (below : place ≠ []) : tree.node? place = some entry ↔ (place, entry) ∈ tree.nodes := by
  simp [node?, below, lookup_eq_some tree.distinct]

/-- Every entry lies in a directory. -/
theorem node?_dropLast {tree : Tree} {place : Location} {entry : Entry}
    (h : tree.node? place = some entry) : tree.node? place.dropLast = some .directory := by
  by_cases root : place = []
  · simp [root]
  · rcases (tree.rooted _ ((node?_eq_some_iff root).1 h)).2 with top | inner
    · simp [show place.dropLast = [] from top]
    · by_cases top : place.dropLast = []
      · simp [top]
      · exact (node?_eq_some_iff top).2 inner

private theorem node?_above {tree : Tree} {above : Location} (count : Nat) :
    ∀ {names : List String} {entry : Entry}, names.length = count + 1 →
      tree.node? (above ++ names) = some entry → tree.node? above = some .directory := by
  induction count with
  | zero =>
    intro names entry length h
    obtain ⟨name, rfl⟩ := List.length_eq_one_iff.1 length
    simpa using node?_dropLast h
  | succ count ih =>
    intro names entry length h
    have shorter : names.dropLast.length = count + 1 := by simp [length]
    have nonempty : names ≠ [] := by
      intro none
      simp [none] at length
    have inner := node?_dropLast h
    rw [List.dropLast_append_of_ne_nil nonempty] at inner
    exact ih shorter inner

/-- **Every entry above an entry is a directory.** -/
theorem node?_of_prefix {tree : Tree} {above place : Location} {entry : Entry}
    (h : tree.node? place = some entry) (way : above <+: place) (proper : above ≠ place) :
    tree.node? above = some .directory := by
  obtain ⟨names, rfl⟩ := way
  cases names with
  | nil => simp at proper
  | cons name names => exact node?_above names.length rfl h

/-- Adds an entry called `name` to the directory at `parent`.  Nothing happens if that is
no directory or already has an entry of that name. -/
def add (tree : Tree) (parent : Location) (name : String) (entry : Entry) : Tree :=
  if h : tree.node? parent = some .directory ∧ tree.node? (parent ++ [name]) = none then
    { nodes := tree.nodes ++ [(parent ++ [name], entry)]
      distinct := by
        rw [List.map_append, List.map_singleton, List.nodup_append]
        refine ⟨tree.distinct, by simp, fun place hm other here => ?_⟩
        rw [List.mem_singleton.1 here]
        rintro rfl
        obtain ⟨⟨place, e⟩, he, rfl⟩ := List.mem_map.1 hm
        have taken : tree.node? (parent ++ [name]) = some e :=
          (node?_eq_some_iff (by simp)).2 he
        simp [h.2] at taken
      rooted := by
        intro node hn
        rcases List.mem_append.1 hn with hn | hn
        · exact ⟨(tree.rooted node hn).1,
            (tree.rooted node hn).2.imp_right (List.mem_append_left _)⟩
        · rw [List.mem_singleton.1 hn]
          refine ⟨by simp, ?_⟩
          rw [List.dropLast_concat]
          by_cases root : parent = []
          · exact .inl root
          · exact .inr (List.mem_append_left _ ((node?_eq_some_iff root).1 h.1)) }
  else tree

/-- The text put in place of a file's. -/
private def rewriteNode (place : Location) (text : String) (node : Location × Entry) :
    Location × Entry :=
  match node with
  | (here, .file old) => if here = place then (here, .file text) else (here, .file old)
  | other => other

private theorem fst_rewriteNode (place : Location) (text : String) (node : Location × Entry) :
    (rewriteNode place text node).1 = node.1 := by
  obtain ⟨here, entry⟩ := node
  cases entry <;> simp only [rewriteNode]
  split <;> rfl

private theorem rewriteNode_directory (place here : Location) (text : String) :
    rewriteNode place text (here, .directory) = (here, .directory) := rfl

/-- Replaces the text of the file at `place`.  Nothing happens if there is no file. -/
def rewrite (tree : Tree) (place : Location) (text : String) : Tree where
  nodes := tree.nodes.map (rewriteNode place text)
  distinct := by
    simpa [List.map_map, Function.comp_def, fst_rewriteNode] using tree.distinct
  rooted := by
    intro node hn
    obtain ⟨old, ho, rfl⟩ := List.mem_map.1 hn
    rw [fst_rewriteNode]
    refine ⟨(tree.rooted old ho).1, (tree.rooted old ho).2.imp_right fun h => ?_⟩
    exact List.mem_map.2 ⟨_, h, rewriteNode_directory ..⟩

/-- Removes the entries in `gone`, which has to hold below each place of which it holds. -/
def prune (tree : Tree) (gone : Location → Bool)
    (closed : ∀ place, gone place.dropLast = true → gone place = true) : Tree where
  nodes := tree.nodes.filter fun node => !gone node.1
  distinct := tree.distinct.sublist (List.filter_sublist.map _)
  rooted := by
    intro node hn
    obtain ⟨hn, kept⟩ := List.mem_filter.1 hn
    refine ⟨(tree.rooted node hn).1, (tree.rooted node hn).2.imp_right fun h => ?_⟩
    refine List.mem_filter.2 ⟨h, ?_⟩
    simp only [Bool.not_eq_true', Bool.eq_false_iff, ne_eq] at kept ⊢
    exact fun inner => kept (closed _ inner)

/-- Removes the entry at `place` with all below it.  The root stays. -/
def remove (tree : Tree) (place : Location) : Tree :=
  if place = [] then tree
  else tree.prune place.isPrefixOf fun below inner => by
    rw [List.isPrefixOf_iff_prefix] at inner ⊢
    exact inner.trans (List.dropLast_prefix _)

/-- Removes all below `place`. -/
def clear (tree : Tree) (place : Location) : Tree :=
  tree.prune (fun below => place.isPrefixOf below && below != place) fun below inner => by
    simp only [Bool.and_eq_true, List.isPrefixOf_iff_prefix, bne_iff_ne, ne_eq] at inner ⊢
    refine ⟨inner.1.trans (List.dropLast_prefix _), ?_⟩
    rintro rfl
    have shorter := inner.1.length_le
    rw [List.length_dropLast] at shorter
    exact inner.2 (by rw [List.eq_nil_of_length_eq_zero (l := below) (by omega)]; rfl)

/-- The names and entries directly inside a directory, in no particular order. -/
def children (tree : Tree) (place : Location) : List (String × Entry) :=
  tree.nodes.filterMap fun node =>
    match node.1.getLast? with
    | some name => if node.1.dropLast = place then some (name, node.2) else none
    | none => none

/-! ### What each change does to the view -/

/-- An added entry is seen where it was added, and nothing else changes. -/
theorem node?_add {tree : Tree} {parent : Location} {name : String} {entry : Entry}
    (inside : tree.node? parent = some .directory)
    (free : tree.node? (parent ++ [name]) = none) (place : Location) :
    (tree.add parent name entry).node? place =
      if place = parent ++ [name] then some entry else tree.node? place := by
  by_cases root : place = []
  · simp [root]
  · rw [add, dif_pos ⟨inside, free⟩]
    simp only [node?, root, if_false, List.lookup_append]
    by_cases here : place = parent ++ [name]
    · have none : tree.nodes.lookup (parent ++ [name]) = none := by simpa [node?] using free
      simp [here, none]
    · have other : (place == parent ++ [name]) = false := by simpa using here
      simp [here, List.lookup_cons, other]

/-- A rewritten file has the new text; links, directories and other files stay. -/
theorem node?_rewrite (tree : Tree) (target : Location) (text : String) (place : Location) :
    (tree.rewrite target text).node? place =
      match tree.node? place with
      | some (.file old) => if place = target then some (.file text) else some (.file old)
      | other => other := by
  by_cases root : place = []
  · simp [root]
  · simp only [node?, root, if_false, rewrite]
    induction tree.nodes with
    | nil => rfl
    | cons node rest ih =>
      obtain ⟨here, entry⟩ := node
      by_cases h : place = here
      · subst h
        cases entry <;> simp [rewriteNode]
        split <;> simp
      · have other : (place == here) = false := by simpa using h
        have first := fst_rewriteNode target text (here, entry)
        rw [List.map_cons]
        rcases hr : rewriteNode target text (here, entry) with ⟨here', entry'⟩
        rw [hr] at first
        simp only at first
        subst first
        simp only [List.lookup_cons, other]
        exact ih

/-- Of the entries off the root, what is gone is not seen any more; all else is as before. -/
theorem node?_prune (tree : Tree) (gone : Location → Bool)
    (closed : ∀ place, gone place.dropLast = true → gone place = true) (place : Location) :
    (tree.prune gone closed).node? place =
      if place ≠ [] ∧ gone place = true then none else tree.node? place := by
  by_cases root : place = []
  · simp [root]
  · simp only [node?, root, if_false, prune, ne_eq, not_false_eq_true, true_and]
    induction tree.nodes with
    | nil => simp
    | cons node rest ih =>
      obtain ⟨here, entry⟩ := node
      by_cases h : place = here
      · subst h
        by_cases away : gone place = true
        · simp only [List.filter_cons, away, Bool.not_true, Bool.false_eq_true, if_false, ih,
            if_true]
        · simp [away]
      · have other : (place == here) = false := by simpa using h
        rw [List.filter_cons]
        split
        · simpa [List.lookup_cons, other] using ih
        · simpa [List.lookup_cons, other] using ih

/-- After a removal nothing is seen at the place or below it, and all else is as before. -/
theorem node?_remove {tree : Tree} {target : Location} (below : target ≠ [])
    (place : Location) :
    (tree.remove target).node? place =
      if target <+: place then none else tree.node? place := by
  rw [remove, if_neg below, node?_prune]
  by_cases root : place = []
  · simp [root, below]
  · simp [root]

/-- After a clearing nothing is seen below the place, and all else is as before. -/
theorem node?_clear (tree : Tree) (target place : Location) :
    (tree.clear target).node? place =
      if target <+: place ∧ place ≠ target then none else tree.node? place := by
  rw [clear, node?_prune]
  by_cases root : place = []
  · subst root
    by_cases top : target = []
    · simp [top]
    · simp [top]
  · simp [root]

/-- The children of a place are the entries one name below it. -/
theorem mem_children {tree : Tree} {place : Location} {name : String} {entry : Entry} :
    (name, entry) ∈ tree.children place ↔ tree.node? (place ++ [name]) = some entry := by
  rw [node?_eq_some_iff (by simp), children, List.mem_filterMap]
  constructor
  · rintro ⟨⟨here, e⟩, hm, h⟩
    rcases List.eq_nil_or_concat here with rfl | ⟨parent, last, rfl⟩
    · simp at h
    · simp only [List.concat_eq_append, List.getLast?_append, List.getLast?_singleton,
        Option.some_or, List.dropLast_concat] at h
      split at h
      · rename_i same
        simp only [Option.some.injEq, Prod.mk.injEq] at h
        obtain ⟨rfl, rfl⟩ := h
        simpa [← same] using hm
      · cases h
  · intro hm
    exact ⟨_, hm, by simp⟩

end Tree

end LlvmProvision.Files
