import LlvmProvision.Proofs.Alterations

/-!
# Directories made on the way

`createAll` makes several directories one after the other and may stop on the way.  Whatever it
comes to, the tree has only grown (`Grows`): every entry that was there is as it was, and each
new one is a directory that the path, or a path above it, leads to (`grows_createAll`).

What may be added is a parameter of `Grows`, a property of the paths that lead there, so that the
attempts of `createFrom` add up (`Grows.trans`) although each of them goes by another path.
-/
namespace LlvmProvision.Files

/-- The path itself, or one above it: the path along the first of its names. -/
def Path.IsOnWayTo (above path : Path) : Prop :=
  above = path ∨ ∃ names, names <+: path.significantNames ∧
    above = Path.along path.start names.reverse

namespace Tree

variable {tree middle larger made left : Tree} {here place : Location} {path : Path}
  {start : String} {names : List String} {way : Path → Prop}

/-- **The tree has grown by directories** that some paths lead to, and all that was there before
is as it was. -/
structure Grows (larger tree : Tree) (here : Location) (way : Path → Prop) : Prop where
  kept : Extends larger tree
  added : ∀ place entry, larger.node? place = some entry → tree.node? place = none →
    entry = .directory ∧ ∃ above, way above ∧ larger.find here above = .ok (.found place)

theorem Grows.refl (tree : Tree) (here : Location) (way : Path → Prop) :
    Grows tree tree here way where
  kept _ _ hn := hn
  added place entry hn ha := by
    rw [hn] at ha
    cases ha

theorem Grows.trans (first : Grows middle tree here way) (second : Grows larger middle here way) :
    Grows larger tree here way where
  kept := second.kept.trans first.kept
  added place entry hn ha := by
    cases hm : middle.node? place with
    | none => exact second.added place entry hn hm
    | some old =>
      obtain rfl : entry = old := by
        have hl := second.kept place old hm
        rw [hn] at hl
        cases hl
        rfl
      obtain ⟨hd, above, hw, hf⟩ := first.added place entry hm ha
      exact ⟨hd, above, hw, find_of_extends second.kept hf⟩

/-- Making one directory adds it at the place that its path leads to. -/
theorem grows_createDirectory (h : tree.createDirectory here path = .ok made) (hw : way path) :
    Grows made tree here way := by
  obtain ⟨parent, name, hp, rfl, hmissing⟩ := createDirectory_spec h
  obtain ⟨-, hd, hn⟩ := absent_spec (walk_missing_spec hmissing)
  refine ⟨extends_of_createDirectory h, fun place entry he ha => ?_⟩
  have hnew : (tree.add parent name .directory).node? (parent ++ [name]) = some .directory := by
    rw [node?_add hd hn, if_pos rfl]
  rw [node?_add hd hn] at he
  split at he
  · rename_i hplace
    subst hplace
    cases he
    obtain ⟨fewer, hm⟩ := walk_add_directory hmissing
    rw [walk_nil] at hm
    exact ⟨rfl, path, hw, find_of_entrySteps hp hm hnew⟩
  · rw [he] at ha
    cases ha

theorem grows_settle {outcome : Except Fault Tree} (hg : Grows middle tree here way)
    (ho : ∀ made, outcome = .ok made → Grows made middle here way) :
    Grows (createFrom.settle here path middle outcome).2 tree here way := by
  cases outcome with
  | ok made => exact hg.trans (ho made rfl)
  | error fault => exact hg

/-- **Making a directory with all above it adds only directories on the way**, also when it
fails. -/
theorem grows_createFrom (tree : Tree) (here : Location) (start : String) (path : Path)
    (names : List String) (hpath : way path)
    (hnames : ∀ rest, rest <:+ names → way (Path.along start rest)) :
    Grows (tree.createFrom here start path names).2 tree here way := by
  induction names generalizing path with
  | nil =>
    rw [createFrom.eq_def]
    split
    · exact .refl ..
    · split
      · rename_i made hc
        exact grows_createDirectory hc hpath
      · exact .refl ..
      · exact grows_settle (.refl ..) fun made hc => grows_createDirectory hc hpath
  | cons name names ih =>
    have habove : way (Path.along start names) := hnames names (List.suffix_cons name names)
    have hparent := ih (Path.along start names) habove fun rest hr =>
      hnames rest (hr.trans (List.suffix_cons name names))
    rw [createFrom.eq_def]
    split
    · exact .refl ..
    · split
      · rename_i made hc
        exact grows_createDirectory hc hpath
      · -- the parent is made first, and then the directory is tried again
        simp only []
        split
        · rename_i hr
          rw [hr] at hparent
          exact hparent
        · rename_i hr
          rw [hr] at hparent
          exact grows_settle hparent fun made hc => grows_createDirectory hc hpath
      · exact grows_settle (.refl ..) fun made hc => grows_createDirectory hc hpath

theorem grows_createAll (tree : Tree) (here : Location) (path : Path) :
    Grows (tree.createAll here path).2 tree here (·.IsOnWayTo path) := by
  refine grows_createFrom tree here path.start path _ (.inl rfl) fun rest hr => .inr ?_
  refine ⟨rest.reverse, ?_, by rw [List.reverse_reverse]⟩
  rw [← List.reverse_suffix, List.reverse_reverse]
  exact hr

end Tree

end LlvmProvision.Files
