import LlvmProvision.Proofs.AllOrNothing
import Mathlib.Data.String.Basic

/-!
# The order in which entries are listed

A directory has its entries in no particular order, and a listing of it may give them in any
(`Enumeration`).  The last stage of a run makes nothing of that order.  What it acts on are the
archives in the build tree: the files, but not the links, that lie directly in it and are named
as archives are, each once and in the order of their names (`Archives`).  There is only one such
list (`Archives.unique`), so the stage is the same for every enumeration, and what it does is
settled by the entries of the build tree (`unpack_by_entries`).
-/
namespace LlvmProvision

open Files Tools

namespace Text

/-- Texts that are all different are sorted strictly. -/
theorem pairwise_lt_sortOn {texts : List String} (h : texts.Nodup) :
    (sortOn id texts).Pairwise (· < ·) := by
  have hdifferent : (sortOn id texts).Nodup := (sortOn_perm id texts).nodup_iff.2 h
  refine (List.Pairwise.and (sortOn_ordered id texts) hdifferent).imp fun ⟨hle, hne⟩ => ?_
  exact lt_of_le_of_ne hle hne

/-- **A strictly increasing list is told by its members.** -/
theorem eq_of_pairwise_lt {texts others : List String} (ht : texts.Pairwise (· < ·))
    (ho : others.Pairwise (· < ·)) (h : ∀ text, text ∈ texts ↔ text ∈ others) :
    texts = others := by
  have hperm : texts.Perm others :=
    (List.perm_ext_iff_of_nodup (ht.imp ne_of_lt) (ho.imp ne_of_lt)).2 h
  exact hperm.eq_of_pairwise (fun _ _ _ _ hab hba => absurd hba (lt_asymm hab)) ht ho

end Text

/-- Paths in one directory are in the order of their names. -/
theorem Files.Path.join_text_lt {path : Path} {name other : String}
    (hname : isAbsolute ⟨name⟩ = false) (hother : isAbsolute ⟨other⟩ = false)
    (hpath : path.text ≠ "") (h : name < other) : (path / name).text < (path / other).text := by
  rw [join_text hname hpath, join_text hother hpath, String.lt_iff_toList_lt]
  simp only [String.toList_append]
  exact List.append_left_lt (String.lt_iff_toList_lt.1 h)

namespace Package

/-! ## Listings -/

/-- A way to list directories: the entries of each, in an order of its own. -/
structure Enumeration where
  children : Tree → Location → List (String × Entry)
  perm : ∀ files place, (children files place).Perm (files.children place)

namespace Enumeration

/-- The names and entries in the directory at a path. -/
def listDirectory (enumeration : Enumeration) (files : Tree) (here : Location) (path : Path) :
    List (String × Entry) :=
  match files.resolve here path with
  | .ok place => enumeration.children files place
  | .error _ => []

theorem perm_listDirectory (enumeration : Enumeration) (files : Tree) (here : Location)
    (path : Path) :
    (enumeration.listDirectory files here path).Perm (files.listDirectory here path) := by
  unfold listDirectory Tree.listDirectory
  cases files.resolve here path with
  | ok place => exact enumeration.perm files place
  | error fault => exact .refl _

end Enumeration

variable {here : Location} {source path : Path} {files : Tree}

theorem nodup_listDirectory (files : Tree) (here : Location) (path : Path) :
    ((files.listDirectory here path).map Prod.fst).Nodup := by
  unfold Tree.listDirectory
  split
  · exact files.nodup_children _
  · exact List.nodup_nil

/-- The archives in a listing are in the order of their names if no name is listed twice. -/
theorem pairwise_lt_archiveNames {listed : List (String × Entry)}
    (hn : (listed.map Prod.fst).Nodup) : (archiveNames listed).Pairwise (· < ·) :=
  Text.pairwise_lt_sortOn ((List.filter_sublist.map Prod.fst).nodup hn)

/-- **Which archives are found does not depend on the order of the listing.** -/
theorem archiveNames_of_perm {listed others : List (String × Entry)} (h : listed.Perm others)
    (hn : (others.map Prod.fst).Nodup) : archiveNames listed = archiveNames others := by
  have hsame : (archiveNames listed).Perm (archiveNames others) := by
    refine (Text.sortOn_perm id _).trans (.trans ?_ (Text.sortOn_perm id _).symm)
    exact (h.filter isArchive).map Prod.fst
  have hlisted : (listed.map Prod.fst).Nodup := (h.map Prod.fst).nodup_iff.2 hn
  exact Text.eq_of_pairwise_lt (pairwise_lt_archiveNames hlisted) (pairwise_lt_archiveNames hn)
    fun _ => hsame.mem_iff

/-! ## The archives -/

/-- The entry of the build tree with a name. -/
def nodeInBuild? (here : Location) (source : Path) (files : Tree) (name : String) : Option Entry :=
  match files.resolve here (source / BuildTree.directoryName) with
  | .ok place => files.node? (place ++ [name])
  | .error _ => none

/-- **The archives among the entries of a directory**: the files with names of archives, each of
them once, in the order of their names. -/
structure Archives (node? : String → Option Entry) (names : List String) : Prop where
  mem_iff : ∀ name, name ∈ names ↔
    Archive.isArchiveName name = true ∧ ∃ text, node? name = some (.file text)
  increasing : names.Pairwise (· < ·)

theorem Archives.unique {node? : String → Option Entry} {names others : List String}
    (hn : Archives node? names) (ho : Archives node? others) : names = others :=
  Text.eq_of_pairwise_lt hn.increasing ho.increasing fun name => by
    rw [hn.mem_iff, ho.mem_iff]

theorem archives_spec (here : Location) (source : Path) (files : Tree) :
    Archives (nodeInBuild? here source files) (archives here source files) where
  mem_iff name := by
    rw [mem_archives_iff, nodeInBuild?]
    cases files.resolve here (source / BuildTree.directoryName) with
    | error fault => simp
    | ok place => simp
  increasing := pairwise_lt_archiveNames (nodup_listDirectory ..)

/-- The paths of the archives are in the order of the names. -/
theorem Archives.pairwise_path {node? : String → Option Entry} {names : List String}
    (h : Archives node? names) (source : Path) :
    ((names.map (source / BuildTree.directoryName / ·)).map Path.text).Pairwise (· < ·) := by
  have hrelative : ∀ name ∈ names, Path.isAbsolute ⟨name⟩ = false := fun name hm =>
    Archive.isAbsolute_of_isArchiveName ((h.mem_iff name).1 hm).1
  rw [List.map_map, List.pairwise_map]
  refine h.increasing.imp_of_mem fun hname hother hlt => ?_
  exact Path.join_text_lt (hrelative _ hname) (hrelative _ hother)
    (BuildTree.build_ne_empty source) hlt

/-! ## The stage -/

/-- What the stage does when it knows the archives. -/
def unpackNamed (source : Path) : List String → Action (Option Path)
  | [] => pure none
  | [name] => some <$> replaceBuild source name
  | names => Action.fail (.ambiguousArchive (names.map (source / BuildTree.directoryName / ·)))

/-- The stage, with directories listed in some order. -/
def unpackBy (enumeration : Enumeration) (source : Path) : Action (Option Path) := do
  let names ← Action.look fun here files =>
    archiveNames (enumeration.listDirectory files here (source / BuildTree.directoryName))
  unpackNamed source names

/-- The stage looks at the archives and at nothing else before it acts. -/
theorem unpack_eq (source : Path) (host : Host) (session : Session) :
    unpack source host session =
      unpackNamed source (archives host.here source session.files) host session := by
  unfold unpack
  rw [Action.bind_of_ok (show Action.look _ host session = _ from rfl), archives]
  generalize archiveNames _ = names
  rcases names with _ | ⟨name, _ | ⟨next, rest⟩⟩ <;> rfl

theorem unpackBy_eq (enumeration : Enumeration) (source : Path) :
    unpackBy enumeration source = unpack source := by
  funext host session
  have hsame : archiveNames (enumeration.listDirectory session.files host.here
      (source / BuildTree.directoryName)) = archives host.here source session.files :=
    archiveNames_of_perm (enumeration.perm_listDirectory ..) (nodup_listDirectory ..)
  unfold unpackBy
  rw [Action.bind_of_ok (show Action.look _ host session = _ from rfl), hsame, unpack_eq]

/-! ### Several archives -/

variable {host : Host} {made : List Made} {left : Tree} {paths : List Path}

/-- No call is blamed for several archives. -/
theorem verdict_ne_ambiguousArchive {call : Made} :
    call.verdict ≠ .error (.ambiguousArchive paths) := by
  unfold Made.verdict
  split
  · split <;> simp
  · simp
  · split <;> simp

theorem prepare_ne_ambiguousArchive {name : String} :
    (prepare here source name files).1 ≠ .error (.ambiguousArchive paths) := by
  unfold prepare
  split
  · simp
  · split
    · simp
    · split <;> simp

/-- The stage complains of several archives only if there are several, and names them all. -/
theorem Course.of_ambiguousArchive
    (h : Course host source files (.error (.ambiguousArchive paths)) made left) :
    2 ≤ (archives host.here source files).length ∧
      paths = (archives host.here source files).map (source / BuildTree.directoryName / ·) := by
  generalize hr : (.error (.ambiguousArchive paths) : Except Error (Option Path)) = result at h
  cases h with
  | nothing _ => cases hr
  | several hn =>
    cases hr
    exact ⟨hn, rfl⟩
  | unchecked _ hv =>
    cases hr
    exact absurd hv verdict_ne_ambiguousArchive
  | unprepared _ _ hp =>
    cases hr
    exact absurd (congrArg Prod.fst hp) prepare_ne_ambiguousArchive
  | @attempted _ _ _ result _ _ _ _ ha =>
    cases ha with
    | stopped hv =>
      cases hr
      exact absurd hv verdict_ne_ambiguousArchive
    | next _ hdone =>
      cases hdone
      cases hr

/-- **The stage is settled by the entries of the build tree**, in whatever order they are listed.
It acts on the files among them with names of archives, and if it complains of several, it names
at least two, in strictly increasing order. -/
theorem unpack_by_entries (source : Path) :
    (∀ enumeration : Enumeration, unpackBy enumeration source = unpack source) ∧
      (∀ here files, ∃ names, Archives (nodeInBuild? here source files) names ∧
        ∀ host session, nodeInBuild? host.here source session.files =
            nodeInBuild? here source files →
          unpack source host session = unpackNamed source names host session) ∧
      ∀ host session paths, (unpack source host session).1 = .error (.ambiguousArchive paths) →
        2 ≤ paths.length ∧ (paths.map Path.text).Pairwise (· < ·) := by
  refine ⟨fun enumeration => unpackBy_eq enumeration source, fun here files => ?_,
    fun host session paths hpaths => ?_⟩
  · refine ⟨archives here source files, archives_spec here source files, fun host session hs => ?_⟩
    -- there are no other archives among the same entries
    have hsame := archives_spec host.here source session.files
    rw [hs] at hsame
    rw [unpack_eq, hsame.unique (archives_spec here source files)]
  · obtain ⟨result, made, left, hcourse⟩ := exists_course host source session.files
    obtain ⟨after, hafter, -, -⟩ := hcourse.ends session rfl
    rw [hafter] at hpaths
    obtain rfl : result = .error (.ambiguousArchive paths) := hpaths
    obtain ⟨hseveral, rfl⟩ := hcourse.of_ambiguousArchive
    exact ⟨by rwa [List.length_map], (archives_spec host.here source session.files).pairwise_path _⟩

end Package

end LlvmProvision
