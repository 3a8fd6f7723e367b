import LlvmProvision.Proofs.Interludes
import LlvmProvision.Proofs.JoinedPaths
import LlvmProvision.Proofs.Lookups
import LlvmProvision.Proofs.Resumption
import LlvmProvision.Proofs.Spelling

/-!
# Making sure of the dependency root

Before any tool is called, the dependency root is made and its location is found out.  The path may
be any text and the files may be as they like: there may be links on the way, also to nowhere, and
files where directories should be.  `Rooted` says that this is safe all the same.  Nothing that is
there is changed, what is added are directories on the way, and a failure stops the run before its
first call.

A directory that has been made can be resolved as long as every path that is looked up for it is
within reach (`Lookups`).  It takes long names to get out of reach, but it is possible:
`not_resolved_nested` is a root that is made and then cannot be resolved.
-/
namespace LlvmProvision

open Files Tools

/-! ## New directories -/

theorem Files.Path.eq_empty {path : Path} (h : path.text = "") : path = ⟨""⟩ := by
  cases path
  exact congrArg Path.mk h

namespace Files.Tree

variable {tree larger : Tree} {here place inner : Location} {path : Path} {way : Path → Prop}
  {entry : Entry}

/-- **A new directory holds new directories only.** -/
theorem Grows.new_inside (h : Grows larger tree here way) (ha : tree.node? place = none)
    (hinner : place <+: inner) (hn : larger.node? inner = some entry) :
    entry = .directory ∧ tree.node? inner = none := by
  have hnew : tree.node? inner = none := by
    cases hold : tree.node? inner with
    | none => rfl
    | some old =>
      -- what was there lay in directories that were there
      by_cases he : place = inner
      · rw [he, hold] at ha
        cases ha
      · have hd := node?_of_prefix hold hinner he
        rw [ha] at hd
        cases hd
  exact ⟨(h.added inner entry hn hnew).1, hnew⟩

/-- The empty path is fine to make, and nothing is made. -/
theorem createAll_empty (tree : Tree) (here : Location) :
    tree.createAll here ⟨""⟩ = (.ok (), tree) := by
  rw [createAll, createFrom.eq_def, if_pos rfl]

/-- The empty path leads nowhere. -/
theorem resolveFromRoot_empty (tree : Tree) (here : Location) :
    tree.resolveFromRoot here ⟨""⟩ = .error (.system .noEntry) := rfl

/-- **A directory that has been made** is resolved exactly if everything that is looked up for it is
within reach. -/
theorem exists_resolve_of_createAll (filled : path.text ≠ "")
    (h : tree.createAll here path = (.ok (), larger)) : ∃ place,
      larger.resolve here path = .ok place ∧ larger.node? place = some .directory ∧
        larger.resolveFromRoot here path =
          if ∀ between ∈ larger.lookupsOf here path, between.IsWithinReach then .ok place
          else .error (.system .nameTooLong) := by
  obtain ⟨place, hf, hn⟩ := isDirectory_iff.1 (isDirectory_of_createAll filled h)
  have hr : larger.resolve here path = .ok place := resolve_eq_ok_iff.2 hf
  refine ⟨place, hr, hn, ?_⟩
  rw [resolveFromRoot_eq (seek_eq_ok_iff.1 hf).1, hr]

/-- What has been made and cannot be resolved is the empty path, or something that is looked up for
it is out of reach. -/
theorem of_not_resolved {fault : Fault} (h : tree.createAll here path = (.ok (), larger))
    (hr : larger.resolveFromRoot here path = .error fault) :
    path.text = "" ∧ fault = .system .noEntry ∨
      path.text ≠ "" ∧ fault = .system .nameTooLong ∧
        ∃ between ∈ larger.lookupsOf here path, ¬ between.IsWithinReach := by
  by_cases he : path.text = ""
  · obtain rfl : path = ⟨""⟩ := Path.eq_empty he
    rw [resolveFromRoot_empty] at hr
    cases hr
    exact .inl ⟨rfl, rfl⟩
  · obtain ⟨place, -, -, hreach⟩ := exists_resolve_of_createAll he h
    rw [hr] at hreach
    split at hreach
    · cases hreach
    · rename_i hbeyond
      cases hreach
      exact .inr ⟨he, rfl, by simpa using hbeyond⟩

end Files.Tree

/-! ## The root of a run -/

namespace SourceTree

variable {host : Host} {here place : Location} {path : Path} {url branch : String}
  {files rooted left : Tree} {result : Except Error Path} {made : List Made} {fault : Fault}
  {error : Error}

theorem prepare_of_not_created (h : files.createAll here path = (.error fault, rooted)) :
    prepare here path files = (.error (.notCreated path fault), rooted) := by
  rw [prepare, h]

theorem prepare_of_not_resolved (h : files.createAll here path = (.ok (), rooted))
    (hr : rooted.resolveFromRoot here path = .error fault) :
    prepare here path files = (.error (.notResolved path fault), rooted) := by
  rw [prepare, h]
  simp only [hr]

theorem prepare_snd (here : Location) (path : Path) (files : Tree) :
    (prepare here path files).2 = (files.createAll here path).2 := by
  rw [prepare]
  split
  · rename_i hc
    rw [hc]
  · rename_i hc
    rw [hc]
    split
    · rfl
    · rfl

/-- Without a root the stage is over. -/
theorem Course.of_unprepared (h : Course host path url branch files result made left)
    (hp : prepare host.here path files = (.error error, rooted)) :
    result = .error error ∧ made = [] := by
  cases h with
  | unprepared hp' =>
    rw [hp] at hp'
    cases hp'
    exact ⟨rfl, rfl⟩
  | kept hp' _ => simp [hp] at hp'
  | attempted hp' _ _ => simp [hp] at hp'

/-- No call tells that a path cannot be resolved. -/
theorem verdict_ne_notResolved (call : Made) : call.verdict ≠ .error (.notResolved path fault) := by
  intro h
  unfold Made.verdict at h
  split at h
  · split at h <;> cases h
  · cases h
  · split at h <;> cases h

theorem ne_notResolved_of_attempted {calls : List Call} {outcome : Except Error Unit}
    (h : Attempted host calls files outcome made left) :
    outcome ≠ .error (.notResolved path fault) := by
  induction h with
  | done => simp
  | stopped hv =>
    intro he
    cases he
    exact verdict_ne_notResolved _ hv
  | next _ _ ih => exact ih

/-- It is the path of the root that cannot be resolved, and it has been made. -/
theorem Course.of_notResolved {other : Path}
    (h : Course host path url branch files (.error (.notResolved other fault)) made left) :
    other = path ∧ ∃ rooted, files.createAll host.here path = (.ok (), rooted) ∧
      rooted.resolveFromRoot host.here path = .error fault := by
  generalize hr : Except.error (Error.notResolved other fault) = result at h
  cases h with
  | unprepared hp =>
    cases hr
    rw [prepare] at hp
    split at hp
    · cases hp
    · rename_i hc
      split at hp
      · rename_i hresolve
        cases hp
        exact ⟨rfl, _, hc, hresolve⟩
      · cases hp
  | kept _ _ => cases hr
  | @attempted _ _ _ outcome _ _ _ ha =>
    cases outcome with
    | ok _ => cases hr
    | error error =>
      cases hr
      exact absurd rfl (ne_notResolved_of_attempted ha)

/-- Without a call the sources were there. -/
theorem Course.isPresent_of_nil {source : Path}
    (h : Course host path url branch files (.ok source) [] left)
    (hp : prepare host.here path files = (.ok place, rooted)) :
    rooted.isPresent host.here (place.path / directoryName) = true := by
  generalize hr : Except.ok source = result at h
  generalize hm : ([] : List Made) = made at h
  cases h with
  | unprepared _ => cases hr
  | kept hp' hs =>
    rw [hp] at hp'
    cases hp'
    exact hs
  | attempted _ _ ha =>
    subst hm
    cases ha

/-- The first call meets the files as they were prepared. -/
theorem Course.files_of_head (h : Course host path url branch files result made left) :
    ∀ call ∈ made.head?, call.files = (prepare host.here path files).2 := by
  rcases h.unbroken with ⟨rfl, -⟩ | ⟨-, hu⟩
  · simp
  · cases hu with
    | nil => simp
    | cons hc _ => simpa using hc

/-- Where the sources are in the end: below the place that the path has resolved to, on the way to
which there is no link. -/
theorem Course.source_spec {source : Path}
    (h : Course host path url branch files (.ok source) made left)
    (hp : prepare host.here path files = (.ok place, rooted)) :
    source = place.path / directoryName ∧
      (∀ above, above <+: place → rooted.node? above = some .directory) ∧
      (made = [] ∧ rooted.isPresent host.here source = true ∨
        ∃ call, made.getLast? = some call ∧
          call.call = .run (cloneCommand place.path url branch) ∧ call.verdict = .ok ()) := by
  obtain ⟨-, hd⟩ := prepare_spec hp
  obtain rfl := h.source_eq hp
  refine ⟨rfl, fun above ha => ?_, ?_⟩
  · by_cases he : above = place
    · rw [he, hd]
    · exact Tree.node?_of_prefix hd ha he
  · by_cases hm : made = []
    · subst hm
      exact .inl ⟨rfl, h.isPresent_of_nil hp⟩
    · exact .inr (h.exists_last hp hm)

/-- **The dependency root has been made sure of**, with `created` and `rooted` as what came of
making it. -/
structure Rooted (host : Host) (path : Path) (url branch : String) (files : Tree)
    (created : Except Fault Unit) (rooted : Tree) (result : Except Error Path)
    (made : List Made) (left : Tree) : Prop where
  /-- Everything is as it was, and what has been added are directories on the way. -/
  grows : rooted.Grows files host.here (·.IsOnWayTo path)
  /-- What has been added holds only what has been added. -/
  inside : ∀ place inner entry, files.node? place = none → place <+: inner →
    rooted.node? inner = some entry → entry = .directory ∧ files.node? inner = none
  /-- The first call meets these files. -/
  begins : ∀ call ∈ made.head?, call.files = rooted
  /-- If there is no call, they are left. -/
  ends : made = [] → left = rooted
  /-- A root that cannot be made is the error, and no call is made. -/
  uncreated : ∀ fault, created = .error fault → result = .error (.notCreated path fault) ∧ made = []
  /-- A root that cannot be resolved is the error, and no call is made. -/
  unresolved : created = .ok () → ∀ fault, rooted.resolveFromRoot host.here path = .error fault →
    result = .error (.notResolved path fault) ∧ made = []
  /-- The empty path is fine to make, but it cannot be resolved. -/
  empty : path.text = "" →
    created = .ok () ∧ rooted = files ∧ result = .error (.notResolved path (.system .noEntry))
  /-- Any other path that has been made is a directory, and it is resolved exactly if every path that
  is looked up for it is within reach. -/
  resolves : created = .ok () → path.text ≠ "" → ∃ place,
    rooted.resolve host.here path = .ok place ∧ rooted.node? place = some .directory ∧
      rooted.resolveFromRoot host.here path =
        if ∀ between ∈ rooted.lookupsOf host.here path, between.IsWithinReach then .ok place
        else .error (.system .nameTooLong)
  /-- A path is said not to be resolved only if it is empty or a path that is looked up for it is out
  of reach. -/
  refused : ∀ other fault, result = .error (.notResolved other fault) → other = path ∧
    (path.text = "" ∧ fault = .system .noEntry ∨
      path.text ≠ "" ∧ fault = .system .nameTooLong ∧
        ∃ between ∈ rooted.lookupsOf host.here path, ¬ between.IsWithinReach)
  /-- The sources are in the directory that the path has resolved to, on the way to which there is
  no link; and they were there, or they have just been fetched. -/
  fetched : ∀ source, result = .ok source → ∃ place,
    rooted.resolveFromRoot host.here path = .ok place ∧ source = place.path / directoryName ∧
      place.path.isAbsolute = true ∧
      (∀ above, above <+: place → rooted.node? above = some .directory) ∧
      (made = [] ∧ rooted.isPresent host.here source = true ∨
        ∃ call, made.getLast? = some call ∧
          call.call = .run (cloneCommand place.path url branch) ∧ call.verdict = .ok ())

theorem Course.isRooted {created : Except Fault Unit}
    (h : Course host path url branch files result made left)
    (hc : files.createAll host.here path = (created, rooted)) :
    Rooted host path url branch files created rooted result made left := by
  have hrooted : (prepare host.here path files).2 = rooted := by rw [prepare_snd, hc]
  have hgrows : rooted.Grows files host.here (·.IsOnWayTo path) := by
    have hg := Tree.grows_createAll files host.here path
    rwa [hc] at hg
  have hunresolved : created = .ok () → ∀ fault,
      rooted.resolveFromRoot host.here path = .error fault →
        result = .error (.notResolved path fault) ∧ made = [] := by
    rintro rfl fault hr
    exact h.of_unprepared (prepare_of_not_resolved hc hr)
  refine
    { grows := hgrows
      inside := fun place inner entry ha hinner hn => hgrows.new_inside ha hinner hn
      begins := fun call hm => by rw [h.files_of_head call hm, hrooted]
      ends := ?_
      uncreated := ?_
      unresolved := hunresolved
      empty := ?_
      resolves := ?_
      refused := ?_
      fetched := ?_ }
  · intro hm
    rcases h.unbroken with ⟨-, hl⟩ | ⟨hne, -⟩
    · rw [hl, hrooted]
    · exact absurd hm hne
  · rintro fault rfl
    exact h.of_unprepared (prepare_of_not_created hc)
  · intro he
    obtain rfl : path = ⟨""⟩ := Path.eq_empty he
    rw [Tree.createAll_empty] at hc
    cases hc
    exact ⟨rfl, rfl, (hunresolved rfl _ (Tree.resolveFromRoot_empty _ _)).1⟩
  · rintro rfl hne
    exact Tree.exists_resolve_of_createAll hne hc
  · rintro other fault rfl
    obtain ⟨rfl, prepared, hc', hr⟩ := h.of_notResolved
    rw [hc] at hc'
    cases hc'
    exact ⟨rfl, Tree.of_not_resolved hc hr⟩
  · rintro source rfl
    obtain ⟨place, prepared, hp⟩ := h.exists_prepare
    obtain rfl : prepared = rooted := by rw [← hrooted, hp]
    obtain ⟨hr, -⟩ := prepare_spec hp
    obtain ⟨hsource, hstraight, hthere⟩ := h.source_spec hp
    exact ⟨place, hr, hsource, place.isAbsolute_path, hstraight, hthere⟩

/-- **Making sure of the dependency root is safe**, whatever the path and the files are. -/
theorem fetch_rooted (host : Host) (path : Path) (url branch : String) (files : Tree) :
    let creation := files.createAll host.here path
    let ended := fetch path url branch host (.start files)
    Rooted host path url branch files creation.1 creation.2 ended.1 ended.2.made ended.2.files := by
  intro creation ended
  obtain ⟨result, made, left, h⟩ := exists_course host path url branch files
  obtain ⟨hresult, hmade, hleft⟩ := h.ends.ended
  rw [hresult, hmade, hleft]
  exact h.isRooted rfl

example : (fetch ⟨"./new/deps"⟩ repository SourceTree.branch Provision.workshop.host
    (.start .empty)).1 = .ok ⟨"/new/deps/llvm"⟩ := by decide +kernel

/-! ### A root out of reach -/

/-- A name as long as one may be. -/
def longName : String := String.ofList (List.replicate nameLimit 'n')

theorem isEntryName_longName : IsEntryName longName where
  filled := by decide +kernel
  not_dot := by decide +kernel
  not_dots := by decide +kernel
  unslashed := by simp [longName]
  clean := by simp [longName]
  short := by decide +kernel

/-- The relative path along the long name, as many times and once more. -/
def nested : Nat → Path
  | 0 => ⟨longName⟩
  | count + 1 => nested count / longName

/-- Directories with the long name, one in the other. -/
def nestedFiles : Nat → Tree
  | 0 => .empty
  | count + 1 => (nestedFiles count).add (List.replicate count longName) longName .directory

section Nested

variable (count : Nat)

theorem size_longName : longName.utf8ByteSize = 255 := by decide +kernel

theorem nested_ne_empty : (nested count).text ≠ "" := by
  cases count with
  | zero => exact isEntryName_longName.filled
  | succ count => exact Path.join_ne_empty isEntryName_longName.filled

theorem endsInSlash_nested : (nested count).endsInSlash = false := by
  have hname := isEntryName_longName.endsInSlash_eq
  cases count with
  | zero => exact hname
  | succ count =>
    rw [nested, Path.endsInSlash_join isEntryName_longName.isAbsolute_eq (nested_ne_empty count)
      isEntryName_longName.filled, hname]

theorem size_nested : (nested count).text.utf8ByteSize = 256 * count + 255 := by
  induction count with
  | zero => exact size_longName
  | succ count ih =>
    rw [nested, Path.utf8ByteSize_join isEntryName_longName.isAbsolute_eq (nested_ne_empty count),
      ih, endsInSlash_nested, size_longName, if_neg Bool.false_ne_true]
    omega

theorem isLegal_nested (hshort : 256 * count + 255 < pathLimit) : (nested count).IsLegal := by
  induction count with
  | zero =>
    exact ⟨isEntryName_longName.clean, isEntryName_longName.filled, by rwa [size_nested]⟩
  | succ count ih =>
    refine (ih (by omega)).join isEntryName_longName ?_
    have hsize := size_nested (count + 1)
    rw [nested] at hsize
    rwa [hsize]

theorem node?_nestedFiles (depth : Nat) :
    (nestedFiles count).node? (List.replicate depth longName) =
      if depth ≤ count then some .directory else none := by
  induction count generalizing depth with
  | zero =>
    cases depth with
    | zero => rfl
    | succ depth => rfl
  | succ count ih =>
    have hinside := ih count
    have hfree := ih (count + 1)
    rw [if_pos (Nat.le_refl count)] at hinside
    rw [if_neg (by omega), List.replicate_succ'] at hfree
    rw [nestedFiles, Tree.node?_add hinside hfree, ← List.replicate_succ', ih]
    by_cases hd : depth = count + 1
    · rw [hd, if_pos rfl, if_pos (Nat.le_refl _)]
    · have hne : List.replicate depth longName ≠ List.replicate (count + 1) longName := by
        intro he
        exact hd (by simpa using congrArg List.length he)
      rw [if_neg hne]
      by_cases hle : depth ≤ count
      · rw [if_pos hle, if_pos (by omega)]
      · rw [if_neg hle, if_neg (by omega)]

/-- The path leads straight down the directories, as far as they go. -/
theorem leadsStraight_nested {depth : Nat} (hdepth : depth < count)
    (hshort : 256 * depth + 255 < pathLimit) :
    (nestedFiles count).LeadsStraight [] (nested depth) (List.replicate (depth + 1) longName) := by
  induction depth with
  | zero =>
    have hn := node?_nestedFiles count 1
    rw [if_pos (by omega)] at hn
    exact
      { legal := isLegal_nested 0 hshort
        upless := by simp [nested, isEntryName_longName.entrySteps_eq]
        linkless := by
          rw [nested, isEntryName_longName.entrySteps_eq, Tree.startOf,
            isEntryName_longName.isAbsolute_eq, if_neg Bool.false_ne_true]
          exact Tree.walk_enter_of_entry isEntryName_longName.short hn (by simp)
        directory := hn }
  | succ depth ih =>
    have hn := node?_nestedFiles count (depth + 2)
    rw [if_pos (by omega), List.replicate_succ'] at hn
    rw [List.replicate_succ']
    exact (ih (by omega) (by omega)).join isEntryName_longName (isLegal_nested (depth + 1) hshort) hn

/-- One more directory is made below the others. -/
theorem createAll_nested (hshort : 256 * (count + 1) + 255 < pathLimit) :
    (nestedFiles (count + 1)).createAll [] (nested (count + 1)) =
      (.ok (), nestedFiles (count + 2)) := by
  have hleads := (leadsStraight_nested (count + 1) (Nat.lt_succ_self count) (by omega)).leads
  have hfree := node?_nestedFiles (count + 1) (count + 2)
  rw [if_neg (by omega), List.replicate_succ'] at hfree
  have hslot := hleads.findSlot_join_of_none isEntryName_longName
    (isLegal_nested (count + 1) hshort) hfree
  have hmade : (nestedFiles (count + 1)).createDirectory [] (nested (count + 1)) =
      .ok (nestedFiles (count + 2)) := by
    rw [Tree.createDirectory, nested, hslot]
    rfl
  rw [Tree.createAll, Tree.createFrom.eq_def, if_neg (nested_ne_empty (count + 1)), hmade]

/-- The path of the place from the root. -/
theorem size_path_replicate : (Location.path (List.replicate (count + 1) longName)).text.utf8ByteSize =
    256 * (count + 1) := by
  have hslash : "/".utf8ByteSize = 1 := rfl
  have hjoined : (Text.joined "/" (List.replicate (count + 1) longName)).utf8ByteSize =
      256 * count + 255 := by
    induction count with
    | zero => exact size_longName
    | succ count ih =>
      rw [List.replicate_succ, List.replicate_succ, Text.joined, String.utf8ByteSize_append,
        String.utf8ByteSize_append, ← List.replicate_succ, ih, size_longName, hslash]
      omega
  rw [Location.path, String.utf8ByteSize_append, hjoined, hslash]
  omega

/-- Where the path from the root is too long, the directory cannot be resolved. -/
theorem resolveFromRoot_nested (hshort : 256 * (count + 1) + 255 < pathLimit)
    (hlong : pathLimit ≤ 256 * (count + 2)) :
    (nestedFiles (count + 2)).resolveFromRoot [] (nested (count + 1)) =
      .error (.system .nameTooLong) := by
  have hstraight := leadsStraight_nested (count + 2) (by omega : count < count + 2) (by omega)
  have hdeeper := leadsStraight_nested (count + 2) (Nat.lt_succ_self (count + 1)) hshort
  have hresolve := Tree.resolve_eq_ok_iff.2 (hdeeper.leads.find_eq hdeeper.legal)
  have hlookup : Location.path (List.replicate (count + 2) longName) ∈
      (nestedFiles (count + 2)).lookupsOf [] (nested (count + 1)) := by
    rw [Tree.lookupsOf, nested, isEntryName_longName.steps_join,
      isEntryName_longName.startOf_join, Tree.lookups, List.mem_append, List.replicate_succ',
      ← Tree.lookupPath_nil]
    exact .inl (Tree.lookupPath_mem_strideLookups _ _ (Tree.walk_zero_iff.1 hstraight.linkless))
  rw [Tree.resolveFromRoot_eq hdeeper.legal, hresolve, if_neg]
  intro hreach
  have hsize : _ < pathLimit := hreach _ hlookup
  rw [size_path_replicate] at hsize
  omega

end Nested

/-- **A root that is made and cannot be resolved**: sixteen long names make a path that is short
enough to be given, but with a slash in front of it the path is too long. -/
theorem not_resolved_nested :
    let host := Provision.workshop.host
    let creation := (nestedFiles 15).createAll host.here (nested 15)
    (nested 15).text ≠ "" ∧ creation.1 = .ok () ∧
      creation.2.isDirectory host.here (nested 15) = true ∧
      creation.2.resolveFromRoot host.here (nested 15) = .error (.system .nameTooLong) ∧
      (fetch (nested 15) repository SourceTree.branch host (.start (nestedFiles 15))).1 =
        .error (.notResolved (nested 15) (.system .nameTooLong)) := by
  intro host creation
  have hmade : creation = (.ok (), nestedFiles 16) := createAll_nested 14 (by decide)
  have hrooted : creation.2 = nestedFiles 16 := by rw [hmade]
  have hrefused : (nestedFiles 16).resolveFromRoot host.here (nested 15) =
      .error (.system .nameTooLong) := resolveFromRoot_nested 14 (by decide) (by decide)
  have hstraight : (nestedFiles 16).LeadsStraight host.here (nested 15) _ :=
    leadsStraight_nested 16 (by decide) (by decide)
  refine ⟨nested_ne_empty 15, by rw [hmade], ?_, by rw [hrooted, hrefused], ?_⟩
  · rw [hrooted, Tree.isDirectory_iff]
    exact ⟨_, hstraight.leads.find_eq hstraight.legal, hstraight.directory⟩
  · obtain ⟨result, made, left, h⟩ :=
      exists_course host (nested 15) repository SourceTree.branch (nestedFiles 15)
    have hp := prepare_of_not_resolved hmade hrefused
    rw [h.ends.ended.1, (h.of_unprepared hp).1]

end SourceTree

end LlvmProvision
