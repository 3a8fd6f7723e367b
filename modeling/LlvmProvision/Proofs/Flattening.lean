import LlvmProvision.Proofs.ArchiveNames
import LlvmProvision.Proofs.JoinedPaths
import LlvmProvision.Proofs.Replacement
import LlvmProvision.Rehearsal.Stage

/-!
# Flattening a build tree

The ordinary course of the last stage.  The source tree is reached by a straight path, the build
tree is a real directory in it with a single archive, and next to the build tree nothing but
perhaps an older archive stands in the way (`Ready`).  Then the tree that the archive is unpacked
in is known exactly (`Flat`): the archive has been moved, the build tree is empty, and everything
else is as it was, whatever the build tree held and wherever links in it lead to.

The main result is `unpack_flattens`.  It needs the path of the archive to be short enough for
the system.  Behind a longer path the archive is still found, since it is found by a listing of
the build tree, but it cannot be moved any more (`unpack_of_long`).
-/
namespace LlvmProvision

open Files Tools

namespace Package

/-- **Everything is ready for unpacking**: the path of the source tree leads straight to `place`,
the build tree in it is a directory with a single archive called `name`, which holds `text`, and
next to it the name is free or that of a file. -/
structure Ready (here : Location) (source : Path) (place : Location) (name text : String)
    (files : Tree) : Prop where
  straight : files.LeadsStraight here source place
  build : files.node? (place ++ [BuildTree.directoryName]) = some .directory
  entryName : IsEntryName name
  named : Archive.isArchiveName name = true
  archive : files.node? (place ++ [BuildTree.directoryName] ++ [name]) = some (.file text)
  single : ∀ child ∈ files.children (place ++ [BuildTree.directoryName]),
    isArchive child = true → child.1 = name
  free : files.node? (place ++ [name]) = none ∨
    ∃ old, files.node? (place ++ [name]) = some (.file old)

/-- **The files with a flat build tree**: the archive is kept next to an empty build tree, and all
else is as it was. -/
structure Flat (place : Location) (name text : String) (files flat : Tree) : Prop where
  build : flat.node? (place ++ [BuildTree.directoryName]) = some .directory
  emptied : ∀ other, place ++ [BuildTree.directoryName] <+: other →
    other ≠ place ++ [BuildTree.directoryName] → flat.node? other = none
  kept : flat.node? (place ++ [name]) = some (.file text)
  same : ∀ other, ¬ place ++ [BuildTree.directoryName] <+: other → other ≠ place ++ [name] →
    flat.node? other = files.node? other

variable {here place : Location} {source : Path} {name text : String} {files : Tree}

/-! ## What is found -/

theorem Ready.archives_eq (h : Ready here source place name text files)
    (hlegal : (source / BuildTree.directoryName).IsLegal) :
    archives here source files = [name] := by
  have hresolve : files.resolve here (source / BuildTree.directoryName) =
      .ok (place ++ [BuildTree.directoryName]) :=
    Tree.resolve_eq_ok_iff.2 (h.straight.seek_entry BuildTree.isEntryName_directoryName hlegal
      h.build (by simp))
  refine archives_eq_singleton_iff.2 fun other => ?_
  rw [mem_archives_iff]
  constructor
  · rintro ⟨ha, found, content, hf, hn⟩
    obtain rfl : place ++ [BuildTree.directoryName] = found := by simpa [hresolve] using hf
    exact h.single (other, .file content) (Tree.mem_children.2 hn) ha
  · rintro rfl
    exact ⟨h.named, _, _, hresolve, h.archive⟩

/-! ## What is done -/

/-- The paths that the last stage takes are short enough if the longest of them is. -/
theorem isLegal_of_short (hlegal : source.IsLegal) (hname : IsEntryName name)
    (hshort : (source / BuildTree.directoryName / name).text.utf8ByteSize < pathLimit) :
    (source / BuildTree.directoryName).IsLegal ∧
      (source / BuildTree.directoryName / name).IsLegal ∧ (source / name).IsLegal := by
  have hdirectory := BuildTree.isEntryName_directoryName
  have hbuild : (source / BuildTree.directoryName).text ≠ "" := BuildTree.build_ne_empty source
  rw [Path.utf8ByteSize_join hname.isAbsolute_eq hbuild,
    Path.utf8ByteSize_join hdirectory.isAbsolute_eq hlegal.nonempty] at hshort
  have hlegal' : (source / BuildTree.directoryName).IsLegal := by
    refine hlegal.join hdirectory ?_
    rw [Path.utf8ByteSize_join hdirectory.isAbsolute_eq hlegal.nonempty]
    omega
  refine ⟨hlegal', hlegal'.join hname ?_, hlegal.join hname ?_⟩
  · rw [Path.utf8ByteSize_join hname.isAbsolute_eq hbuild,
      Path.utf8ByteSize_join hdirectory.isAbsolute_eq hlegal.nonempty]
    exact hshort
  · rw [Path.utf8ByteSize_join hname.isAbsolute_eq hlegal.nonempty]
    omega

/-- **The archive is moved, and the build tree removed and made again.** -/
theorem Ready.exists_flat (h : Ready here source place name text files)
    (hshort : (source / BuildTree.directoryName / name).text.utf8ByteSize < pathLimit) :
    ∃ flat, prepare here source name files = (.ok (), flat) ∧ Flat place name text files flat := by
  obtain ⟨hbuild, harchive, hkept⟩ := isLegal_of_short h.straight.legal h.entryName hshort
  have hdirectory := BuildTree.isEntryName_directoryName
  have hother : name ≠ BuildTree.directoryName := Archive.ne_build_of_isArchiveName h.named
  -- the file is moved
  have hinner := h.straight.join hdirectory hbuild h.build
  have htarget : files.WritesAt here (source / name) (place ++ [name]) := by
    rcases h.free with hn | ⟨old, hn⟩
    · exact .anew (h.straight.seek_none h.entryName hkept hn)
    · exact .onto (h.straight.seek_entry h.entryName hkept hn (by simp)) hn
  obtain ⟨copied, hmove, hw⟩ := Tree.exists_moveFile
    (hinner.seek_entry h.entryName harchive h.archive (by simp))
    (hinner.seek_entry h.entryName harchive h.archive (by simp)) h.archive htarget
    (fun he => by simpa using congrArg List.length he)
  generalize hm : copied.remove (place ++ [BuildTree.directoryName] ++ [name]) = moved at hmove
  -- the directories are where they were
  have hmoved : ∀ other, ¬ place ++ [BuildTree.directoryName] ++ [name] <+: other →
      other ≠ place ++ [name] → moved.node? other = files.node? other := by
    intro other ho hne
    rw [← hm, Tree.node?_remove (by simp), if_neg ho, hw.node?_eq, if_neg hne]
  have hplace : moved.node? place = some .directory := by
    rw [hmoved place _ (by simp), h.straight.directory]
    exact fun hp => Tree.not_prefix_of_concat place _ ((List.prefix_append _ _).trans hp)
  have hdir : moved.node? (place ++ [BuildTree.directoryName]) = some .directory := by
    rw [hmoved _ _ (by simpa using hother.symm), h.build]
    exact Tree.not_prefix_of_concat _ _
  -- the build tree is replaced
  obtain ⟨removed, flat, hremove, hcreate, hview⟩ :=
    (h.straight.of_isDirectory hplace).despite.exists_replaced hdirectory hbuild (.inl hdir)
  have hprepare : prepare here source name files = (.ok (), flat) := by
    unfold prepare
    rw [hmove]
    dsimp only
    rw [hremove]
    dsimp only
    rw [hcreate]
  have hkeep : ¬ place ++ [BuildTree.directoryName] <+: place ++ [name] := by
    simpa [List.prefix_append_right_inj] using hother.symm
  refine ⟨flat, hprepare, ?_⟩
  constructor
  · rw [hview, if_pos rfl]
  · intro other ho hne
    rw [hview, if_neg hne, if_pos ho]
  · have hfar : ¬ place ++ [BuildTree.directoryName] ++ [name] <+: place ++ [name] :=
      fun hp => hkeep ((List.prefix_append _ _).trans hp)
    rw [hview, if_neg (by simpa using hother), if_neg hkeep, ← hm, Tree.node?_remove (by simp), if_neg hfar, hw.node?_eq,
      if_pos rfl]
  · intro other ho hne
    have hbuildne : other ≠ place ++ [BuildTree.directoryName] := by
      rintro rfl
      exact ho List.prefix_rfl
    rw [hview, if_neg hbuildne, if_neg ho, hmoved other _ hne]
    exact fun hp => ho ((List.prefix_append _ _).trans hp)

/-! ## The whole stage -/

variable {host : Host}

/-- **The stage flattens the build tree**: after the check of the tool the files are flat, the
archive is unpacked in them, and the result is the path of the archive exactly if that succeeds.
What is left are the files that the tool has left. -/
def Flattens (host : Host) (source : Path) (place : Location) (name text : String)
    (files : Tree) : Prop :=
  let ended := unpack source host (.start files)
  ∃ flat, Flat place name text files flat ∧
    ended.2.made = [host.answer (.check "tar") files,
      host.answer (.run (command source name)) flat] ∧
    (ended.1 = .ok (some (source / name)) ↔
      (host.answer (.run (command source name)) flat).reply.outcome.isSuccess = true) ∧
    ended.2.files = (host.answer (.run (command source name)) flat).reply.files

/-- **Unpacking flattens the build tree.** -/
theorem unpack_flattens (h : Ready host.here source place name text files)
    (hcheck : (host.answer (.check "tar") files).reply.outcome.isSuccess = true)
    (hquiet : (host.answer (.check "tar") files).reply.files = files)
    (hshort : (source / BuildTree.directoryName / name).text.utf8ByteSize < pathLimit) :
    Flattens host source place name text files := by
  obtain ⟨hbuild, -, -⟩ := isLegal_of_short h.straight.legal h.entryName hshort
  obtain ⟨flat, hp, hflat⟩ := h.exists_flat hshort
  rw [← hquiet] at hp
  have hcourse : Course host source files _ _ _ :=
    .attempted (h.archives_eq hbuild) (Made.verdict_eq_ok_iff.2 hcheck) hp
      (attempted_singleton host (.run (command source name)) flat)
  obtain ⟨hresult, hmade, hleft⟩ := hcourse.ends.ended
  refine ⟨flat, hflat, hmade, ?_, hleft⟩
  rw [hresult, ← Made.verdict_eq_ok_iff]
  cases (host.answer (.run (command source name)) flat).verdict with
  | error error => simp [Except.map]
  | ok _ => simp [Except.map]

/-- **Behind a path that is too long** the archive is found but not moved. -/
theorem unpack_of_long (hn : archives host.here source files = [name])
    (hcheck : (host.answer (.check "tar") files).reply.outcome.isSuccess = true)
    (hlong : pathLimit ≤ (source / BuildTree.directoryName / name).text.utf8ByteSize) :
    let ended := unpack source host (.start files)
    ended.1 = .error (.notMoved (source / BuildTree.directoryName / name)
        (.sourceMissing (source / BuildTree.directoryName / name))) ∧
      ended.2.made = [host.answer (.check "tar") files] ∧
      ended.2.files = (host.answer (.check "tar") files).reply.files := by
  have hmove : ∀ tree : Tree,
      tree.moveFile host.here (source / BuildTree.directoryName / name) (source / name) =
        (.error (.sourceMissing (source / BuildTree.directoryName / name)), tree) := by
    intro tree
    have hl : tree.lookup? host.here (source / BuildTree.directoryName / name) = none := by
      rw [← Option.not_isSome_iff_eq_none, Option.isSome_iff_exists]
      rintro ⟨entry, he⟩
      obtain ⟨found, hf, -⟩ := Tree.lookup?_eq_some_iff.1 he
      have hlegal := (Tree.seek_eq_ok_iff.1 hf).1
      exact absurd hlegal.short (Nat.not_lt.2 hlong)
    rw [Tree.moveFile, hl]
  have hp : prepare host.here source name (host.answer (.check "tar") files).reply.files =
      (.error (.notMoved (source / BuildTree.directoryName / name)
        (.sourceMissing (source / BuildTree.directoryName / name))),
        (host.answer (.check "tar") files).reply.files) := by
    unfold prepare
    rw [hmove]
  have hcourse : Course host source files _ _ _ :=
    .unprepared hn (Made.verdict_eq_ok_iff.2 hcheck) hp
  exact hcourse.ends.ended

/-! ### A packed build tree -/

/-- All tools are there, and do nothing. -/
def idleWorkshop : Rehearsal.Stage where
  manner := .direct
  here := []
  coloured := false
  missing := []
  script := []

theorem reply_idleWorkshop (tool : String) (files : Tree) :
    (idleWorkshop.host.answer (.check tool) files).reply = ⟨.ended (.exited 0), "", files⟩ := rfl

/-- The name of a package. -/
def packageName : String := "LLVM-16.0.6-Linux.tar.gz"

theorem isEntryName_packageName : IsEntryName packageName where
  filled := by decide
  not_dot := by decide
  not_dots := by decide
  unslashed := by decide
  clean := by decide
  short := by decide

/-- A build tree with a package, a library and a link that leads out of it.  An older package of
the same name is kept next to it. -/
def packedFiles : Tree :=
  Change.applyAll [] [
    .file ⟨"llvm/build/LLVM-16.0.6-Linux.tar.gz"⟩ "package" 1,
    .file ⟨"llvm/build/lib/libLLVMCore.a"⟩ "core" 1,
    .file ⟨"include/llvm.h"⟩ "header" 1,
    .link ⟨"llvm/build/include"⟩ ⟨"../../include"⟩,
    .file ⟨"llvm/LLVM-16.0.6-Linux.tar.gz"⟩ "older package" 1] .empty

theorem packedFiles_spec :
    packedFiles.node? ["llvm"] = some .directory ∧
      packedFiles.node? ["llvm", "build"] = some .directory ∧
      packedFiles.node? ["llvm", "build", packageName] = some (.file "package") ∧
      packedFiles.node? ["llvm", packageName] = some (.file "older package") ∧
      ∀ child ∈ packedFiles.children ["llvm", "build"], isArchive child = true →
        child.1 = packageName := by
  decide +kernel

/-- By every straight path, all is ready there. -/
theorem ready_packedFiles (h : packedFiles.LeadsStraight [] source ["llvm"]) :
    Ready [] source ["llvm"] packageName "package" packedFiles where
  straight := h
  build := packedFiles_spec.2.1
  entryName := isEntryName_packageName
  named := by decide +kernel
  archive := packedFiles_spec.2.2.1
  single := packedFiles_spec.2.2.2.2
  free := .inr ⟨"older package", packedFiles_spec.2.2.2.1⟩

/-- The path of the source tree behind so many single dots. -/
def dotted : Nat → Path
  | 0 => ⟨"llvm"⟩
  | count + 1 => ⟨"." ++ "/" ++ (dotted count).text⟩

section Dotted

variable (count : Nat)

theorem utf8ByteSize_dotted : (dotted count).text.utf8ByteSize = 2 * count + 4 := by
  induction count with
  | zero => rfl
  | succ count ih =>
    have hdot : ".".utf8ByteSize = 1 := rfl
    have hslash : "/".utf8ByteSize = 1 := rfl
    rw [dotted, String.utf8ByteSize_append, String.utf8ByteSize_append, ih]
    omega

theorem entrySteps_dotted : (dotted count).entrySteps =
    List.replicate count .stay ++ [.enter "llvm"] := by
  induction count with
  | zero => decide
  | succ count ih =>
    rw [dotted, Path.entrySteps, Path.names_append_slash, List.map_append, List.replicate_succ]
    exact congrArg (Step.stay :: ·) ih

theorem isAbsolute_dotted : (dotted count).isAbsolute = false := by
  cases count with
  | zero => decide
  | succ count => simp [Path.isAbsolute, dotted]

theorem isLegal_dotted (hshort : 2 * count + 4 < pathLimit) : (dotted count).IsLegal where
  clean := by
    clear hshort
    induction count with
    | zero => decide
    | succ count ih =>
      rw [dotted, String.toList_append, String.toList_append]
      simpa using ih
  nonempty := by
    cases count with
    | zero => decide
    | succ count => simp [dotted]
  short := by rwa [utf8ByteSize_dotted]

/-- Staying in a directory, however often, leads nowhere else. -/
theorem walk_replicate_stay {tree : Tree} {follow : Bool} {links : Nat} {start : Location}
    {rest : List Step} (hd : tree.node? start = some .directory) :
    tree.walk ⟨follow, false⟩ links start (List.replicate count .stay ++ rest) =
      tree.walk ⟨follow, false⟩ links start rest := by
  induction count with
  | zero => rfl
  | succ count ih =>
    have hf : tree.footing start .stay = .moved start := by simp [Tree.footing, hd]
    rw [List.replicate_succ, List.cons_append, Tree.walk_moved hf, ih]

/-- However many dots there are, the path leads straight to the source tree, as long as it can be
used at all. -/
theorem leadsStraight_dotted (hshort : 2 * count + 4 < pathLimit) :
    packedFiles.LeadsStraight [] (dotted count) ["llvm"] where
  legal := isLegal_dotted count hshort
  upless := by
    rw [entrySteps_dotted]
    simp
  linkless := by
    have hwalk : packedFiles.walk ⟨true, false⟩ 0 [] [.enter "llvm"] = .ok (.found ["llvm"]) :=
      Tree.walk_enter_of_entry (by decide) packedFiles_spec.1 (by simp)
    rw [entrySteps_dotted, Tree.startOf, isAbsolute_dotted, if_neg (by decide),
      walk_replicate_stay count packedFiles.node?_root, hwalk]
  directory := packedFiles_spec.1

end Dotted

theorem flattens_packedFiles :
    Flattens idleWorkshop.host ⟨"./llvm"⟩ ["llvm"] packageName "package" packedFiles := by
  have hpath : dotted 1 = ⟨"./llvm"⟩ := by decide
  have hready : Ready idleWorkshop.host.here ⟨"./llvm"⟩ ["llvm"] packageName "package"
      packedFiles := ready_packedFiles (hpath ▸ leadsStraight_dotted 1 (by decide))
  exact unpack_flattens hready (by rw [reply_idleWorkshop]; rfl) (by rw [reply_idleWorkshop])
    (by decide +kernel)

/-- **A build tree that is not flattened**: everything is ready and the tool is there, but the
path of the archive is too long. -/
theorem not_flattens_dotted :
    let host := idleWorkshop.host
    Ready host.here (dotted 2032) ["llvm"] packageName "package" packedFiles ∧
      (host.answer (.check "tar") packedFiles).reply.outcome.isSuccess = true ∧
      (host.answer (.check "tar") packedFiles).reply.files = packedFiles ∧
      ¬ Flattens host (dotted 2032) ["llvm"] packageName "package" packedFiles := by
  intro host
  have hready : Ready host.here (dotted 2032) ["llvm"] packageName "package" packedFiles :=
    ready_packedFiles (leadsStraight_dotted 2032 (by decide))
  have hcheck : (host.answer (.check "tar") packedFiles).reply.outcome.isSuccess = true := by
    rw [reply_idleWorkshop]
    rfl
  refine ⟨hready, hcheck, by rw [reply_idleWorkshop], ?_⟩
  -- the build tree can still be listed
  have hlegal := hready.straight.legal
  have hdirectory := BuildTree.isEntryName_directoryName
  have hsize := utf8ByteSize_dotted 2032
  have hfive : BuildTree.directoryName.utf8ByteSize = 5 := by decide
  have hname : packageName.utf8ByteSize = 24 := by decide
  have hbuild : (dotted 2032 / BuildTree.directoryName).IsLegal := by
    refine hlegal.join hdirectory ?_
    rw [Path.utf8ByteSize_join hdirectory.isAbsolute_eq hlegal.nonempty, hsize, hfive]
    split
    · decide
    · decide
  have hlong : pathLimit ≤
      (dotted 2032 / BuildTree.directoryName / packageName).text.utf8ByteSize := by
    rw [Path.utf8ByteSize_join hready.entryName.isAbsolute_eq hbuild.nonempty,
      Path.utf8ByteSize_join hdirectory.isAbsolute_eq hlegal.nonempty, hsize, hfive, hname, pathLimit]
    omega
  obtain ⟨-, hmade, -⟩ := unpack_of_long (hready.archives_eq hbuild) hcheck hlong
  -- so there is one call only
  rintro ⟨flat, -, hboth, -⟩
  rw [hmade] at hboth
  cases hboth

end Package

end LlvmProvision
