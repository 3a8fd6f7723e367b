import LlvmProvision.Proofs.Flattening
import LlvmProvision.Proofs.Replacement

/-!
# Keeping the archive

The archive is the product of a long build, and the last stage removes the build tree around it.
By then the archive is to be kept next to the build tree.  Links can thwart this: what stands
there already may be a link to the archive itself, which is then emptied and removed, or a link
into the build tree, which takes the copy away with it (`not_keeps_linkedPackage`).

The archive is kept whenever the place next to the build tree is `Spared`: the path of that place
leads to the same without the archive and without the build tree.  The main result,
`unpack_keeps`, covers all trees, links at the build tree and next to it included, and every
outcome of the check.
-/
namespace LlvmProvision

open Files Tools

namespace Files.Tree

variable {tree other : Tree} {here place : Location} {path : Path} {name text : String}
  {follow : Bool}

/-- The text of the file that a path leads to, however long the spelling of the path is. -/
def textAt? (tree : Tree) (here : Location) (path : Path) : Option String :=
  match tree.walk ⟨true, false⟩ linkLimit (startOf path here) path.steps with
  | .ok (.found place) =>
    match tree.node? place with
    | some (.file text) => some text
    | _ => none
  | _ => none

/-- Of a path that the system takes this is what is read. -/
theorem readFile?_eq_textAt? (legal : path.IsLegal) :
    tree.readFile? here path = tree.textAt? here path := by
  simp only [readFile?, lookup?, resolve, find, seek, textAt?, if_neg legal.clean,
    if_neg legal.nonempty, if_neg (Nat.not_le_of_lt legal.short)]
  rcases tree.walk ⟨true, false⟩ linkLimit (startOf path here) path.steps with
    error | (place | ⟨parent, name, rest⟩)
  · rfl
  · rfl
  · rfl

theorem textAt?_of_walk
    (hw : tree.walk ⟨true, false⟩ linkLimit (startOf path here) path.steps = .ok (.found place))
    (hn : tree.node? place = some (.file text)) : tree.textAt? here path = some text := by
  rw [textAt?, hw]
  simp only [hn]

theorem textAt?_of_find (hf : tree.find here path = .ok (.found place))
    (hn : tree.node? place = some (.file text)) : tree.textAt? here path = some text :=
  textAt?_of_walk (seek_eq_ok_iff.1 hf).2 hn

/-- A name behind a path leads to the entry of that name, unless it is a link. -/
theorem walk_join_of_walk {entry : Entry} (hname : IsEntryName name)
    (hw : tree.walk ⟨true, false⟩ linkLimit (startOf path here) path.entrySteps =
      .ok (.found place))
    (hn : tree.node? (place ++ [name]) = some entry) (hl : ∀ target, entry ≠ .link target) :
    tree.walk ⟨follow, false⟩ linkLimit (startOf (path / name) here) (path / name).steps =
      .ok (.found (place ++ [name])) := by
  have hc := walk_append tree follow linkLimit (startOf path here) path.entrySteps
    (List.cons_ne_nil (Step.enter name) [])
  rw [hw] at hc
  obtain ⟨fewer, hc⟩ := hc
  rw [hname.steps_join, hname.startOf_join, hc, walk_enter_of_entry hname.short hn hl]

/-- The entry that is found by a joined path is there, and it is not the root. -/
theorem findEntry_join_spec (hname : IsEntryName name)
    (hf : tree.findEntry here (path / name) = .ok (.found place)) :
    place ≠ [] ∧ ∃ entry, tree.node? place = some entry := by
  obtain ⟨-, hw⟩ := seek_eq_ok_iff.1 hf
  rw [hname.steps_join] at hw
  have hc := walk_append tree false linkLimit (startOf (path / name) here)
    path.entrySteps (List.cons_ne_nil (Step.enter name) [])
  rw [hw] at hc
  rcases hb : tree.walk ⟨true, false⟩ linkLimit (startOf (path / name) here) path.entrySteps with
    error | (parent | ⟨parent, missing, rest⟩)
  · rw [hb] at hc
    cases hc
  · rw [hb] at hc
    obtain ⟨fewer, hc⟩ := hc
    have hd := isDirectory_of_walk_cons hc.symm
    have hn := exists_node?_of_walk ⟨_, hd⟩ hc.symm
    obtain rfl := place_of_walk_enter hc.symm
    exact ⟨by simp, hn⟩
  · rw [hb] at hc
    cases hc

/-- What is found by a joined path is there. -/
theorem exists_node?_of_find_join (hname : IsEntryName name)
    (hf : tree.find here (path / name) = .ok (.found place)) :
    ∃ entry, tree.node? place = some entry := by
  obtain ⟨-, hw⟩ := seek_eq_ok_iff.1 hf
  rw [hname.steps_join] at hw
  obtain ⟨step, rest, hs⟩ : ∃ step rest, path.entrySteps ++ [.enter name] = step :: rest :=
    List.exists_cons_of_ne_nil (by simp)
  rw [hs] at hw
  exact exists_node?_of_walk ⟨_, isDirectory_of_walk_cons hw⟩ hw

end Files.Tree

namespace Package

/-- **The archive can be read**, in the build tree or next to it. -/
def Kept (here : Location) (source : Path) (name text : String) (files : Tree) : Prop :=
  files.textAt? here (source / name) = some text ∨
    files.textAt? here (source / BuildTree.directoryName / name) = some text

instance (here : Location) (source : Path) (name text : String) (files : Tree) :
    Decidable (Kept here source name text files) :=
  inferInstanceAs (Decidable (_ ∨ _))

/-- **The place next to the build tree does not depend on what is going to be removed**: its path
leads to the same without the archive and without the build tree, or without the link in place of
the build tree. -/
def Spared (here : Location) (source : Path) (name : String) (files : Tree) : Prop :=
  ∀ build archive arrival,
    files.findEntry here (source / BuildTree.directoryName) = .ok (.found build) →
    files.findEntry here (source / BuildTree.directoryName / name) = .ok (.found archive) →
    files.find here (source / name) = .ok arrival →
    ((files.remove build).remove archive).find here (source / name) = .ok arrival

/-- **The stage keeps the archive**: it can be read when the command that unpacks it starts, and,
if no such command is started, at the end. -/
def Keeps (host : Host) (source : Path) (name text : String) (files : Tree) : Prop :=
  let ended := unpack source host (.start files)
  (∀ call ∈ ended.2.made, call.call = .run (command source name) →
      Kept host.here source name text call.files) ∧
    ((∀ call ∈ ended.2.made, call.call ≠ .run (command source name)) →
      Kept host.here source name text ended.2.files)

instance (host : Host) (source : Path) (name text : String) (files : Tree) :
    Decidable (Keeps host source name text files) :=
  inferInstanceAs (Decidable (_ ∧ _))

variable {host : Host} {here build archive place : Location} {source : Path} {name text : String}
  {files left : Tree}

/-! ## Files without the build tree -/

/-- What is left without the build tree and the archive lies outside of both. -/
theorem node?_without {entry : Entry} (hbuild : build ≠ []) (harchive : archive ≠ [])
    (hn : ((files.remove build).remove archive).node? place = some entry) :
    files.node? place = some entry ∧ ¬ build <+: place ∧ ¬ archive <+: place := by
  rw [Tree.node?_remove harchive] at hn
  split at hn
  · cases hn
  · rename_i ha
    rw [Tree.node?_remove hbuild] at hn
    split at hn
    · cases hn
    · rename_i hb
      exact ⟨hn, hb, ha⟩

/-- A place that is free does not become occupied below an entry by a name more. -/
theorem not_prefix_concat {above parent : Location} {inner : String} {entry : Entry}
    (ha : files.node? above = some entry) (hn : files.node? (parent ++ [inner]) = none)
    (hp : ¬ above <+: parent) : ¬ above <+: parent ++ [inner] := by
  intro hprefix
  rcases List.prefix_concat_iff.1 hprefix with rfl | hparent
  · rw [hn] at ha
    cases ha
  · exact hp hparent

/-- **The place next to the build tree, if it is spared**, can be written to without the archive
and the build tree, and is in neither of them. -/
theorem Spared.writesAt (h : Spared here source name files) (hname : IsEntryName name)
    (hbuild : files.findEntry here (source / BuildTree.directoryName) = .ok (.found build))
    (harchive : files.findEntry here (source / BuildTree.directoryName / name) =
      .ok (.found archive))
    (ht : files.WritesAt here (source / name) place) :
    ((files.remove build).remove archive).WritesAt here (source / name) place ∧
      ¬ build <+: place ∧ ¬ archive <+: place := by
  obtain ⟨hb, entry, hn⟩ := Tree.findEntry_join_spec BuildTree.isEntryName_directoryName hbuild
  obtain ⟨ha, entry', hn'⟩ := Tree.findEntry_join_spec hname harchive
  cases ht with
  | @onto _ old hf ho =>
    have hf' := h build archive _ hbuild harchive hf
    obtain ⟨there, hthere⟩ := Tree.exists_node?_of_find_join hname hf'
    obtain ⟨hsame, hplace⟩ := node?_without hb ha hthere
    obtain rfl : there = .file old := by simpa [ho, eq_comm] using hsame
    exact ⟨.onto hf' hthere, hplace⟩
  | @anew parent inner hf =>
    have hf' := h build archive _ hbuild harchive hf
    obtain ⟨-, hd, -⟩ := Tree.absent_spec (Tree.walk_missing_spec (Tree.seek_eq_ok_iff.1 hf').2)
    obtain ⟨-, -, hfree⟩ := Tree.absent_spec (Tree.walk_missing_spec (Tree.seek_eq_ok_iff.1 hf).2)
    obtain ⟨-, hbparent, haparent⟩ := node?_without hb ha hd
    exact ⟨.anew hf', not_prefix_concat hn hfree hbparent, not_prefix_concat hn' hfree haparent⟩

/-! ## What becomes of the archive -/

section Found

variable (hname : IsEntryName name) (hn : archives here source files = [name])
  (htext : files.textAt? here (source / BuildTree.directoryName / name) = some text)

include hname hn htext

/-- The archive that is found lies in a directory that the path of the build tree leads to. -/
theorem exists_archive :
    ∃ place, files.find here (source / BuildTree.directoryName) = .ok (.found place) ∧
      files.node? (place ++ [name]) = some (.file text) ∧
      ∀ follow, files.walk ⟨follow, false⟩ linkLimit
        (Tree.startOf (source / BuildTree.directoryName / name) here)
        (source / BuildTree.directoryName / name).steps = .ok (.found (place ++ [name])) := by
  obtain ⟨-, place, other, hresolve, hfile⟩ :=
    mem_archives_iff.1 (hn ▸ List.mem_singleton_self name)
  have hfind := Tree.resolve_eq_ok_iff.1 hresolve
  obtain ⟨-, hw⟩ := Tree.seek_eq_ok_iff.1 hfind
  rw [BuildTree.steps_build] at hw
  have hwalk : ∀ follow, files.walk ⟨follow, false⟩ linkLimit
      (Tree.startOf (source / BuildTree.directoryName / name) here)
      (source / BuildTree.directoryName / name).steps = .ok (.found (place ++ [name])) :=
    fun follow => Tree.walk_join_of_walk hname hw hfile (by simp)
  obtain rfl : other = text := by simpa [Tree.textAt?_of_walk (hwalk true) hfile] using htext
  exact ⟨place, hfind, hfile, hwalk⟩

/-- The build tree has an entry. -/
theorem exists_build :
    ∃ build, files.findEntry here (source / BuildTree.directoryName) = .ok (.found build) := by
  obtain ⟨place, hfind, -⟩ := exists_archive hname hn htext
  obtain ⟨hp, hw⟩ := Tree.seek_eq_ok_iff.1 hfind
  obtain ⟨build, hb⟩ := Tree.walk_unfollowed_of_found hw
  exact ⟨build, Tree.seek_eq_ok_iff.2 ⟨hp, hb⟩⟩

/-- What is moved is the archive, and no link. -/
theorem findEntry_archive {content : String}
    (ho : files.find here (source / BuildTree.directoryName / name) = .ok (.found archive))
    (hc : files.node? archive = some (.file content)) : content = text ∧
      files.findEntry here (source / BuildTree.directoryName / name) = .ok (.found archive) := by
  obtain ⟨place, -, hfile, hwalk⟩ := exists_archive hname hn htext
  obtain ⟨hp, hw⟩ := Tree.seek_eq_ok_iff.1 ho
  obtain rfl : place ++ [name] = archive := by simpa [hwalk true] using hw
  exact ⟨by simpa [hfile, eq_comm] using hc, Tree.seek_eq_ok_iff.2 ⟨hp, hwalk false⟩⟩

end Found

/-- When the archive has been copied and removed and the build tree replaced, everything outside
of the two is as it was when the copy was made. -/
theorem node?_outside {copied : Tree} (hw : copied.Written files place text)
    (hbuild : files.findEntry here (source / BuildTree.directoryName) = .ok (.found build))
    (ha : archive ≠ [])
    (he : (copied.remove archive).Empties here (source / BuildTree.directoryName) left)
    {other : Location} (hb : ¬ build <+: other) (haother : ¬ archive <+: other) :
    left.node? other = copied.node? other := by
  have hother : (copied.remove archive).node? other = copied.node? other := by
    rw [Tree.node?_remove ha, if_neg haother]
  cases he with
  | untouched => exact hother
  | @emptied entry _ hf houter _ _ =>
    -- the entry that is removed is that of the build tree
    have hlarger := Tree.findEntry_of_extends (Tree.extends_remove copied archive) hf
    have hsame := hw.seek_found hbuild
    obtain rfl : build = entry := by simpa [Tree.findEntry] using hsame.symm.trans hlarger
    rw [houter other hb, hother]

/-- **The copy is found next to the build tree** in all files that have it and in which nothing
outside of the build tree and the archive has changed. -/
theorem kept_of_outside (hname : IsEntryName name)
    (hbuild : files.findEntry here (source / BuildTree.directoryName) = .ok (.found build))
    (harchive : files.findEntry here (source / BuildTree.directoryName / name) =
      .ok (.found archive))
    (hwrites : ((files.remove build).remove archive).WritesAt here (source / name) place)
    (hcopy : left.node? place = some (.file text))
    (hsame : ∀ other, other ≠ place → ¬ build <+: other → ¬ archive <+: other →
      left.node? other = files.node? other) :
    Kept here source name text left := by
  obtain ⟨hb, -⟩ := Tree.findEntry_join_spec BuildTree.isEntryName_directoryName hbuild
  obtain ⟨ha, -⟩ := Tree.findEntry_join_spec hname harchive
  -- a tree with the copy and nothing of what is removed is part of the files
  obtain ⟨small, -, hw⟩ := Tree.exists_writeFile hwrites text
  have hextends : left.Extends small := by
    intro other entry hn
    rw [hw.node?_eq] at hn
    split at hn
    · rename_i he
      rw [he, hcopy, hn]
    · rename_i hne
      obtain ⟨hfiles, hbother, haother⟩ := node?_without hb ha hn
      rw [hsame other hne hbother haother, hfiles]
  exact .inl (Tree.textAt?_of_find
    (Tree.find_of_extends hextends (Tree.find_of_written hwrites hw)) hcopy)

/-- **Whatever becomes of the files, the archive is kept** if its new place is spared. -/
theorem Replaces.kept (h : Replaces here source name files left) (hname : IsEntryName name)
    (hn : archives here source files = [name])
    (htext : files.textAt? here (source / BuildTree.directoryName / name) = some text)
    (hs : Spared here source name files) : Kept here source name text left := by
  obtain ⟨build, hbuild⟩ := exists_build hname hn htext
  cases h with
  | unmoved hm =>
    cases hm with
    | unmoved => exact .inr htext
    | @copied _ archive place _ _ ho hc ht hw =>
      obtain ⟨rfl, harchive⟩ := findEntry_archive hname hn htext ho hc
      obtain ⟨-, -, hapart⟩ := hs.writesAt hname hbuild harchive ht
      have hne : archive ≠ place := fun he => hapart (he ▸ List.prefix_rfl)
      rw [if_neg hne] at hw
      exact .inl (Tree.textAt?_of_find (Tree.find_of_written ht hw)
        (by rw [hw.node?_eq, if_pos rfl]))
  | moved hm he =>
    cases hm with
    | @moved archive place entry _ copied ho hc ht hw hentry _ =>
      obtain ⟨rfl, harchive⟩ := findEntry_archive hname hn htext ho hc
      obtain ⟨hwrites, hbplace, hapart⟩ := hs.writesAt hname hbuild harchive ht
      have hne : archive ≠ place := fun he => hapart (he ▸ List.prefix_rfl)
      rw [if_neg hne] at hw
      obtain rfl : entry = archive := by
        have hsame := hw.seek_found harchive
        simpa [Tree.findEntry] using hentry.symm.trans hsame
      have hroot := (Tree.findEntry_join_spec hname harchive).1
      refine kept_of_outside hname hbuild harchive hwrites ?_ fun other hother hb ha => ?_
      · rw [node?_outside hw hbuild hroot he hbplace hapart, hw.node?_eq, if_pos rfl]
      · rw [node?_outside hw hbuild hroot he hb ha, hw.node?_eq, if_neg hother]

/-- **The stage keeps the archive** that it finds, whatever comes of the check of the tool, if the
place next to the build tree is spared. -/
theorem unpack_keeps (hname : IsEntryName name) (hn : archives host.here source files = [name])
    (htext : files.textAt? host.here (source / BuildTree.directoryName / name) = some text)
    (hquiet : (host.answer (.check "tar") files).reply.files = files)
    (hs : Spared host.here source name files) : Keeps host source name text files := by
  have hkept : ∀ {result left}, prepare host.here source name
      (host.answer (.check "tar") files).reply.files = (result, left) →
      Kept host.here source name text left := by
    intro result left hp
    have hreplaces := replaces_prepare host.here source name files
    rw [hquiet] at hp
    rw [hp] at hreplaces
    exact hreplaces.kept hname hn htext hs
  obtain ⟨result, made, left, hcourse⟩ := exists_course host source files
  obtain ⟨-, hmade, hleft⟩ := hcourse.ends.ended
  simp only [Keeps, hmade, hleft]
  cases hcourse with
  | nothing hn' => simp [hn] at hn'
  | several hn' => simp [hn] at hn'
  | unchecked _ _ =>
    refine ⟨by simp [Host.answer], fun _ => ?_⟩
    rw [hquiet]
    exact .inr htext
  | unprepared hn' _ hp =>
    obtain rfl : name = _ := by simpa [hn] using hn'
    exact ⟨by simp [Host.answer], fun _ => hkept hp⟩
  | @attempted _ prepared _ _ calls hn' _ hp ha =>
    obtain rfl : name = _ := by simpa [hn] using hn'
    obtain rfl : calls = [host.answer (.run (command source name)) prepared] := by
      cases ha with
      | stopped _ => rfl
      | next _ hdone =>
        cases hdone
        rfl
    refine ⟨fun call hc hrun => ?_, fun hnone => absurd rfl (hnone _ (List.mem_cons_of_mem _
      (List.mem_singleton_self _)))⟩
    rcases List.mem_cons.1 hc with rfl | hc
    · cases hrun
    · obtain rfl := List.mem_singleton.1 hc
      exact hkept hp

/-! ### Links next to the build tree -/

/-- The path of the source tree in the working directory. -/
def plainSource : Path := ⟨"llvm"⟩

/-- The build tree is a link, and so is what stands next to it, and both lead out of the source
tree. -/
def sharedFiles : Tree :=
  Change.applyAll [] [
    .file ⟨"work/LLVM-16.0.6-Linux.tar.gz"⟩ "package" 1,
    .directory ⟨"llvm"⟩,
    .directory ⟨"cache"⟩,
    .link ⟨"llvm/build"⟩ ⟨"../work"⟩,
    .link ⟨"llvm/LLVM-16.0.6-Linux.tar.gz"⟩ ⟨"../cache/package.tar.gz"⟩] .empty

theorem keeps_sharedFiles :
    Keeps idleWorkshop.host plainSource packageName "package" sharedFiles := by
  have hfound : archives [] plainSource sharedFiles = [packageName] ∧
      sharedFiles.textAt? [] (plainSource / BuildTree.directoryName / packageName) =
        some "package" ∧
      sharedFiles.findEntry [] (plainSource / BuildTree.directoryName) =
        .ok (.found ["llvm", "build"]) ∧
      sharedFiles.findEntry [] (plainSource / BuildTree.directoryName / packageName) =
        .ok (.found ["work", packageName]) ∧
      ((sharedFiles.remove ["llvm", "build"]).remove ["work", packageName]).find []
        (plainSource / packageName) = sharedFiles.find [] (plainSource / packageName) := by
    decide +kernel
  obtain ⟨hn, htext, hbuild, harchive, hsame⟩ := hfound
  have hspared : Spared [] plainSource packageName sharedFiles := by
    intro build archive arrival hb ha hf
    obtain rfl : ["llvm", "build"] = build := by simpa [hbuild] using hb
    obtain rfl : ["work", packageName] = archive := by simpa [harchive] using ha
    rw [hsame, hf]
  exact unpack_keeps isEntryName_packageName hn htext (by rw [reply_idleWorkshop]) hspared

/-- What stands next to the build tree is a link to the archive. -/
def linkedPackage : Tree :=
  Change.applyAll [] [
    .file ⟨"llvm/build/LLVM-16.0.6-Linux.tar.gz"⟩ "package" 1,
    .link ⟨"llvm/LLVM-16.0.6-Linux.tar.gz"⟩ ⟨"build/LLVM-16.0.6-Linux.tar.gz"⟩] .empty

/-- **An archive that is lost**: it is found and the check succeeds, but when the command that
unpacks it starts there is nothing to unpack. -/
theorem not_keeps_linkedPackage :
    archives [] plainSource linkedPackage = [packageName] ∧
      linkedPackage.textAt? [] (plainSource / BuildTree.directoryName / packageName) =
        some "package" ∧
      ((idleWorkshop.host.answer (.check "tar") linkedPackage).reply.files = linkedPackage) ∧
      ¬ Keeps idleWorkshop.host plainSource packageName "package" linkedPackage := by
  have hfound : archives [] plainSource linkedPackage = [packageName] ∧
      linkedPackage.textAt? [] (plainSource / BuildTree.directoryName / packageName) =
        some "package" ∧
      ¬ Keeps idleWorkshop.host plainSource packageName "package" linkedPackage := by
    decide +kernel
  exact ⟨hfound.1, hfound.2.1, by rw [reply_idleWorkshop], hfound.2.2⟩

end Package

end LlvmProvision
