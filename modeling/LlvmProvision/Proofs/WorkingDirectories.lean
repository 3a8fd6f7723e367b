import LlvmProvision.Proofs.AllOrNothing

/-!
# Where commands start

A command starts in a directory of its own (`Command.start`), and the paths among its arguments
are read from there and not from the working directory of the run.  So a path that the run takes
for itself does not lead a command to the same place as a matter of course.

* The command that unpacks the archive is given paths that the run takes, so it is led to the same
  places only if they do not depend on where they are read (`unpack_directs`).
* The command that configures a build is pointed at the sources beside the directory that it
  starts in.  That is where links have led to: the sources in the source tree are meant if the
  build tree is a real directory, or a link to a directory beside them (`complete_points`).
-/
namespace LlvmProvision

open Files Tools

/-- The directory that a command starts in. -/
def Tools.Command.start (command : Command) (here : Location) (files : Tree) :
    Except Fault Location :=
  match command.directory with
  | some directory => files.resolve here directory
  | none => .ok here

namespace Files.Tree

variable {tree : Tree} {here here' place : Location} {path : Path} {name : String}

/-- A path leads to the same from two directories if it begins at the same place. -/
theorem find_of_startOf (h : startOf path here = startOf path here') :
    tree.find here path = tree.find here' path := by
  simp only [find, seek, h]

theorem textAt?_of_startOf (h : startOf path here = startOf path here') :
    tree.textAt? here path = tree.textAt? here' path := by
  simp only [textAt?, h]

theorem startOf_join {part : String} (relative : Path.isAbsolute ⟨part⟩ = false)
    (nonempty : path.text ≠ "") : startOf (path / part) here = startOf path here := by
  rw [startOf, startOf, Path.isAbsolute_join relative nonempty]

theorem WritesAt.isLegal (h : tree.WritesAt here path place) : path.IsLegal := by
  cases h with
  | onto hf _ => exact (seek_eq_ok_iff.1 hf).1
  | anew hf => exact (seek_eq_ok_iff.1 hf).1

/-- There is nothing to be read in an empty directory. -/
theorem textAt?_of_none (h : tree.Leads here path place) (hname : IsEntryName name)
    (hn : tree.node? (place ++ [name]) = none) : tree.textAt? here (path / name) = none := by
  obtain ⟨fewer, -, hw⟩ := h.exists_walk_join hname true
  rw [textAt?, hw, walk_enter_of_none hname.short h.directory hn]

end Files.Tree

/-! ## The command that unpacks -/

namespace Package

variable {host : Host} {here place : Location} {source : Path} {name : String}
  {files checked prepared : Tree}

/-- **The command that unpacks is given the right paths**: from the directory `place` that it
starts in they lead to what they lead to for the run, the archive that has been moved and the
empty directory that has been made in place of the build tree. -/
structure Directed (here : Location) (source : Path) (name : String) (checked files : Tree)
    (archive build : Path) (place : Location) : Prop where
  archive_same : files.find place archive = files.find here (source / name)
  build_same : files.find place build = files.find here (source / BuildTree.directoryName)
  build_found : files.find here (source / BuildTree.directoryName) =
    .ok (.found (place ++ [BuildTree.directoryName]))
  build_made : files.node? (place ++ [BuildTree.directoryName]) = some .directory
  build_empty : ∀ inner, files.node? (place ++ [BuildTree.directoryName] ++ [inner]) = none
  /-- What is unpacked is what was found, if its new place is spared. -/
  archive_kept : IsEntryName name → archives here source checked = [name] →
    Spared here source name checked →
    ∃ text, checked.readFile? here (source / BuildTree.directoryName / name) = some text ∧
      files.readFile? place archive = some text

/-- Every command that the stage runs is given the right paths. -/
def Directs (host : Host) (source : Path) (files : Tree) : Prop :=
  ∀ call ∈ (unpack source host (.start files)).2.made, ∀ command, call.call = .run command →
    ∃ name archive build place,
      archives host.here source files = [name] ∧
      command.arguments =
        ["xf", archive.text, "--strip-components=1", "--directory=" ++ build.text] ∧
      command.start host.here call.files = .ok place ∧
      Directed host.here source name (host.answer (.check "tar") files).reply.files call.files
        archive build place

/-- The source tree is at `place`, and the build tree in it is an empty directory. -/
structure Vacant (here : Location) (source : Path) (files : Tree) (place : Location) : Prop where
  leads : files.Leads here source place
  legal : (source / BuildTree.directoryName).IsLegal
  made : files.node? (place ++ [BuildTree.directoryName]) = some .directory
  empty : ∀ inner, files.node? (place ++ [BuildTree.directoryName] ++ [inner]) = none

/-- When the stage has done its part, the source tree is where it was, and the build tree in it
is empty. -/
theorem vacant_of_prepare (hname : Archive.isArchiveName name = true)
    (h : prepare here source name files = (.ok (), prepared)) :
    ∃ place, files.Leads here source place ∧ Vacant here source prepared place := by
  obtain ⟨moved, removed, hmove, hremove, hcreate⟩ := exists_of_prepare h
  have hm := Tree.moves_moveFile hmove
  obtain ⟨origin, -, -, ho, -, -⟩ := hm.exists_origin
  obtain ⟨place, hplace, -, hlegal⟩ := exists_leads_of_archive hname ho
  obtain ⟨other, hother, hnone, rfl⟩ :=
    Tree.leads_of_createDirectory BuildTree.isEntryName_directoryName hcreate
  -- nothing is removed that the path of the source tree needs, since it still leads on
  have hlarger : moved.Extends removed := by
    have he := Tree.extends_removeDirectory moved here (source / BuildTree.directoryName)
    rwa [hremove] at he
  obtain rfl : place = other := (hm.leads hplace).unique (hother.of_extends hlarger)
  refine ⟨place, hplace, hother.of_extends (Tree.extends_of_createDirectory hcreate), hlegal,
    ?_, fun inner => ?_⟩
  · rw [Tree.node?_add hother.directory hnone, if_pos rfl]
  · rw [Tree.node?_add hother.directory hnone, if_neg (by simp), Tree.node?_below_of_none hnone]

/-- The archive that has been moved can be read, if its new place is spared. -/
theorem textAt?_of_prepare (hname : Archive.isArchiveName name = true) (hentry : IsEntryName name)
    (hn : archives here source files = [name]) (hs : Spared here source name files)
    (h : prepare here source name files = (.ok (), prepared)) :
    ∃ text, files.readFile? here (source / BuildTree.directoryName / name) = some text ∧
      prepared.textAt? here (source / name) = some text ∧ (source / name).IsLegal := by
  have hreplaces := replaces_prepare here source name files
  rw [h] at hreplaces
  obtain ⟨place, -, hvacant⟩ := vacant_of_prepare hname h
  obtain ⟨moved, -, hmove, -, -⟩ := exists_of_prepare h
  obtain ⟨origin, text, target, hfind, hfile, htarget⟩ :=
    (Tree.moves_moveFile hmove).exists_origin
  have hread : files.readFile? here (source / BuildTree.directoryName / name) = some text := by
    rw [Tree.readFile?, Tree.lookup?_eq_some_iff.2 ⟨origin, hfind, hfile⟩]
  refine ⟨text, hread, ?_, htarget.isLegal⟩
  rcases hreplaces.kept hentry hn (Tree.textAt?_of_find hfind hfile) hs with hkept | hinside
  · exact hkept
  · -- there is nothing in the build tree any more
    have hjoin := hvacant.leads.join BuildTree.isEntryName_directoryName hvacant.made
    rw [Tree.textAt?_of_none hjoin hentry (hvacant.empty name)] at hinside
    cases hinside

/-- **The paths mean the same to the command** if that of the source tree is absolute or leads to
the working directory of the run. -/
theorem directed_of_prepare (hname : Archive.isArchiveName name = true)
    (h : prepare here source name checked = (.ok (), prepared))
    (hstart : source.isAbsolute = true ∨ checked.find here source = .ok (.found here)) :
    ∃ place, prepared.resolve here source = .ok place ∧
      Directed here source name checked prepared (source / name)
        (source / BuildTree.directoryName) place := by
  have hdirectory := BuildTree.isEntryName_directoryName
  have hrelative := Archive.isAbsolute_of_isArchiveName hname
  obtain ⟨place, hchecked, hvacant⟩ := vacant_of_prepare hname h
  have hlegal : source.IsLegal := by
    rcases hstart with habsolute | hfound
    · refine hvacant.legal.of_join hdirectory.isAbsolute_eq ?_
      intro he
      simp [Path.isAbsolute, he] at habsolute
    · exact (Tree.seek_eq_ok_iff.1 hfound).1
  have hsame : Tree.startOf source place = Tree.startOf source here := by
    rcases hstart with habsolute | hfound
    · simp [Tree.startOf, habsolute]
    · obtain rfl : place = here := by simpa [hchecked.find_eq hlegal] using hfound
      rfl
  have harchive : Tree.startOf (source / name) place = Tree.startOf (source / name) here := by
    rw [Tree.startOf_join hrelative hlegal.nonempty, Tree.startOf_join hrelative hlegal.nonempty,
      hsame]
  refine ⟨place, Tree.resolve_eq_ok_iff.2 (hvacant.leads.find_eq hlegal), ?_⟩
  refine ⟨Tree.find_of_startOf harchive, Tree.find_of_startOf ?_,
    (hvacant.leads.join hdirectory hvacant.made).find_eq hvacant.legal, hvacant.made,
    hvacant.empty, ?_⟩
  · rw [hdirectory.startOf_join, hdirectory.startOf_join, hsame]
  · intro hentry hn hspared
    obtain ⟨text, hread, hkept, hshort⟩ := textAt?_of_prepare hname hentry hn hspared h
    exact ⟨text, hread, by rw [Tree.readFile?_eq_textAt? hshort, Tree.textAt?_of_startOf harchive,
      hkept]⟩

/-- **The command that unpacks is given the right paths** if that of the source tree is absolute
or leads to the working directory of the run. -/
theorem unpack_directs (hstart : source.isAbsolute = true ∨
      (host.answer (.check "tar") files).reply.files.find host.here source =
        .ok (.found host.here)) : Directs host source files := by
  intro call hc other hrun
  obtain ⟨result, made, left, hcourse⟩ := exists_course host source files
  obtain ⟨-, hmade, -⟩ := hcourse.ends.ended
  rw [hmade] at hc
  cases hcourse with
  | nothing _ => simp at hc
  | several _ => simp at hc
  | unchecked _ _ =>
    obtain rfl := List.mem_singleton.1 hc
    cases hrun
  | unprepared _ _ _ =>
    obtain rfl := List.mem_singleton.1 hc
    cases hrun
  | @attempted name prepared _ _ calls hn _ hp ha =>
    have hname := isArchiveName_of_archives hn
    rw [ha.made_singleton] at hc
    rcases List.mem_cons.1 hc with rfl | hc
    · cases hrun
    · obtain rfl := List.mem_singleton.1 hc
      cases hrun
      obtain ⟨place, hplace, hdirected⟩ := directed_of_prepare hname hp hstart
      exact ⟨name, source / name, source / BuildTree.directoryName, place, hn, rfl, hplace,
        hdirected⟩

theorem directs_packedFiles :
    Directs idleWorkshop.host ⟨"/llvm"⟩ packedFiles ∧
      ∃ call ∈ (unpack ⟨"/llvm"⟩ idleWorkshop.host (.start packedFiles)).2.made,
        call.call = .run (command ⟨"/llvm"⟩ packageName) :=
  ⟨unpack_directs (.inl (by decide)), by decide +kernel⟩

/-- **A command that is given the wrong paths**: the path of the source tree is relative to the
working directory of the run, and so are those that the command takes. -/
theorem not_directs_packedFiles : ¬ Directs idleWorkshop.host plainSource packedFiles := by
  intro h
  have hmade : archives [] plainSource packedFiles = [packageName] ∧
      ∃ call ∈ (unpack plainSource idleWorkshop.host (.start packedFiles)).2.made,
        call.call = .run (command plainSource packageName) ∧
        (command plainSource packageName).start [] call.files = .ok ["llvm"] ∧
        call.files.find ["llvm"] (plainSource / packageName) ≠
          call.files.find [] (plainSource / packageName) := by
    decide +kernel
  obtain ⟨hfound, call, hc, hrun, hstart, hother⟩ := hmade
  obtain ⟨name, ⟨archive⟩, build, place, hn, harguments, hplace, hdirected⟩ := h call hc _ hrun
  obtain rfl : name = packageName := by
    rw [show idleWorkshop.host.here = [] from rfl, hfound] at hn
    simpa using hn.symm
  obtain rfl : (plainSource / packageName).text = archive :=
    (List.cons.inj (List.cons.inj harguments).2).1
  obtain rfl : place = ["llvm"] := by
    rw [show idleWorkshop.host.here = [] from rfl, hstart] at hplace
    simpa using hplace.symm
  exact hother hdirected.archive_same

end Package

/-! ## The command that configures -/

namespace SourceTree

theorem isEntryName_directoryName : IsEntryName directoryName where
  filled := by decide
  not_dot := by decide
  not_dots := by decide
  unslashed := by decide
  clean := by decide
  short := by decide

end SourceTree

namespace BuildTree

variable {host : Host} {source : Path} {configuration : Configuration} {jobs : Nat}
  {files : Tree} {here build place : Location}

/-- **The sources in the source tree** are what the last argument leads to from a directory. -/
def Means (here : Location) (source : Path) (files : Tree) (build : Location) : Prop :=
  files.find build ⟨sources⟩ = files.find here (source / SourceTree.directoryName)

instance (here : Location) (source : Path) (files : Tree) (build : Location) :
    Decidable (Means here source files build) :=
  inferInstanceAs (Decidable (_ = _))

/-- What the last argument leads to from the directory `build`, which the path of the build tree
leads to. -/
structure Pointed (here : Location) (source : Path) (files : Tree) (build place : Location) :
    Prop where
  /-- It is what is called so beside that directory. -/
  beside : files.find build ⟨sources⟩ = files.find build.dropLast ⟨SourceTree.directoryName⟩
  tree : files.find here source = .ok (.found place)
  directory : files.node? place = some .directory
  /-- Where that is the source tree, the sources in it are meant, if their path can be taken. -/
  means : build.dropLast = place → Means here source files build ∨
    files.find here (source / SourceTree.directoryName) = .error (.system .tooManyLinks)
  /-- A build tree that is no link is in the source tree. -/
  inside : files.findEntry here (source / directoryName) = .ok (.found build) →
    build.dropLast = place

/-- The sources are looked for beside the directory that the walk starts in. -/
theorem find_sources (hd : files.node? build = some .directory) :
    files.find build ⟨sources⟩ = files.find build.dropLast ⟨SourceTree.directoryName⟩ := by
  have hsources : Path.IsLegal ⟨sources⟩ := ⟨by decide, by decide, by decide⟩
  have hsteps : Path.steps ⟨sources⟩ = [.up, .enter SourceTree.directoryName] := by decide
  have hrelative : Path.isAbsolute ⟨sources⟩ = false := by decide
  have hup : files.footing build .up = .moved build.dropLast := by
    simp [Tree.footing, hd]
  rw [SourceTree.isEntryName_directoryName.find_eq, Tree.find, Tree.seek_of_isLegal hsources,
    hsteps, Tree.startOf, hrelative, if_neg Bool.false_ne_true, Tree.walk_moved hup]

/-- The sources in the source tree have a shorter path than the build tree. -/
theorem isLegal_sources (hsource : source.IsLegal)
    (hbuild : (source / directoryName).IsLegal) :
    (source / SourceTree.directoryName).IsLegal := by
  have hname := SourceTree.isEntryName_directoryName
  refine hsource.join hname ?_
  have hshort := hbuild.short
  have hfive : directoryName.utf8ByteSize = 5 := by decide
  have hfour : SourceTree.directoryName.utf8ByteSize = 4 := by decide
  rw [Path.utf8ByteSize_join isEntryName_directoryName.isAbsolute_eq hsource.nonempty] at hshort
  rw [Path.utf8ByteSize_join hname.isAbsolute_eq hsource.nonempty]
  omega

/-- **What a command in the build tree is pointed at.** -/
theorem exists_pointed (hsource : source.IsLegal)
    (hb : files.find here (source / directoryName) = .ok (.found build))
    (hd : files.node? build = some .directory) :
    ∃ place, Pointed here source files build place := by
  have hname := SourceTree.isEntryName_directoryName
  have hdirectory := isEntryName_directoryName
  obtain ⟨hlegal, hw⟩ := Tree.seek_eq_ok_iff.1 hb
  rw [hdirectory.steps_join, hdirectory.startOf_join] at hw
  obtain ⟨place, hplace⟩ := Tree.exists_leads_of_walk (List.cons_ne_nil _ _) hw
  refine ⟨place, find_sources hd, hplace.find_eq hsource, hplace.directory, ?_, ?_⟩
  · -- from the source tree the same walk has fewer links left
    rintro rfl
    obtain ⟨fewer, hle, hrest⟩ := hplace.exists_walk_join hname true
    rw [Means, find_sources hd, hname.find_eq, Tree.find,
      Tree.seek_of_isLegal (isLegal_sources hsource hlegal), hrest]
    rcases Tree.walk_of_le _ _ _ _ hle with he | he
    · exact .inr (by rw [he]; rfl)
    · exact .inl (by rw [he])
  · intro hentry
    obtain ⟨-, hunfollowed⟩ := Tree.seek_eq_ok_iff.1 hentry
    obtain ⟨fewer, -, hrest⟩ := hplace.exists_walk_join hdirectory false
    rw [hrest] at hunfollowed
    rw [Tree.place_of_walk_enter hunfollowed, List.dropLast_concat]

/-- **Whenever a build is configured**, and the command starts in a directory, this holds of the
files and of that directory. -/
def WhenConfigured (host : Host) (source : Path) (configuration : Configuration) (jobs : Nat)
    (files : Tree) (holds : Tree → Location → Prop) : Prop :=
  ∀ call ∈ (complete source configuration jobs host (.start files)).2.made,
    call.call = .run (configureCommand (source / directoryName) configuration) →
    ∀ build, (configureCommand (source / directoryName) configuration).start host.here call.files =
        .ok build →
      call.files.node? build = some .directory → holds call.files build

/-- Calls are made only if there is something at the path of the source tree. -/
theorem Course.isLegal {result : Except Error Path} {made : List Made} {left : Tree}
    (h : Course host source configuration jobs files result made left) {call : Made}
    (hc : call ∈ made) : source.IsLegal := by
  cases h with
  | sourceless _ => simp at hc
  | unprepared _ _ => simp at hc
  | finished _ _ _ => simp at hc
  | attempted hs _ _ _ =>
    obtain ⟨place, entry, hf, -⟩ := Tree.isPresent_iff.1 hs
    exact (Tree.seek_eq_ok_iff.1 hf).1

/-- **The command that configures is pointed at the sources beside its directory**, and these are
the sources in the source tree if its directory is in the source tree, as it is if it is no link,
or else that path takes too many links. -/
theorem complete_points (host : Host) (source : Path) (configuration : Configuration) (jobs : Nat)
    (files : Tree) :
    (configureCommand (source / directoryName) configuration).arguments.getLast? = some sources ∧
      WhenConfigured host source configuration jobs files fun files build =>
        ∃ place, Pointed host.here source files build place := by
  refine ⟨by simp [configureCommand, configureArguments], fun call hc _ build hstart hd => ?_⟩
  obtain ⟨result, made, left, hcourse⟩ := exists_course host source configuration jobs files
  obtain ⟨-, hmade, -⟩ := hcourse.ends.ended
  rw [hmade] at hc
  have hfind : call.files.find host.here (source / directoryName) = .ok (.found build) :=
    Tree.resolve_eq_ok_iff.1 hstart
  exact exists_pointed (hcourse.isLegal hc) hfind hd

/-- The build tree is a link that leads out of the source tree. -/
def linkedBuild : Tree :=
  Change.applyAll [] [
    .directory ⟨"llvm/llvm"⟩,
    .directory ⟨"work"⟩,
    .link ⟨"llvm/build"⟩ ⟨"../work"⟩] .empty

/-- **A build that is configured from elsewhere**: beside the directory that the build tree is a
link to, `llvm` is not the sources but the source tree. -/
theorem not_means_linkedBuild :
    ¬ WhenConfigured Package.idleWorkshop.host Package.plainSource (.ofLists [] []) 1 linkedBuild
      fun files build => Means [] Package.plainSource files build := by
  intro h
  have hmade : ∃ call ∈ (complete Package.plainSource (.ofLists [] []) 1 Package.idleWorkshop.host
        (.start linkedBuild)).2.made,
      call.call = .run (configureCommand (Package.plainSource / directoryName) (.ofLists [] [])) ∧
      (configureCommand (Package.plainSource / directoryName) (.ofLists [] [])).start [] call.files =
        .ok ["work"] ∧
      call.files.node? ["work"] = some .directory ∧
      ¬ Means [] Package.plainSource call.files ["work"] := by
    decide +kernel
  obtain ⟨call, hc, hrun, hstart, hd, hmeans⟩ := hmade
  exact hmeans (h call hc hrun ["work"] hstart hd)

/-- A link in a chain of them. -/
def chainName (count : Nat) : String := "link" ++ toString count

/-- The source tree behind as many links as one walk may follow.  The sources are a link as
well, and so out of reach behind the chain. -/
def chainedSource : Tree where
  nodes := [(["llvm"], .directory), (["llvm", "build"], .directory), (["core"], .directory),
    (["llvm", "llvm"], .link ⟨"../core"⟩), ([chainName 0], .link ⟨"llvm"⟩)] ++
    (List.range 39).map fun count => ([chainName (count + 1)], .link ⟨chainName count⟩)
  distinct := by decide +kernel
  rooted := by decide +kernel

/-- From the build tree, a real directory, the sources can be reached, but not by their path. -/
theorem not_means_chainedSource :
    ¬ WhenConfigured Package.idleWorkshop.host ⟨chainName 39⟩ (.ofLists [] []) 1 chainedSource
      fun files build => Means [] ⟨chainName 39⟩ files build := by
  intro h
  have hmade : ∃ call ∈ (complete ⟨chainName 39⟩ (.ofLists [] []) 1 Package.idleWorkshop.host
        (.start chainedSource)).2.made,
      call.call = .run (configureCommand ((⟨chainName 39⟩ : Path) / directoryName)
        (.ofLists [] [])) ∧
      (configureCommand ((⟨chainName 39⟩ : Path) / directoryName) (.ofLists [] [])).start []
        call.files = .ok ["llvm", "build"] ∧
      call.files.node? ["llvm", "build"] = some .directory ∧
      ¬ Means [] ⟨chainName 39⟩ call.files ["llvm", "build"] := by
    decide +kernel
  obtain ⟨call, hc, hrun, hstart, hd, hmeans⟩ := hmade
  exact hmeans (h call hc hrun ["llvm", "build"] hstart hd)

end BuildTree

end LlvmProvision
