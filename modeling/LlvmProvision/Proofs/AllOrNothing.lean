import LlvmProvision.Proofs.JoinedPaths
import LlvmProvision.Proofs.Keeping

/-!
# Unpacking all or nothing

The last stage changes files itself: it moves the archive and replaces the build tree.  Unless it
gets as far as to run the command that unpacks the archive, nothing of this has happened, and the
files are as the check of the tool left them (`unpack_all_or_nothing`).

* A file that cannot be moved is not touched (`Tree.moveFile_of_error`): the target is only opened
  when all else is clear, and once there is a copy the source can be removed.
* After a file has been moved, what led on to a directory still does (`Tree.Moves.node?_eq`).  So
  the path of the source tree leads where it did, and the build tree can be replaced
  (`exists_replaced_of_moves`), unless that path itself leads through the build tree
  (`LeadsPast`).
-/
namespace LlvmProvision

open Files Tools

namespace Files.Tree

variable {tree moved left : Tree} {here origin : Location} {path source target : Path}
  {text name : String} {fault : MoveFault}

/-- **A file that is found can be removed**, and so can a link to it. -/
theorem exists_removeFile (ho : tree.find here path = .ok (.found origin))
    (hn : tree.node? origin = some (.file text)) :
    ∃ entry, tree.findEntry here path = .ok (.found entry) ∧ ¬ tree.LeadsOn entry ∧
      tree.removeFile here path = .ok (tree.remove entry) := by
  obtain ⟨hp, hw⟩ := seek_eq_ok_iff.1 ho
  obtain ⟨entry, hentry, hcases⟩ := walk_unfollowed_spec hw
  have hfound : tree.findEntry here path = .ok (.found entry) := seek_eq_ok_iff.2 ⟨hp, hentry⟩
  have hon : ¬ tree.LeadsOn entry := by
    refine not_leadsOn_of_file hn ?_
    rcases hcases with he | ⟨target, links, hlink, hwalk⟩
    · exact .inl he
    · exact .inr ⟨target, links, hlink, hwalk⟩
  refine ⟨entry, hfound, hon, ?_⟩
  have hfile : tree.node? entry ≠ some .directory := fun hd => hon (.inl hd)
  simp only [removeFile, hfound]

/-- **A file that cannot be moved is not touched.** -/
theorem moveFile_of_error (h : tree.moveFile here source target = (.error fault, left)) :
    left = tree := by
  rw [moveFile] at h
  split at h
  · cases h
    rfl
  · rename_i text hl
    obtain ⟨origin, ho, hn⟩ := lookup?_eq_some_iff.1 hl
    split at h
    · cases h
      rfl
    · rename_i copied hc
      -- once there is a copy, the source is still a file and can be removed
      obtain ⟨place, ht⟩ := exists_writesAt_of_copyFile hc
      obtain ⟨same, hs, hw⟩ := copyFile_of_writesAt ho hn ht
      obtain rfl : same = copied := by simpa [hc, eq_comm] using hs
      obtain ⟨kept, hkept⟩ : ∃ kept, same.node? origin = some (.file kept) := by
        rw [hw.node?_eq]
        split
        · exact ⟨_, rfl⟩
        · exact ⟨text, hn⟩
      have hsource : same.find here source = .ok (.found origin) := hw.seek_found ho
      obtain ⟨entry, -, -, hr⟩ := exists_removeFile hsource hkept
      rw [hr] at h
      cases h
  · cases h
    rfl

/-- A file that was moved was there, and there was a place for it. -/
theorem Moves.exists_origin (h : tree.Moves here source target (.ok ()) moved) :
    ∃ origin text place, tree.find here source = .ok (.found origin) ∧
      tree.node? origin = some (.file text) ∧ tree.WritesAt here target place := by
  cases h with
  | moved ho hn ht => exact ⟨_, _, _, ho, hn, ht⟩

/-- **When a file is moved**, whatever leads on to a directory stays. -/
theorem Moves.node?_eq (h : tree.Moves here source target (.ok ()) moved) {between : Location}
    (hon : tree.LeadsOn between) : moved.node? between = tree.node? between := by
  cases h with
  | @moved origin place entry text copied ho hn ht hw he hd =>
    obtain ⟨entry', he', hentry, -⟩ := exists_removeFile ho hn
    obtain rfl : entry' = entry := by
      have hsame : copied.findEntry here source = .ok (.found entry') := hw.seek_found he'
      simpa [he, eq_comm] using hsame
    have hroot : entry' ≠ [] := by
      rintro rfl
      exact hentry (.inl (node?_root tree))
    have hplace : between ≠ place := by
      rintro rfl
      rcases hw.before with hnone | ⟨old, hold⟩
      · obtain ⟨other, hother⟩ := hon.exists_node?
        rw [hnone] at hother
        cases hother
      · exact not_leadsOn_of_file hold (.inl rfl) hon
    rw [node?_remove hroot, if_neg (hon.not_below hentry), hw.node?_eq, if_neg hplace]

theorem Moves.leads (h : tree.Moves here source target (.ok ()) moved) {place : Location}
    (hl : tree.Leads here path place) : moved.Leads here path place :=
  hl.of_trail fun between hm => h.node?_eq (leadsOn_of_mem_trail hl.walk hl.directory between hm)

/-- A directory inside another one is on the way to itself. -/
theorem Leads.leadsOn_join {parent place : Location} (h : tree.Leads here path parent)
    (hname : IsEntryName name) (hjoin : tree.Leads here (path / name) place) :
    tree.LeadsOn (parent ++ [name]) := by
  obtain ⟨fewer, -, hw⟩ := h.exists_walk_join hname true
  have hinner := hjoin.walk
  rw [hname.entrySteps_join, ← hname.steps_join, hw] at hinner
  refine leadsOn_of_mem_trail hinner hjoin.directory _ ?_
  rw [trail]
  exact List.mem_append_left _ (by simp [strideTrail, Step.aim])

end Files.Tree

theorem Archive.names_ne_nil {name : String} (h : isArchiveName name = true) :
    Path.names ⟨name⟩ ≠ [] := by
  obtain ⟨rest, hr⟩ := exists_of_isArchiveName h
  obtain ⟨inner, hinner⟩ : ∃ inner, name.toList = 'L' :: inner := ⟨_, hr⟩
  obtain ⟨part, parts, hs⟩ := List.exists_cons_of_ne_nil (Text.splitAt_ne_nil '/' inner)
  have hfields : Text.fields '/' name = String.ofList ('L' :: part) :: parts.map String.ofList := by
    simp [Text.fields, hinner, Text.splitAt, hs]
  simp [Path.names, hfields]

namespace Package

/-- **The path of the source tree does not lead through the build tree**, nor through the link in
its place. -/
def LeadsPast (here : Location) (source : Path) (files : Tree) : Prop :=
  ∀ build, files.findEntry here (source / BuildTree.directoryName) = .ok (.found build) →
    ¬ files.LeadsThrough here source build

instance (here : Location) (source : Path) (files : Tree) : Decidable (LeadsPast here source files) :=
  match h : files.findEntry here (source / BuildTree.directoryName) with
  | .ok (.found build) =>
    decidable_of_iff (¬ files.LeadsThrough here source build) (by simp [LeadsPast, h])
  | .ok (.missing ..) => isTrue (by simp [LeadsPast, h])
  | .error _ => isTrue (by simp [LeadsPast, h])

variable {host : Host} {here origin : Location} {source : Path} {name : String}
  {files moved left : Tree} {error : Error}

/-- Where the archive is found, there are a source tree and something that leads to the build
tree. -/
theorem exists_leads_of_archive (hname : Archive.isArchiveName name = true)
    (ho : files.find here (source / BuildTree.directoryName / name) = .ok (.found origin)) :
    ∃ place, files.Leads here source place ∧
      files.LeadsOn (place ++ [BuildTree.directoryName]) ∧
      (source / BuildTree.directoryName).IsLegal := by
  have hdirectory := BuildTree.isEntryName_directoryName
  have hrelative := Archive.isAbsolute_of_isArchiveName hname
  have hnamed := Archive.names_ne_nil hname
  have hnonempty := BuildTree.build_ne_empty source
  obtain ⟨hp, hw⟩ := Tree.seek_eq_ok_iff.1 ho
  rw [Path.steps_join hrelative hnonempty hnamed, Tree.startOf,
    Path.isAbsolute_join hrelative hnonempty] at hw
  have hsteps : Path.steps ⟨name⟩ ≠ [] := by
    simp only [Path.steps, Path.entrySteps]
    split
    · simp
    · simpa using hnamed
  obtain ⟨build, hbuild⟩ := Tree.exists_leads_of_walk hsteps hw
  have hinner := hbuild.walk
  rw [hdirectory.entrySteps_join, hdirectory.startOf_join] at hinner
  obtain ⟨place, hplace⟩ := Tree.exists_leads_of_walk (List.cons_ne_nil _ _) hinner
  exact ⟨place, hplace, hplace.leadsOn_join hdirectory hbuild, hp.of_join hrelative hnonempty⟩

/-- **Once the archive has been moved, the build tree can be replaced.** -/
theorem exists_replaced_of_moves (hname : Archive.isArchiveName name = true)
    (hm : files.Moves here (source / BuildTree.directoryName / name) (source / name) (.ok ()) moved)
    (hpast : LeadsPast here source files) :
    ∃ place removed made, files.Leads here source place ∧
      moved.LeadsDespite here source place (place ++ [BuildTree.directoryName]) ∧
      moved.removeDirectory here (source / BuildTree.directoryName) = (.ok (), removed) ∧
      removed.createDirectory here (source / BuildTree.directoryName) = .ok made ∧
      ∀ inner, made.node? inner =
        if inner = place ++ [BuildTree.directoryName] then some .directory
        else if place ++ [BuildTree.directoryName] <+: inner then none else moved.node? inner := by
  have hdirectory := BuildTree.isEntryName_directoryName
  obtain ⟨origin, -, -, ho, -, -⟩ := hm.exists_origin
  obtain ⟨place, hplace, hon, hlegal⟩ := exists_leads_of_archive hname ho
  obtain ⟨entry, hentry⟩ := hon.exists_node?
  have hthrough := hpast _ (hplace.findEntry_join hdirectory hlegal hentry)
  have hdespite : moved.LeadsDespite here source place (place ++ [BuildTree.directoryName]) :=
    fun other hother => hplace.of_same hthrough fun between hb hp => by
      rw [hother between hp, hm.node?_eq hb]
  have hbuild : moved.node? (place ++ [BuildTree.directoryName]) = some .directory ∨
      ∃ target, moved.node? (place ++ [BuildTree.directoryName]) = some (.link target) := by
    rw [hm.node?_eq hon]
    rcases hon with hd | ⟨target, -, -, hlink, -⟩
    · exact .inl hd
    · exact .inr ⟨target, hlink⟩
  obtain ⟨removed, made, hremove, hcreate, hview⟩ :=
    hdespite.exists_replaced hdirectory hlegal hbuild
  exact ⟨place, removed, made, hplace, hdespite, hremove, hcreate, hview⟩

/-- **What the stage does itself fails only with the move**, and then nothing is changed. -/
theorem prepare_of_error (hname : Archive.isArchiveName name = true)
    (hpast : LeadsPast here source files)
    (h : prepare here source name files = (.error error, left)) :
    left = files ∧ ∃ fault, error = .notMoved (source / BuildTree.directoryName / name) fault := by
  unfold prepare at h
  split at h
  · rename_i fault other hmove
    cases h
    exact ⟨Tree.moveFile_of_error hmove, fault, rfl⟩
  · rename_i moved hmove
    obtain ⟨-, removed, made, -, -, hremove, hcreate, -⟩ :=
      exists_replaced_of_moves hname (Tree.moves_moveFile hmove) hpast
    rw [hremove] at h
    dsimp only at h
    rw [hcreate] at h
    cases h

/-! ## The whole stage -/

/-- **A command was run**, and not only the tool checked. -/
def Executed (made : List Made) : Prop := ∃ call ∈ made, ∃ command, call.call = .run command

/-- What may keep the stage from unpacking, given the calls that were made by then. -/
def Hinders (host : Host) (source : Path) (files : Tree) (made : List Made) (error : Error) :
    Prop :=
  (made = [] ∧ 2 ≤ (archives host.here source files).length ∧
      error = .ambiguousArchive ((archives host.here source files).map
        (source / BuildTree.directoryName / ·))) ∨
    (made = [host.answer (.check "tar") files] ∧
      ∃ name, archives host.here source files = [name] ∧
        (error = .toolMissing "tar" ∨
          ∃ fault, error = .notMoved (source / BuildTree.directoryName / name) fault))

variable {result : Except Error (Option Path)} {made : List Made}

/-- A check that fails says that the tool is missing. -/
theorem eq_toolMissing_of_verdict {tool : String}
    (h : (host.answer (.check tool) files).verdict = .error error) : error = .toolMissing tool := by
  simp only [Made.verdict, Host.answer] at h
  split at h
  · cases h
  · cases h
    rfl

/-- With no archive, or with several, the tool is not even looked for. -/
theorem Course.of_length (h : Course host source files result made left)
    (hn : (archives host.here source files).length ≠ 1) : made = [] ∧ left = files := by
  cases h with
  | nothing _ => exact ⟨rfl, rfl⟩
  | several _ => exact ⟨rfl, rfl⟩
  | unchecked hn' _ => exact absurd (by rw [hn', List.length_singleton]) hn
  | unprepared hn' _ _ => exact absurd (by rw [hn', List.length_singleton]) hn
  | attempted hn' _ _ _ => exact absurd (by rw [hn', List.length_singleton]) hn

theorem Course.not_executed_of_none (h : Course host source files (.ok none) made left) :
    ¬ Executed made := by
  generalize hr : Except.ok none = result at h
  cases h with
  | nothing _ => simp [Executed]
  | several _ => cases hr
  | unchecked _ _ => cases hr
  | unprepared _ _ _ => cases hr
  | @attempted _ _ _ result _ _ _ _ _ => cases result <;> cases hr

/-- **A course without a command** leaves the files as they were, or as the check left them, and
fails for one of three reasons. -/
theorem Course.of_not_executed (h : Course host source files result made left)
    (hpast : LeadsPast host.here source (host.answer (.check "tar") files).reply.files)
    (hnone : ¬ Executed made) :
    (made = [] ∧ left = files ∨ made = [host.answer (.check "tar") files] ∧
        left = (host.answer (.check "tar") files).reply.files) ∧
      ∀ error, result = .error error → Hinders host source files made error := by
  cases h with
  | nothing _ => exact ⟨.inl ⟨rfl, rfl⟩, fun error he => by cases he⟩
  | several hn =>
    refine ⟨.inl ⟨rfl, rfl⟩, fun error he => ?_⟩
    cases he
    exact .inl ⟨rfl, hn, rfl⟩
  | @unchecked name _ hn hv =>
    refine ⟨.inr ⟨rfl, rfl⟩, fun error he => ?_⟩
    cases he
    exact .inr ⟨rfl, name, hn, .inl (eq_toolMissing_of_verdict hv)⟩
  | @unprepared name _ _ hn hv hp =>
    have hname := isArchiveName_of_archives hn
    obtain ⟨rfl, fault, rfl⟩ := prepare_of_error hname hpast hp
    refine ⟨.inr ⟨rfl, rfl⟩, fun error he => ?_⟩
    cases he
    exact .inr ⟨rfl, name, hn, .inr ⟨fault, rfl⟩⟩
  | @attempted name prepared _ _ calls hn hv hp ha =>
    have hrun : host.answer (.run (command source name)) prepared ∈ calls := by
      rw [ha.made_singleton]
      exact List.mem_singleton_self _
    exact absurd ⟨_, List.mem_cons_of_mem _ hrun, command source name, rfl⟩ hnone

/-- **Unpacking is all or nothing.**  If there is nothing to unpack, or if the stage fails before
it runs the command that unpacks, the files are those of the beginning, with what the check of the
tool did to them if it was made; with no archive or several it is not made. -/
theorem unpack_all_or_nothing
    (hpast : LeadsPast host.here source (host.answer (.check "tar") files).reply.files) :
    let ended := unpack source host (.start files)
    ((archives host.here source files).length ≠ 1 →
        ended.2.made = [] ∧ ended.2.files = files) ∧
      (ended.1 = .ok none ∨ (∃ error, ended.1 = .error error) ∧ ¬ Executed ended.2.made →
        (ended.2.made = [] ∧ ended.2.files = files ∨
            ended.2.made = [host.answer (.check "tar") files] ∧
              ended.2.files = (host.answer (.check "tar") files).reply.files) ∧
          ∀ error, ended.1 = .error error → Hinders host source files ended.2.made error) := by
  intro ended
  obtain ⟨result, made, left, hcourse⟩ := exists_course host source files
  obtain ⟨hresult, hmade, hleft⟩ := hcourse.ends.ended
  have hsame : ended = unpack source host (.start files) := rfl
  rw [← hsame] at hresult hmade hleft
  rw [hresult, hmade, hleft]
  refine ⟨hcourse.of_length, fun hstop => hcourse.of_not_executed hpast ?_⟩
  rcases hstop with rfl | ⟨-, hnone⟩
  · exact hcourse.not_executed_of_none
  · exact hnone

/-- A directory stands where the archive is to be moved. -/
def blockedFiles : Tree :=
  Change.applyAll [] [
    .file ⟨"llvm/build/LLVM-16.0.6-Linux.tar.gz"⟩ "package" 1,
    .directory ⟨"llvm/LLVM-16.0.6-Linux.tar.gz"⟩] .empty

theorem unpack_blockedFiles :
    let ended := unpack plainSource idleWorkshop.host (.start blockedFiles)
    LeadsPast [] plainSource blockedFiles ∧
      ended.1 = .error (.notMoved (plainSource / BuildTree.directoryName / packageName)
        (.refused (.system .isDirectory))) ∧
      ended.2.made.length = 1 ∧ ended.2.files = blockedFiles := by
  have hquiet : (idleWorkshop.host.answer (.check "tar") blockedFiles).reply.files =
      blockedFiles := by
    rw [reply_idleWorkshop]
  have hpast : LeadsPast [] plainSource blockedFiles := by decide +kernel
  have hended :
      let ended := unpack plainSource idleWorkshop.host (.start blockedFiles)
      ended.1 = .error (.notMoved (plainSource / BuildTree.directoryName / packageName)
        (.refused (.system .isDirectory))) ∧ ended.2.made.length = 1 ∧
      ∀ call ∈ ended.2.made, call.call = .check "tar" := by
    decide +kernel
  obtain ⟨hresult, hlength, hcalls⟩ := hended
  have hnone : ¬ Executed (unpack plainSource idleWorkshop.host (.start blockedFiles)).2.made := by
    rintro ⟨call, hc, command, hrun⟩
    rw [hcalls call hc] at hrun
    cases hrun
  have hpast' : LeadsPast idleWorkshop.host.here plainSource
      (idleWorkshop.host.answer (.check "tar") blockedFiles).reply.files := by
    rw [hquiet]
    exact hpast
  have hleft := ((unpack_all_or_nothing hpast').2 (.inr ⟨⟨_, hresult⟩, hnone⟩)).1
  rw [hquiet] at hleft
  refine ⟨hpast, hresult, hlength, ?_⟩
  rcases hleft with ⟨-, hfiles⟩ | ⟨-, hfiles⟩
  · exact hfiles
  · exact hfiles

end Package

end LlvmProvision
