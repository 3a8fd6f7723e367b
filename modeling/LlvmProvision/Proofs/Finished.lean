import LlvmProvision.Proofs.ArchiveNames
import LlvmProvision.Proofs.Marker
import LlvmProvision.Proofs.Rounds
import LlvmProvision.Rehearsal.Stage

/-!
# Finished trees

A dependency root is finished (`Finished`) if it is a directory with the marker below it and
without an archive that is still to be unpacked.  The main result is `idle_iff_finished`: these
are exactly the trees on which a run succeeds without a call, whatever the host is and whatever
else the run is asked for.

Of all courses of a run only one makes no call and succeeds: the sources are kept, the marker is
found, and there is nothing to unpack (`Course.idle_iff`).  It leaves the files as they were once
the root was made, so if the root was there before, the next run finds the same files and takes
the same course.
-/
namespace LlvmProvision

open Files Tools

variable {host : Host} {here root : Location} {files left rooted : Tree}

/-! ## Stages without a call -/

theorem Attempted.ne_nil {call : Call} {calls : List Call} {result : Except Error Unit}
    {made : List Made} (h : Attempted host (call :: calls) files result made left) : made ≠ [] := by
  cases h <;> simp

theorem SourceTree.Course.of_silent {path source : Path} {url branch : String}
    (h : Course host path url branch files (.ok source) [] left) :
    ∃ root, prepare host.here path files = (.ok root, left) ∧
      source = root.path / directoryName := by
  generalize hr : Except.ok source = result at h
  generalize hm : [] = made at h
  cases h with
  | unprepared _ => cases hr
  | kept hp _ =>
    cases hr
    exact ⟨_, hp, rfl⟩
  | attempted _ _ ha => exact absurd hm.symm ha.ne_nil

theorem BuildTree.Course.of_silent {source build : Path} {configuration : Configuration}
    {jobs : Nat} (h : Course host source configuration jobs files (.ok build) [] left) :
    left = files ∧
      files.isPresent host.here (source / directoryName / BuildTree.marker) = true := by
  generalize hr : Except.ok build = result at h
  generalize hm : [] = made at h
  cases h with
  | sourceless _ => cases hr
  | unprepared _ _ => cases hr
  | finished _ hp hmarker =>
    rw [isPresent_marker_prepare (build_ne_empty source) hp] at hmarker
    rw [prepare_of_marker (build_ne_empty source) hmarker] at hp
    cases hp
    exact ⟨rfl, hmarker⟩
  | attempted _ _ _ ha => exact absurd hm.symm ha.ne_nil

theorem Package.Course.of_silent {source : Path} {package : Option Path}
    (h : Course host source files (.ok package) [] left) :
    left = files ∧ archives host.here source files = [] := by
  generalize hr : Except.ok package = result at h
  generalize hm : [] = made at h
  cases h with
  | nothing hn => exact ⟨rfl, hn⟩
  | several _ => cases hr
  | unchecked _ _ => cases hr
  | unprepared _ _ _ => cases hr
  | attempted _ _ _ _ => cases hm

namespace Package

/-- There is no archive exactly if no file of the build tree is named like one.  A build tree
that is not there holds none. -/
theorem archives_eq_nil_iff {source : Path} : archives here source files = [] ↔
    ∀ place name text, files.resolve here (source / BuildTree.directoryName) = .ok place →
      files.node? (place ++ [name]) = some (.file text) → Archive.isArchiveName name = false := by
  rw [List.eq_nil_iff_forall_not_mem]
  simp only [mem_archives_iff]
  constructor
  · intro h place name text hresolve hn
    rw [Bool.eq_false_iff]
    exact fun ha => h name ⟨ha, place, text, hresolve, hn⟩
  · rintro h name ⟨ha, place, text, hresolve, hn⟩
    rw [h place name text hresolve hn] at ha
    cases ha

end Package

theorem SourceTree.prepare_eq_ok_iff {path : Path} :
    prepare here path files = (.ok root, rooted) ↔
      files.createAll here path = (.ok (), rooted) ∧
        rooted.resolveFromRoot here path = .ok root := by
  rw [prepare]
  split
  · simp_all
  · rename_i made hc
    rw [hc]
    cases hr : made.resolveFromRoot here path with
    | error fault =>
      simp only [Prod.mk.injEq, true_and, reduceCtorEq, false_and, false_iff]
      rintro ⟨rfl, h⟩
      rw [hr] at h
      cases h
    | ok place =>
      simp only [Prod.mk.injEq, Except.ok.injEq, true_and]
      constructor
      · rintro ⟨rfl, rfl⟩
        exact ⟨rfl, hr⟩
      · rintro ⟨rfl, h⟩
        rw [hr] at h
        cases h
        exact ⟨rfl, rfl⟩

namespace Provision

variable {request : Request}

/-- **A finished dependency root.**  The marker may be reached through links, and an archive is a
file that lies directly in the build tree and has the name of an archive. -/
structure Finished (here : Location) (files : Tree) (root : Location) : Prop where
  directory : files.node? root = some .directory
  marker : files.isPresent here
    (root.path / SourceTree.directoryName / BuildTree.directoryName / BuildTree.marker) = true
  unpacked : ∀ place name text,
    files.resolve here (root.path / SourceTree.directoryName / BuildTree.directoryName) =
      .ok place →
    files.node? (place ++ [name]) = some (.file text) → Archive.isArchiveName name = false

/-- The sources are there as well. -/
theorem Finished.isPresent_source (h : Finished here files root) :
    files.isPresent here (root.path / SourceTree.directoryName) = true :=
  BuildTree.isPresent_source_of_marker (BuildTree.source_ne_empty _) h.marker

/-- **The one course without a call that succeeds.** -/
theorem Course.idle_iff : Course host request files (.ok ()) [] left ↔
    ∃ root, SourceTree.prepare host.here request.root files = (.ok root, left) ∧
      Finished host.here left root := by
  constructor
  · intro h
    obtain ⟨source, fetching, fetched, build, building, built, package, unpacking, hf, hb, hu,
      hm⟩ := h.of_ok
    obtain ⟨rfl, rfl, rfl⟩ : fetching = [] ∧ building = [] ∧ unpacking = [] := by
      simpa using hm.symm
    obtain ⟨root, hp, rfl⟩ := hf.of_silent
    obtain ⟨rfl, hmarker⟩ := hb.of_silent
    obtain ⟨rfl, hn⟩ := hu.of_silent
    exact ⟨root, hp, (SourceTree.prepare_spec hp).2, hmarker, Package.archives_eq_nil_iff.1 hn⟩
  · rintro ⟨root, hp, hd⟩
    have hs := hd.isPresent_source
    have hb := BuildTree.prepare_of_marker (BuildTree.build_ne_empty _) hd.marker
    have hn := Package.archives_eq_nil_iff.2 hd.unpacked
    exact .built (.kept hp hs) (.finished hs hb hd.marker) (.nothing hn)

/-- A dependency root that is a finished tree already is passed over by every round on it. -/
theorem Finished.next_eq {past : Past} {round : Round}
    (h : Finished round.host.here past.files root)
    (hr : past.files.resolveFromRoot round.host.here round.request.root = .ok root) :
    past.next round = { past with results := past.results ++ [.ok ()] } := by
  have hp := SourceTree.prepare_of_resolved hr h.directory
  rw [Past.next_of_course (Course.idle_iff.2 ⟨root, hp, h⟩), List.append_nil]

/-- However many rounds there are. -/
theorem Finished.after_spec {path : Path} {rounds : List Round}
    (h : Finished here files root) (hr : files.resolveFromRoot here path = .ok root)
    (hsame : ∀ round ∈ rounds, round.host.here = here ∧ round.request.root = path) :
    let past := (Past.start files).after rounds
    past.files = files ∧ past.made = [] ∧ ∀ result ∈ past.results, result = .ok () := by
  intro past
  refine Past.after_induction (motive := fun past =>
    past.files = files ∧ past.made = [] ∧ ∀ result ∈ past.results, result = .ok ())
    ⟨rfl, rfl, by simp [Past.start]⟩ ?_
  rintro past round hround ⟨rfl, hmade, hresults⟩
  obtain ⟨rfl, rfl⟩ := hsame round hround
  rw [h.next_eq hr]
  refine ⟨rfl, hmade, fun result hm => ?_⟩
  rcases List.mem_append.1 hm with hm | hm
  · exact hresults result hm
  · exact List.mem_singleton.1 hm

/-- **Finished trees are the fixed points of runs.**  A run succeeds without a call exactly if the
root is finished once it has been made.  If it was a directory before, the run leaves the files
as they are, and so do any rounds after it, on any hosts and with any options. -/
theorem idle_iff_finished (host : Host) (request : Request) (files : Tree) :
    let ended := run request host (.start files)
    let idle := ended.1 = .ok () ∧ ended.2.made = []
    (idle ↔ ∃ root rooted, files.createAll host.here request.root = (.ok (), rooted) ∧
      rooted.resolveFromRoot host.here request.root = .ok root ∧
      Finished host.here rooted root) ∧
    (idle → (∃ place, files.resolveFromRoot host.here request.root = .ok place ∧
        files.node? place = some .directory) →
      ended.2.files = files ∧ ∀ rounds : List Round,
        (∀ round ∈ rounds, round.host.here = host.here ∧ round.request.root = request.root) →
        let past := (Past.start files).after rounds
        past.files = files ∧ past.made = [] ∧ ∀ result ∈ past.results, result = .ok ()) := by
  intro ended idle
  have hcourse : idle ↔ Course host request files (.ok ()) [] ended.2.files := by
    rw [course_iff]
    exact ⟨fun h => ⟨h.1, h.2, rfl⟩, fun h => ⟨h.1, h.2.1⟩⟩
  constructor
  · constructor
    · intro h
      obtain ⟨root, hp, hd⟩ := Course.idle_iff.1 (hcourse.1 h)
      obtain ⟨hc, hr⟩ := SourceTree.prepare_eq_ok_iff.1 hp
      exact ⟨root, _, hc, hr, hd⟩
    · rintro ⟨root, rooted, hc, hr, hd⟩
      have hp := SourceTree.prepare_eq_ok_iff.2 ⟨hc, hr⟩
      obtain ⟨hresult, hmade, -⟩ := course_iff.1 (Course.idle_iff.2 ⟨root, hp, hd⟩)
      exact ⟨hresult, hmade⟩
  · rintro h ⟨place, hr, hdir⟩
    obtain ⟨root, hp, hd⟩ := Course.idle_iff.1 (hcourse.1 h)
    -- the root was a directory, so that making sure of it has changed nothing
    rw [SourceTree.prepare_of_resolved hr hdir, Prod.mk.injEq, Except.ok.injEq] at hp
    obtain ⟨rfl, hfiles⟩ := hp
    rw [← hfiles] at hd
    exact ⟨hfiles.symm, fun rounds hsame => hd.after_spec hr hsame⟩

/-! ### A finished tree without tools -/

/-- A stage on which no tool is installed. -/
def emptyWorkshop : Rehearsal.Stage where
  manner := .direct
  here := []
  coloured := false
  missing := ["git", "cmake", "tar"]
  script := []

/-- A dependency root that has the marker in it. -/
def finishedFiles : Tree :=
  Change.applyAll [] [.file ⟨"deps/llvm/build/lib/libLLVMCore.a"⟩ "core" 1] .empty

theorem idle_without_tools :
    let request : Request := ⟨⟨"deps"⟩, [], [], 1⟩
    let other : Request := ⟨⟨"deps"⟩, [.riscv], [.clang], 8⟩
    let past := (Past.start finishedFiles).after
      [⟨emptyWorkshop.host, request⟩, ⟨emptyWorkshop.host, other⟩]
    past.files = finishedFiles ∧ past.made = [] ∧ ∀ result ∈ past.results, result = .ok () := by
  intro request other
  have hidle : (run request emptyWorkshop.host (.start finishedFiles)).1 = .ok () ∧
      (run request emptyWorkshop.host (.start finishedFiles)).2.made = [] := by decide +kernel
  have hroot : ∃ place,
      finishedFiles.resolveFromRoot emptyWorkshop.host.here request.root = .ok place ∧
        finishedFiles.node? place = some .directory := ⟨["deps"], by decide +kernel⟩
  obtain ⟨-, hrounds⟩ := (idle_iff_finished emptyWorkshop.host request finishedFiles).2 hidle hroot
  refine hrounds [⟨emptyWorkshop.host, request⟩, ⟨emptyWorkshop.host, other⟩] ?_
  rintro round (_ | ⟨_, _ | ⟨_, ⟨⟩⟩⟩)
  · exact ⟨rfl, rfl⟩
  · exact ⟨rfl, rfl⟩

end Provision

end LlvmProvision
