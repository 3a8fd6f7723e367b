import LlvmProvision.Proofs.Endings
import LlvmProvision.Provision

/-!
# The courses of a run

A run consists of three stages, and a stage of some work on the files that the run does itself
and of calls.  This module says once what can come of them, and the properties of runs are
read off from that.

* What the run does itself is `SourceTree.prepare`, `BuildTree.prepare` and
  `Package.prepare`: no other part of a run changes a file.
* The calls of a stage are `SourceTree.calls`, `BuildTree.calls` and `Package.calls`.  They are
  made one after the other, up to the first that fails (`Attempted`).
* A **course** is one way in which a stage, or a run, goes from given files.  It has a result,
  the calls that were made, and the files that are left.  There is a constructor for each exit
  of the stage.

Every stage takes some course (`exists_course`) and it ends as its course says
(`Course.ends`).  Since it can end in one way only, a course that is found for a run is the
course it takes (`course_iff`).
-/
namespace LlvmProvision

open Files Tools

variable {host : Host} {files left : Tree} {result : Except Error Unit} {made : List Made}

/-! ## Calls made one after the other -/

/-- Calls made one after the other, up to the first that fails. -/
inductive Attempted (host : Host) :
    List Call → Tree → Except Error Unit → List Made → Tree → Prop
  | done {files : Tree} : Attempted host [] files (.ok ()) [] files
  | stopped {call : Call} {calls : List Call} {files : Tree} {error : Error} :
      (host.answer call files).verdict = .error error →
      Attempted host (call :: calls) files (.error error) [host.answer call files]
        (host.answer call files).reply.files
  | next {call : Call} {calls : List Call} {files left : Tree} {result : Except Error Unit}
      {made : List Made} :
      (host.answer call files).verdict = .ok () →
      Attempted host calls (host.answer call files).reply.files result made left →
      Attempted host (call :: calls) files result (host.answer call files :: made) left

theorem exists_attempted (host : Host) (calls : List Call) (files : Tree) :
    ∃ result made left, Attempted host calls files result made left := by
  induction calls generalizing files with
  | nil => exact ⟨_, _, _, .done⟩
  | cons call calls ih =>
    cases hv : (host.answer call files).verdict with
    | error error => exact ⟨_, _, _, .stopped hv⟩
    | ok _ =>
      obtain ⟨result, made, left, ha⟩ := ih (host.answer call files).reply.files
      exact ⟨_, _, _, .next hv ha⟩

theorem attempted_singleton (host : Host) (call : Call) (files : Tree) :
    Attempted host [call] files (host.answer call files).verdict [host.answer call files]
      (host.answer call files).reply.files := by
  cases hv : (host.answer call files).verdict with
  | error error => exact .stopped hv
  | ok _ => exact .next hv .done

/-- A single call is made, whatever comes of it. -/
theorem Attempted.made_singleton {call : Call} (h : Attempted host [call] files result made left) :
    made = [host.answer call files] := by
  cases h with
  | stopped _ => rfl
  | next _ hdone =>
    cases hdone
    rfl

/-- An action that makes a call and then goes on with others, towards some value. -/
theorem Attempted.ends {α : Type} {call : Call} {calls : List Call} {next : Unit → Action α}
    {value : α} (h : Attempted host (call :: calls) files result made left)
    (hn : ∀ {files result made left}, Attempted host calls files result made left →
      (next ()).Ends host files (result.map fun _ => value) made left) :
    (Action.perform call >>= next).Ends host files (result.map fun _ => value) made left := by
  have hp := Action.ends_perform host files call
  cases h with
  | stopped hv =>
    rw [hv] at hp
    exact hp.bind_of_error
  | next hv ha =>
    rw [hv] at hp
    exact hp.bind_of_ok (hn ha)

/-- After the last call comes the value. -/
theorem Attempted.ends_pure {α : Type} {value : α} (h : Attempted host [] files result made left) :
    (pure value : Action α).Ends host files (result.map fun _ => value) made left := by
  cases h
  exact Action.ends_pure _

/-! ## The source tree -/

namespace SourceTree

/-- Makes sure of the dependency root and finds out its location. -/
def prepare (here : Location) (root : Path) (files : Tree) : Except Error Location × Tree :=
  match files.createAll here root with
  | (.error fault, left) => (.error (.notCreated root fault), left)
  | (.ok (), rooted) =>
    match rooted.resolveFromRoot here root with
    | .error fault => (.error (.notResolved root fault), rooted)
    | .ok place => (.ok place, rooted)

/-- The calls that fetch the sources. -/
def calls (root : Path) (repository branch : String) : List Call :=
  [.check "git", .run (cloneCommand root repository branch)]

/-- How the sources are fetched. -/
inductive Course (host : Host) (root : Path) (repository branch : String) (files : Tree) :
    Except Error Path → List Made → Tree → Prop
  /-- There is no dependency root. -/
  | unprepared {error : Error} {left : Tree} :
      prepare host.here root files = (.error error, left) →
      Course host root repository branch files (.error error) [] left
  /-- The sources are there already. -/
  | kept {place : Location} {rooted : Tree} :
      prepare host.here root files = (.ok place, rooted) →
      rooted.isPresent host.here (place.path / directoryName) = true →
      Course host root repository branch files (.ok (place.path / directoryName)) [] rooted
  /-- The sources have to be fetched. -/
  | attempted {place : Location} {rooted left : Tree} {result : Except Error Unit}
      {made : List Made} :
      prepare host.here root files = (.ok place, rooted) →
      rooted.isPresent host.here (place.path / directoryName) = false →
      Attempted host (calls place.path repository branch) rooted result made left →
      Course host root repository branch files
        (result.map fun _ => place.path / directoryName) made left

variable {root : Path} {repository branch : String} {result : Except Error Path}

theorem exists_course (host : Host) (root : Path) (repository branch : String) (files : Tree) :
    ∃ result made left, Course host root repository branch files result made left := by
  rcases hp : prepare host.here root files with ⟨error | place, rooted⟩
  · exact ⟨_, _, _, .unprepared hp⟩
  · cases hs : rooted.isPresent host.here (place.path / directoryName) with
    | true => exact ⟨_, _, _, .kept hp hs⟩
    | false =>
      obtain ⟨result, made, left, ha⟩ :=
        exists_attempted host (calls place.path repository branch) rooted
      exact ⟨_, _, _, .attempted hp hs ha⟩

theorem ends_of_prepare_ok {α : Type} {place : Location} {rooted : Tree}
    {next : Location → Action α} {result : Except Error α}
    (hp : prepare host.here root files = (.ok place, rooted))
    (hn : (next place).Ends host rooted result made left) :
    (Action.change (fun here files => files.createAll here root) (.notCreated root) >>= fun _ =>
      Action.require (fun here files => files.resolveFromRoot here root) (.notResolved root) >>=
        next).Ends host files result made left := by
  rw [prepare] at hp
  split at hp
  · cases hp
  · rename_i other hc
    split at hp
    · cases hp
    · rename_i found hr
      cases hp
      refine .bind_of_silent (Action.ends_change_ok hc) ?_
      exact (Action.ends_require_ok hr).bind_of_silent hn

theorem ends_of_prepare_error {α : Type} {error : Error} {next : Location → Action α}
    (hp : prepare host.here root files = (.error error, left)) :
    (Action.change (fun here files => files.createAll here root) (.notCreated root) >>= fun _ =>
      Action.require (fun here files => files.resolveFromRoot here root) (.notResolved root) >>=
        next).Ends host files (.error error) [] left := by
  rw [prepare] at hp
  split at hp
  · rename_i fault other hc
    cases hp
    exact .bind_of_error (Action.ends_change_error hc)
  · rename_i rooted hc
    split at hp
    · rename_i fault hr
      cases hp
      refine .bind_of_silent (Action.ends_change_ok hc) ?_
      exact .bind_of_error (Action.ends_require_error hr)
    · cases hp

theorem Course.ends (h : Course host root repository branch files result made left) :
    (fetch root repository branch).Ends host files result made left := by
  unfold fetch
  cases h with
  | unprepared hp => exact ends_of_prepare_error hp
  | kept hp hs =>
    refine ends_of_prepare_ok hp ?_
    refine .bind_of_silent (Action.ends_look _) ?_
    rw [if_pos hs]
    exact (Action.ends_printLine _).bind_of_silent (Action.ends_pure _)
  | attempted hp hs ha =>
    refine ends_of_prepare_ok hp ?_
    refine .bind_of_silent (Action.ends_look _) ?_
    rw [if_neg (by simp [hs])]
    refine ha.ends fun ha => ?_
    refine .bind_of_silent (Action.ends_printLine _) ?_
    exact ha.ends fun ha => ha.ends_pure

end SourceTree

/-! ## The build tree -/

namespace BuildTree

/-- Makes sure of the directory that is built in. -/
def prepare (here : Location) (build : Path) (files : Tree) : Except Error Unit × Tree :=
  if files.isPresent here build then (.ok (), files)
  else
    match files.createDirectory here build with
    | .error fault => (.error (.notCreated build fault), files)
    | .ok made => (.ok (), made)

/-- The calls that build the package. -/
def calls (build : Path) (configuration : Configuration) (jobs : Nat) : List Call :=
  [.check "cmake", .run (configureCommand build configuration), .run (packageCommand build jobs)]

/-- How the package is built. -/
inductive Course (host : Host) (source : Path) (configuration : Configuration) (jobs : Nat)
    (files : Tree) : Except Error Path → List Made → Tree → Prop
  /-- There are no sources. -/
  | sourceless :
      files.isPresent host.here source = false →
      Course host source configuration jobs files (.error (.sourceTreeMissing source)) [] files
  /-- There is no directory to build in. -/
  | unprepared {error : Error} {left : Tree} :
      files.isPresent host.here source = true →
      prepare host.here (source / directoryName) files = (.error error, left) →
      Course host source configuration jobs files (.error error) [] left
  /-- The marker says that the build is finished. -/
  | finished {prepared : Tree} :
      files.isPresent host.here source = true →
      prepare host.here (source / directoryName) files = (.ok (), prepared) →
      prepared.isPresent host.here (source / directoryName / marker) = true →
      Course host source configuration jobs files (.ok (source / directoryName)) [] prepared
  /-- The package has to be built. -/
  | attempted {prepared left : Tree} {result : Except Error Unit} {made : List Made} :
      files.isPresent host.here source = true →
      prepare host.here (source / directoryName) files = (.ok (), prepared) →
      prepared.isPresent host.here (source / directoryName / marker) = false →
      Attempted host (calls (source / directoryName) configuration jobs) prepared result made
        left →
      Course host source configuration jobs files
        (result.map fun _ => source / directoryName) made left

variable {source build : Path} {configuration : Configuration} {jobs : Nat}
  {result : Except Error Path}

theorem exists_course (host : Host) (source : Path) (configuration : Configuration) (jobs : Nat)
    (files : Tree) :
    ∃ result made left, Course host source configuration jobs files result made left := by
  cases hs : files.isPresent host.here source with
  | false => exact ⟨_, _, _, .sourceless hs⟩
  | true =>
    rcases hp : prepare host.here (source / directoryName) files with ⟨error | _, prepared⟩
    · exact ⟨_, _, _, .unprepared hs hp⟩
    · cases hm : prepared.isPresent host.here (source / directoryName / marker) with
      | true => exact ⟨_, _, _, .finished hs hp hm⟩
      | false =>
        obtain ⟨result, made, left, ha⟩ :=
          exists_attempted host (calls (source / directoryName) configuration jobs) prepared
        exact ⟨_, _, _, .attempted hs hp hm ha⟩

theorem ends_ensureDirectory : (ensureDirectory build).Ends host files
    (prepare host.here build files).1 [] (prepare host.here build files).2 := by
  unfold ensureDirectory prepare
  refine .bind_of_silent (Action.ends_look _) ?_
  split
  · exact Action.ends_pure ()
  · cases hc : files.createDirectory host.here build with
    | error fault => exact Action.ends_wholly_error hc
    | ok made => exact Action.ends_wholly_ok hc

theorem Course.ends (h : Course host source configuration jobs files result made left) :
    (complete source configuration jobs).Ends host files result made left := by
  unfold complete
  refine .bind_of_silent (Action.ends_look _) ?_
  have he : (ensureDirectory (source / directoryName)).Ends host files _ [] _ :=
    ends_ensureDirectory
  cases h with
  | sourceless hs =>
    rw [if_neg (by simp [hs])]
    exact Action.ends_fail _
  | unprepared hs hp =>
    rw [if_pos hs]
    rw [hp] at he
    exact he.bind_of_error
  | finished hs hp hm =>
    rw [if_pos hs]
    rw [hp] at he
    refine he.bind_of_silent ?_
    refine .bind_of_silent (Action.ends_look _) ?_
    rw [if_pos hm]
    exact (Action.ends_printColoured _ _).bind_of_silent (Action.ends_pure _)
  | attempted hs hp hm ha =>
    rw [if_pos hs]
    rw [hp] at he
    refine he.bind_of_silent ?_
    refine .bind_of_silent (Action.ends_look _) ?_
    rw [if_neg (by simp [hm])]
    refine ha.ends fun ha => ?_
    refine .bind_of_silent (Action.ends_printLine _) ?_
    refine ha.ends fun ha => ?_
    exact ha.ends fun ha => ha.ends_pure

end BuildTree

/-! ## The package -/

namespace Package

/-- The archives that lie in the build tree. -/
def archives (here : Location) (source : Path) (files : Tree) : List String :=
  archiveNames (files.listDirectory here (source / BuildTree.directoryName))

/-- Moves the archive out of the build tree and replaces the build tree by an empty
directory. -/
def prepare (here : Location) (source : Path) (name : String) (files : Tree) :
    Except Error Unit × Tree :=
  match files.moveFile here (source / BuildTree.directoryName / name) (source / name) with
  | (.error fault, left) =>
    (.error (.notMoved (source / BuildTree.directoryName / name) fault), left)
  | (.ok (), moved) =>
    match moved.removeDirectory here (source / BuildTree.directoryName) with
    | (.error fault, left) => (.error (.notRemoved (source / BuildTree.directoryName) fault), left)
    | (.ok (), removed) =>
      match removed.createDirectory here (source / BuildTree.directoryName) with
      | .error fault =>
        (.error (.notCreated (source / BuildTree.directoryName) fault), removed)
      | .ok made => (.ok (), made)

/-- The command that unpacks an archive of the build tree once it has been moved. -/
def command (source : Path) (name : String) : Command :=
  extractCommand source (source / BuildTree.directoryName) (source / name)

/-- The calls that unpack an archive. -/
def calls (source : Path) (name : String) : List Call :=
  [.check "tar", .run (command source name)]

/-- How the package is unpacked. -/
inductive Course (host : Host) (source : Path) (files : Tree) :
    Except Error (Option Path) → List Made → Tree → Prop
  /-- There is no archive. -/
  | nothing :
      archives host.here source files = [] →
      Course host source files (.ok none) [] files
  /-- There are several archives. -/
  | several :
      2 ≤ (archives host.here source files).length →
      Course host source files
        (.error (.ambiguousArchive ((archives host.here source files).map
          (source / BuildTree.directoryName / ·)))) [] files
  /-- There is an archive, but not the tool. -/
  | unchecked {name : String} {error : Error} :
      archives host.here source files = [name] →
      (host.answer (.check "tar") files).verdict = .error error →
      Course host source files (.error error) [host.answer (.check "tar") files]
        (host.answer (.check "tar") files).reply.files
  /-- The archive cannot be moved or the build tree cannot be replaced. -/
  | unprepared {name : String} {error : Error} {left : Tree} :
      archives host.here source files = [name] →
      (host.answer (.check "tar") files).verdict = .ok () →
      prepare host.here source name (host.answer (.check "tar") files).reply.files =
        (.error error, left) →
      Course host source files (.error error) [host.answer (.check "tar") files] left
  /-- The archive is unpacked. -/
  | attempted {name : String} {prepared left : Tree} {result : Except Error Unit}
      {made : List Made} :
      archives host.here source files = [name] →
      (host.answer (.check "tar") files).verdict = .ok () →
      prepare host.here source name (host.answer (.check "tar") files).reply.files =
        (.ok (), prepared) →
      Attempted host [.run (command source name)] prepared result made left →
      Course host source files (result.map fun _ => some (source / name))
        (host.answer (.check "tar") files :: made) left

variable {source : Path} {name : String} {result : Except Error (Option Path)}

theorem exists_course (host : Host) (source : Path) (files : Tree) :
    ∃ result made left, Course host source files result made left := by
  rcases hn : archives host.here source files with _ | ⟨name, _ | ⟨next, rest⟩⟩
  · exact ⟨_, _, _, .nothing hn⟩
  · cases hv : (host.answer (.check "tar") files).verdict with
    | error error => exact ⟨_, _, _, .unchecked hn hv⟩
    | ok _ =>
      rcases hp : prepare host.here source name (host.answer (.check "tar") files).reply.files
        with ⟨error | _, prepared⟩
      · exact ⟨_, _, _, .unprepared hn hv hp⟩
      · obtain ⟨result, made, left, ha⟩ :=
          exists_attempted host [.run (command source name)] prepared
        exact ⟨_, _, _, .attempted hn hv hp ha⟩
  · exact ⟨_, _, _, .several (by simp [hn])⟩

/-- What has been done once everything is prepared. -/
theorem exists_of_prepare {here : Location} {prepared : Tree}
    (h : prepare here source name files = (.ok (), prepared)) :
    ∃ moved removed,
      files.moveFile here (source / BuildTree.directoryName / name) (source / name) =
        (.ok (), moved) ∧
      moved.removeDirectory here (source / BuildTree.directoryName) = (.ok (), removed) ∧
      removed.createDirectory here (source / BuildTree.directoryName) = .ok prepared := by
  unfold prepare at h
  split at h
  · cases h
  · rename_i moved hmove
    split at h
    · cases h
    · rename_i removed hremove
      split at h
      · cases h
      · rename_i created hcreate
        cases h
        exact ⟨moved, removed, hmove, hremove, hcreate⟩

/-- The stage after the check of the tool. -/
theorem ends_of_prepare {prepared : Tree} {result : Except Error Path}
    (hv : (host.answer (.check "tar") files).verdict = .ok ())
    (hp : prepare host.here source name (host.answer (.check "tar") files).reply.files =
      (.ok (), prepared))
    (he : (Action.execute (command source name) >>= fun _ => pure (source / name)).Ends host
      prepared result made left) :
    (replaceBuild source name).Ends host files result
      (host.answer (.check "tar") files :: made) left := by
  have hc := Action.ends_perform host files (.check "tar")
  rw [hv] at hc
  obtain ⟨moved, removed, hmove, hremove, hcreate⟩ := exists_of_prepare hp
  unfold replaceBuild
  refine hc.bind_of_ok ?_
  refine .bind_of_silent (Action.ends_change_ok hmove) ?_
  refine .bind_of_silent (Action.ends_change_ok hremove) ?_
  refine .bind_of_silent (Action.ends_wholly_ok hcreate) ?_
  exact he

theorem ends_of_prepare_error {error : Error}
    (hv : (host.answer (.check "tar") files).verdict = .ok ())
    (hp : prepare host.here source name (host.answer (.check "tar") files).reply.files =
      (.error error, left)) :
    (replaceBuild source name).Ends host files (.error error)
      [host.answer (.check "tar") files] left := by
  have hc := Action.ends_perform host files (.check "tar")
  rw [hv] at hc
  unfold replaceBuild
  refine hc.bind_of_ok ?_
  unfold prepare at hp
  split at hp
  · rename_i fault other hmove
    cases hp
    exact .bind_of_error (Action.ends_change_error hmove)
  · rename_i moved hmove
    refine .bind_of_silent (Action.ends_change_ok hmove) ?_
    split at hp
    · rename_i fault other hremove
      cases hp
      exact .bind_of_error (Action.ends_change_error hremove)
    · rename_i removed hremove
      refine .bind_of_silent (Action.ends_change_ok hremove) ?_
      split at hp
      · rename_i fault hcreate
        cases hp
        exact .bind_of_error (Action.ends_wholly_error hcreate)
      · cases hp

theorem Course.ends (h : Course host source files result made left) :
    (unpack source).Ends host files result made left := by
  unfold unpack
  refine .bind_of_silent (Action.ends_look _) ?_
  cases h with
  | nothing hn =>
    rw [archives] at hn
    rw [hn]
    exact Action.ends_pure _
  | several hn =>
    rw [archives] at hn ⊢
    split
    · rename_i he
      simp [he] at hn
    · rename_i name he
      simp [he] at hn
    · exact Action.ends_fail _
  | unchecked hn hv =>
    rw [archives] at hn
    rw [hn]
    have hc := Action.ends_perform host files (.check "tar")
    rw [hv] at hc
    exact Action.Ends.map some hc.bind_of_error
  | unprepared hn hv hp =>
    rw [archives] at hn
    rw [hn]
    exact Action.Ends.map some (ends_of_prepare_error hv hp)
  | @attempted name prepared left result made hn hv hp ha =>
    rw [archives] at hn
    rw [hn]
    have hr : (result.map fun _ => some (source / name)) =
        (result.map fun _ => source / name).map some := by
      cases result <;> rfl
    rw [hr]
    refine Action.Ends.map some (ends_of_prepare hv hp ?_)
    exact ha.ends fun ha => ha.ends_pure

end Package

/-! ## The whole run -/

namespace Provision

/-- How a run goes. -/
inductive Course (host : Host) (request : Request) (files : Tree) :
    Except Error Unit → List Made → Tree → Prop
  /-- The sources are not fetched. -/
  | unfetched {error : Error} {made : List Made} {left : Tree} :
      SourceTree.Course host request.root SourceTree.repository SourceTree.branch files
        (.error error) made left →
      Course host request files (.error error) made left
  /-- The package is not built. -/
  | unbuilt {source : Path} {error : Error} {fetching building : List Made}
      {fetched left : Tree} :
      SourceTree.Course host request.root SourceTree.repository SourceTree.branch files
        (.ok source) fetching fetched →
      BuildTree.Course host source (.ofLists request.backends request.projects) request.jobs
        fetched (.error error) building left →
      Course host request files (.error error) (fetching ++ building) left
  /-- The last stage is reached. -/
  | built {source build : Path} {result : Except Error (Option Path)}
      {fetching building unpacking : List Made} {fetched built left : Tree} :
      SourceTree.Course host request.root SourceTree.repository SourceTree.branch files
        (.ok source) fetching fetched →
      BuildTree.Course host source (.ofLists request.backends request.projects) request.jobs
        fetched (.ok build) building built →
      Package.Course host source built result unpacking left →
      Course host request files (result.map fun _ => ()) (fetching ++ building ++ unpacking) left

variable {request : Request}

theorem exists_course (host : Host) (request : Request) (files : Tree) :
    ∃ result made left, Course host request files result made left := by
  obtain ⟨fetch, fetching, fetched, hf⟩ := SourceTree.exists_course host request.root
    SourceTree.repository SourceTree.branch files
  cases fetch with
  | error error => exact ⟨_, _, _, .unfetched hf⟩
  | ok source =>
    obtain ⟨build, building, built, hb⟩ := BuildTree.exists_course host source
      (.ofLists request.backends request.projects) request.jobs fetched
    cases build with
    | error error => exact ⟨_, _, _, .unbuilt hf hb⟩
    | ok build =>
      obtain ⟨result, unpacking, left, hp⟩ := Package.exists_course host source built
      exact ⟨_, _, _, .built hf hb hp⟩

/-- **A run that succeeds has gone through all three stages.** -/
theorem Course.of_ok (h : Course host request files (.ok ()) made left) :
    ∃ source fetching fetched build building built package unpacking,
      SourceTree.Course host request.root SourceTree.repository SourceTree.branch files
        (.ok source) fetching fetched ∧
      BuildTree.Course host source (.ofLists request.backends request.projects) request.jobs
        fetched (.ok build) building built ∧
      Package.Course host source built (.ok package) unpacking left ∧
      made = fetching ++ building ++ unpacking := by
  generalize hr : Except.ok () = result at h
  cases h with
  | unfetched _ => cases hr
  | unbuilt _ _ => cases hr
  | @built _ _ result _ _ _ _ _ _ hf hb hu =>
    cases result with
    | error error => cases hr
    | ok package => exact ⟨_, _, _, _, _, _, _, _, hf, hb, hu, rfl⟩

theorem Course.ends (h : Course host request files result made left) :
    (run request).Ends host files result made left := by
  unfold run
  refine .bind_of_silent (Action.ends_printColoured _ _) ?_
  cases h with
  | unfetched hf => exact hf.ends.bind_of_error
  | unbuilt hf hb =>
    refine hf.ends.bind_of_ok ?_
    refine .bind_of_silent (Action.ends_printLine _) ?_
    refine .bind_of_silent (Action.ends_printColoured _ _) ?_
    exact hb.ends.bind_of_error
  | @built _ _ result _ _ unpacking _ _ _ hf hb hp =>
    rw [List.append_assoc]
    refine hf.ends.bind_of_ok ?_
    refine .bind_of_silent (Action.ends_printLine _) ?_
    refine .bind_of_silent (Action.ends_printColoured _ _) ?_
    refine hb.ends.bind_of_ok ?_
    refine .bind_of_silent (Action.ends_printLine _) ?_
    refine .bind_of_silent (Action.ends_printColoured _ _) ?_
    cases result with
    | error error => exact hp.ends.bind_of_error
    | ok package =>
      rw [← List.append_nil unpacking]
      exact hp.ends.bind_of_ok (Action.ends_printLine _)

/-- **A run takes exactly one course**: its result, its calls and the files it leaves are those
of a course from the given files, and of no other. -/
theorem course_iff : Course host request files result made left ↔
    (run request host (.start files)).1 = result ∧
      (run request host (.start files)).2.made = made ∧
      (run request host (.start files)).2.files = left := by
  constructor
  · exact fun h => h.ends.ended
  · -- some course is taken, and it ends as the run does
    rintro ⟨rfl, rfl, rfl⟩
    obtain ⟨result, made, left, h⟩ := exists_course host request files
    obtain ⟨rfl, rfl, rfl⟩ := h.ends.ended
    exact h

end Provision

end LlvmProvision
