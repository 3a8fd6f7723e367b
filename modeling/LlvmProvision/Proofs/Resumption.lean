import LlvmProvision.Proofs.Schedule
import LlvmProvision.Rehearsal.Stage

/-!
# Resuming a run after a tool was missing

A run looks for the tool of a stage right before the first command of the stage.  If the tool is
missing, the run fails with all earlier stages done and none of this one begun, except that
directories may have been made.  What was done is all in the files, so the run can be repeated
once the tool is there.

`Lacks` relates a host without a tool to the host that has it, and the two answer all calls
alike that are about other tools.  The main result is `run_resumes`: a run on the one host and
then a run on the other come to what a single run on the other host comes to, with the same
calls on the same files.  The stages that the first run has finished are taken over by
`Course.of_lacks`; the stage that it broke off, and all later ones, go the same way from the
files that it left as they would have gone without the interruption.
-/
namespace LlvmProvision

open Files Tools

variable {poorer host : Host} {tool : String} {files left : Tree} {made : List Made}
  {scheduled : List Call}

/-- **The poorer host is the host without the tool.**  A tool that is not there does nothing
when it is looked for. -/
structure Tools.Host.Lacks (poorer host : Host) (tool : String) : Prop where
  here : poorer.here = host.here
  others : ∀ call files, call.tool ≠ tool → poorer.respond call files = host.respond call files
  missing : ∀ files, (poorer.respond (.check tool) files).outcome.isSuccess = false
  untouched : ∀ files, (poorer.respond (.check tool) files).files = files

theorem Tools.Host.Lacks.answer_eq {call : Call} (hl : poorer.Lacks host tool)
    (hc : call.tool ≠ tool) (files : Tree) : poorer.answer call files = host.answer call files := by
  rw [Host.answer, Host.answer, hl.others call files hc]

/-! ## A tool that is missing in rehearsal -/

namespace Rehearsal.Stage

variable {stage : Stage} {program : String} {start : Location}

/-- The stage without a tool. -/
def without (stage : Stage) (tool : String) : Stage :=
  { stage with missing := tool :: stage.missing }

theorem lookFor_without (hp : program ≠ tool) :
    (stage.without tool).lookFor program start files = stage.lookFor program start files := by
  simp [lookFor, without, hp]

/-- A program that is missing is not found, whatever its name is. -/
theorem exists_lookFor_eq :
    ∃ fault, (stage.without tool).lookFor tool start files = .error fault := by
  unfold lookFor
  split
  · split <;> exact ⟨_, rfl⟩
  · split
    · exact ⟨_, rfl⟩
    · split
      · exact ⟨_, rfl⟩
      · rw [if_neg (by simp [without])]
        exact ⟨_, rfl⟩

variable {arguments : List String} {directory : Option Path} {audible : Bool}

theorem respondLaunched_without (hp : program ≠ tool) :
    (stage.without tool).respondLaunched program arguments directory audible files =
      stage.respondLaunched program arguments directory audible files := by
  simp only [respondLaunched, launch, lookFor_without hp]
  rfl

theorem exists_launch_eq :
    ∃ fault, (stage.without tool).launch tool arguments directory files = .error fault := by
  simp only [launch]
  split
  · split
    · exact ⟨_, rfl⟩
    · rename_i start _
      obtain ⟨fault, hf⟩ : ∃ fault,
          (stage.without tool).lookFor tool start files = .error fault := exists_lookFor_eq
      rw [hf]
      exact ⟨_, rfl⟩
  · exact ⟨_, rfl⟩

/-- The programs other than the missing one reply as before. -/
theorem respond_without {call : Call} (hc : call.tool ≠ tool) :
    (stage.without tool).respond call files = stage.respond call files := by
  have hsame : (stage.without tool).manner = stage.manner := rfl
  cases hm : stage.manner with
  | direct =>
    simp only [respond, hm, respondDirectly, without, List.mem_cons, hc, false_or]
    rfl
  | launched =>
    cases call with
    | check other =>
      simp only [respond, hsame, hm]
      exact respondLaunched_without hc
    | run command =>
      simp only [respond, hsame, hm]
      exact respondLaunched_without hc

/-- The missing program is not started and leaves the files as they are. -/
theorem exists_respond_eq :
    ∃ fault, (stage.without tool).respond (.check tool) files = unstarted fault files := by
  have hsame : (stage.without tool).manner = stage.manner := rfl
  cases hm : stage.manner with
  | direct =>
    refine ⟨.system .noEntry, ?_⟩
    simp [respond, hm, respondDirectly, without, Call.tool]
  | launched =>
    obtain ⟨fault, hf⟩ : ∃ fault,
        (stage.without tool).launch tool ["--version"] none files = .error fault :=
      exists_launch_eq
    refine ⟨fault, ?_⟩
    simp only [respond, hsame, hm, respondLaunched, hf]

/-- **A stage without a tool lacks it**, in whatever manner the tools are put on. -/
theorem lacks_without (stage : Stage) (tool : String) :
    (stage.without tool).host.Lacks stage.host tool where
  here := rfl
  others _ _ hc := respond_without hc
  missing files := by
    obtain ⟨fault, hf⟩ : ∃ fault,
        (stage.without tool).respond (.check tool) files = unstarted fault files :=
      exists_respond_eq
    simp [host, hf, unstarted, Outcome.isSuccess]
  untouched files := by
    obtain ⟨fault, hf⟩ : ∃ fault,
        (stage.without tool).respond (.check tool) files = unstarted fault files :=
      exists_respond_eq
    simp [host, hf, unstarted]

end Rehearsal.Stage

/-! ## Calls about other tools -/

theorem Attempted.of_lacks {result : Except Error Unit} (hl : poorer.Lacks host tool)
    (hc : ∀ call ∈ scheduled, call.tool ≠ tool)
    (h : Attempted poorer scheduled files result made left) :
    Attempted host scheduled files result made left := by
  induction h with
  | done => exact .done
  | @stopped call _ files _ hv =>
    rw [hl.answer_eq (hc call (by simp))] at hv ⊢
    exact .stopped hv
  | @next call _ files _ _ _ hv _ ih =>
    have hrest := ih fun other ho => hc other (by simp [ho])
    rw [hl.answer_eq (hc call (by simp))] at hv hrest ⊢
    exact .next hv hrest

/-- Commands never say that a tool is missing. -/
theorem Attempted.ne_toolMissing {result : Except Error Unit}
    (hc : ∀ other, Call.check other ∉ scheduled)
    (h : Attempted host scheduled files result made left) :
    result ≠ .error (.toolMissing tool) := by
  induction h with
  | done => simp
  | @stopped call _ _ _ hv =>
    rintro ⟨⟩
    obtain rfl : call = .check tool := Made.call_of_toolMissing hv
    exact hc tool List.mem_cons_self
  | next _ _ ih => exact ih fun other ho => hc other (by simp [ho])

/-- If a tool is found missing, it is the one that was looked for first, and nothing else has
happened. -/
theorem Attempted.of_toolMissing {first : String}
    (hc : ∀ other, Call.check other ∉ scheduled)
    (h : Attempted host (.check first :: scheduled) files (.error (.toolMissing tool)) made left) :
    tool = first ∧ made = [host.answer (.check first) files] ∧
      left = (host.answer (.check first) files).reply.files := by
  cases h with
  | stopped hv =>
    cases Made.call_of_toolMissing hv
    exact ⟨rfl, rfl, rfl⟩
  | next _ ha => exact absurd rfl (ha.ne_toolMissing hc)

/-! ## Fetching the sources -/

namespace SourceTree

variable {path : Path} {place : Location} {rooted : Tree} {url branch : String}
  {result : Except Error Path}

theorem Course.of_lacks (hl : poorer.Lacks host tool) (ht : tool ≠ "git")
    (h : Course poorer path url branch files result made left) :
    Course host path url branch files result made left := by
  cases h with
  | unprepared hp =>
    rw [hl.here] at hp
    exact .unprepared hp
  | kept hp hs =>
    rw [hl.here] at hp hs
    exact .kept hp hs
  | attempted hp hs ha =>
    rw [hl.here] at hp hs
    exact .attempted hp hs (ha.of_lacks hl fun call hc => tool_of_mem_calls call hc ▸ ht.symm)

/-- Without the tool, nothing but the dependency root is made. -/
theorem Course.of_toolMissing (hl : poorer.Lacks host tool)
    (hp : prepare host.here path files = (.ok place, rooted))
    (h : Course poorer path url branch files (.error (.toolMissing tool)) made left) :
    tool = "git" ∧ left = rooted ∧ made = [poorer.answer (.check tool) left] := by
  generalize hr : Except.error (Error.toolMissing tool) = result at h
  cases h with
  | unprepared hp' =>
    rw [hl.here, hp] at hp'
    cases hp'
  | kept _ _ => cases hr
  | @attempted _ _ _ result _ hp' _ ha =>
    rw [hl.here, hp] at hp'
    cases hp'
    cases result with
    | ok _ => cases hr
    | error error =>
      cases hr
      obtain ⟨rfl, rfl, rfl⟩ := ha.of_toolMissing (by simp)
      have hleft : (poorer.answer (.check "git") rooted).reply.files = rooted := hl.untouched rooted
      exact ⟨rfl, hleft, by rw [hleft]⟩

/-- How the sources are fetched depends on the files only by the root that is prepared. -/
theorem Course.of_prepare_eq {other : Tree}
    (he : prepare host.here path other = prepare host.here path files)
    (h : Course host path url branch files result made left) :
    Course host path url branch other result made left := by
  cases h with
  | unprepared hp => exact .unprepared (he.trans hp)
  | kept hp hs => exact .kept (he.trans hp) hs
  | attempted hp hs ha => exact .attempted (he.trans hp) hs ha

end SourceTree

/-! ## Building the package -/

namespace BuildTree

variable {source : Path} {configuration : Configuration} {jobs : Nat} {prepared : Tree}
  {result : Except Error Path}

theorem prepare_ne_toolMissing {here : Location} {build : Path} :
    (prepare here build files).1 ≠ .error (.toolMissing tool) := by
  rw [prepare]
  split
  · simp
  · split <;> simp

theorem Course.of_lacks (hl : poorer.Lacks host tool) (ht : tool ≠ "cmake")
    (h : Course poorer source configuration jobs files result made left) :
    Course host source configuration jobs files result made left := by
  cases h with
  | sourceless hs =>
    rw [hl.here] at hs
    exact .sourceless hs
  | unprepared hs hp =>
    rw [hl.here] at hs hp
    exact .unprepared hs hp
  | finished hs hp hm =>
    rw [hl.here] at hs hp hm
    exact .finished hs hp hm
  | attempted hs hp hm ha =>
    rw [hl.here] at hs hp hm
    exact .attempted hs hp hm (ha.of_lacks hl fun call hc => tool_of_mem_calls call hc ▸ ht.symm)

/-- Without the tool, nothing but the build tree is made. -/
theorem Course.of_toolMissing (hl : poorer.Lacks host tool)
    (h : Course poorer source configuration jobs files (.error (.toolMissing tool)) made left) :
    tool = "cmake" ∧ files.isPresent host.here source = true ∧
      prepare host.here (source / directoryName) files = (.ok (), left) ∧
      made = [poorer.answer (.check tool) left] := by
  generalize hr : Except.error (Error.toolMissing tool) = result at h
  cases h with
  | sourceless _ => cases hr
  | unprepared _ hp =>
    cases hr
    exact absurd (congrArg Prod.fst hp) prepare_ne_toolMissing
  | finished _ _ _ => cases hr
  | @attempted prepared _ result _ hs hp _ ha =>
    rw [hl.here] at hs hp
    cases result with
    | ok _ => cases hr
    | error error =>
      cases hr
      obtain ⟨rfl, rfl, rfl⟩ := ha.of_toolMissing (by simp)
      have hleft : (poorer.answer (.check "cmake") prepared).reply.files = prepared :=
        hl.untouched prepared
      rw [hleft]
      exact ⟨rfl, hs, hp, rfl⟩

/-- The stage goes the same way from the build tree that it has made sure of. -/
theorem Course.of_prepared (hs : files.isPresent host.here source = true)
    (hp : prepare host.here (source / directoryName) files = (.ok (), prepared))
    (h : Course host source configuration jobs files result made left) :
    Course host source configuration jobs prepared result made left := by
  have hs' : prepared.isPresent host.here source = true :=
    Tree.isPresent_of_extends (extends_prepare hp) hs
  have hp' := prepare_of_isPresent (isPresent_build_prepare hp)
  cases h with
  | sourceless hn => simp [hs] at hn
  | unprepared _ he => simp [hp] at he
  | finished _ he hm =>
    rw [hp] at he
    cases he
    exact .finished hs' hp' hm
  | attempted _ he hm ha =>
    rw [hp] at he
    cases he
    exact .attempted hs' hp' hm ha

end BuildTree

/-! ## Unpacking the package -/

namespace Package

variable {source : Path}

theorem prepare_ne_toolMissing {here : Location} {name : String} :
    (prepare here source name files).1 ≠ .error (.toolMissing tool) := by
  unfold prepare
  split
  · simp
  · split
    · simp
    · split <;> simp

/-- Without the tool, nothing is done. -/
theorem Course.of_toolMissing (hl : poorer.Lacks host tool)
    (h : Course poorer source files (.error (.toolMissing tool)) made left) :
    tool = "tar" ∧ left = files ∧ made = [poorer.answer (.check tool) left] := by
  generalize hr : Except.error (Error.toolMissing tool) = result at h
  cases h with
  | nothing _ => cases hr
  | several _ => cases hr
  | unchecked _ hv =>
    cases hr
    cases Made.call_of_toolMissing hv
    have hleft : (poorer.answer (.check "tar") files).reply.files = files := hl.untouched files
    exact ⟨rfl, hleft, by rw [hleft]⟩
  | unprepared _ _ hp =>
    cases hr
    exact absurd (congrArg Prod.fst hp) prepare_ne_toolMissing
  | @attempted _ _ _ result _ _ _ _ ha =>
    cases result with
    | ok _ => cases hr
    | error error =>
      cases hr
      exact absurd rfl (ha.ne_toolMissing (by simp))

end Package

/-! ## The whole run -/

namespace Provision

variable {request : Request} {root : Location} {rooted : Tree} {result : Except Error Unit}

/-- A run depends on the files only by the dependency root that it prepares. -/
theorem Course.of_prepare_eq {other : Tree}
    (he : SourceTree.prepare host.here request.root other =
      SourceTree.prepare host.here request.root files)
    (h : Course host request files result made left) :
    Course host request other result made left := by
  cases h with
  | unfetched hf => exact .unfetched (hf.of_prepare_eq he)
  | unbuilt hf hb => exact .unbuilt (hf.of_prepare_eq he) hb
  | built hf hb hu => exact .built (hf.of_prepare_eq he) hb hu

/-- **A run that a missing tool has interrupted.**  The dependency root is still the same
directory, and if it was the last tool that was missing, the marker is there. -/
structure Interrupted (poorer host : Host) (tool : String) (request : Request) (files left : Tree)
    (root : Location) : Prop where
  lacks : poorer.Lacks host tool
  prepared : (SourceTree.prepare host.here request.root files).1 = .ok root
  resolves : left.resolveFromRoot host.here request.root = .ok root
  directory : left.node? root = some .directory
  finished : tool = "tar" → left.isPresent host.here
    (root.path / SourceTree.directoryName / BuildTree.directoryName / BuildTree.marker) = true

/-- **What is left to do after some calls** has a course from the files that they have left, and
together with the calls it is a course from the beginning. -/
def Resumes (host : Host) (request : Request) (files left : Tree) (begun : List Made) : Prop :=
  ∃ result more final, Course host request left result more final ∧
    Course host request files result (begun ++ more) final

variable {source build : Path} {fetching building : List Made} {fetched : Tree}

/-- Once the sources are kept and the build tree is there, building goes on as it would have. -/
theorem resumes_building
    (hf : SourceTree.Course host request.root SourceTree.repository SourceTree.branch files
      (.ok source) fetching fetched)
    (hkept : SourceTree.Course host request.root SourceTree.repository SourceTree.branch left
      (.ok source) [] left)
    (hs : fetched.isPresent host.here source = true)
    (hp : BuildTree.prepare host.here (source / BuildTree.directoryName) fetched = (.ok (), left)) :
    Resumes host request files left fetching := by
  obtain ⟨build, building, built, hb⟩ := BuildTree.exists_course host source
    (.ofLists request.backends request.projects) request.jobs fetched
  have hb' := hb.of_prepared hs hp
  cases build with
  | error error => exact ⟨_, _, _, .unbuilt hkept hb', .unbuilt hf hb⟩
  | ok build =>
    obtain ⟨result, unpacking, final, hu⟩ := Package.exists_course host source built
    refine ⟨_, _, _, .built hkept hb' hu, ?_⟩
    rw [List.nil_append, ← List.append_assoc]
    exact .built hf hb hu

/-- With the marker, both stages are passed over and unpacking goes on as it would have. -/
theorem resumes_unpacking (nonempty : source.text ≠ "")
    (hf : SourceTree.Course host request.root SourceTree.repository SourceTree.branch files
      (.ok source) fetching fetched)
    (hb : BuildTree.Course host source (.ofLists request.backends request.projects) request.jobs
      fetched (.ok build) building left)
    (hkept : SourceTree.Course host request.root SourceTree.repository SourceTree.branch left
      (.ok source) [] left)
    (hm : left.isPresent host.here
      (source / BuildTree.directoryName / BuildTree.marker) = true) :
    Resumes host request files left (fetching ++ building) := by
  have hs := BuildTree.isPresent_source_of_marker nonempty hm
  have hb' := BuildTree.prepare_of_marker (BuildTree.build_ne_empty source) hm
  obtain ⟨result, more, final, hu⟩ := Package.exists_course host source left
  exact ⟨_, _, _, .built hkept (.finished hs hb' hm) hu, .built hf hb hu⟩

/-- **An interrupted run has begun some calls**, looked for the tool in vain, and can be
resumed. -/
theorem Course.resume (h : Course poorer request files (.error (.toolMissing tool)) made left)
    (hi : Interrupted poorer host tool request files left root) :
    ∃ begun, made = begun ++ [poorer.answer (.check tool) left] ∧
      Resumes host request files left begun := by
  have hl := hi.lacks
  have hagain := SourceTree.prepare_of_resolved hi.resolves hi.directory
  obtain ⟨rooted, hp⟩ : ∃ rooted,
      SourceTree.prepare host.here request.root files = (.ok root, rooted) :=
    ⟨_, Prod.ext hi.prepared rfl⟩
  generalize hr : Except.error (Error.toolMissing tool) = first at h
  cases h with
  | unfetched hf =>
    cases hr
    -- the first run has only made the root, so the second one is the whole one
    obtain ⟨rfl, rfl, hmade⟩ := hf.of_toolMissing hl hp
    obtain ⟨result, more, final, hwhole⟩ := exists_course host request files
    exact ⟨[], hmade, result, more, final, hwhole.of_prepare_eq (hagain.trans hp.symm), hwhole⟩
  | @unbuilt source _ fetching building fetched _ hf hb =>
    cases hr
    obtain ⟨rfl, hs, hprepared, hmade⟩ := hb.of_toolMissing hl
    have hf := hf.of_lacks hl (by decide)
    obtain rfl := hf.source_eq hp
    have hs' := Tree.isPresent_of_extends (BuildTree.extends_prepare hprepared) hs
    exact ⟨fetching, by rw [hmade], resumes_building hf (.kept hagain hs') hs hprepared⟩
  | @built source build result fetching building unpacking fetched built _ hf hb hu =>
    obtain rfl : result = .error (.toolMissing tool) := by
      cases result with
      | ok _ => cases hr
      | error error =>
        cases hr
        rfl
    obtain ⟨rfl, rfl, hmade⟩ := hu.of_toolMissing hl
    have hf := hf.of_lacks hl (by decide)
    have hb := hb.of_lacks hl (by decide)
    obtain rfl := hf.source_eq hp
    have hm := hi.finished rfl
    have hs := BuildTree.isPresent_source_of_marker (BuildTree.source_ne_empty root.path) hm
    exact ⟨fetching ++ building, by rw [hmade],
      resumes_unpacking (BuildTree.source_ne_empty root.path) hf hb (.kept hagain hs) hm⟩

/-- **A run can be resumed after a tool was missing.**  The first run has made some calls and
then looked for the tool in vain.  These calls and those of the second run are the calls of a
whole run on the host that has the tool, and the second run ends like the whole one. -/
theorem run_resumes
    (hfails : (run request poorer (.start files)).1 = .error (.toolMissing tool))
    (hi : Interrupted poorer host tool request files
      (run request poorer (.start files)).2.files root) :
    let first := (run request poorer (.start files)).2
    let second := run request host (.start first.files)
    let whole := run request host (.start files)
    second.1 = whole.1 ∧ second.2.files = whole.2.files ∧
      ∃ begun, first.made = begun ++ [poorer.answer (.check tool) first.files] ∧
        begun ++ second.2.made = whole.2.made := by
  have hfirst : Course poorer request files (.error (.toolMissing tool))
      (run request poorer (.start files)).2.made (run request poorer (.start files)).2.files :=
    course_iff.2 ⟨hfails, rfl, rfl⟩
  obtain ⟨begun, hmade, result, more, final, hsecond, hwhole⟩ := hfirst.resume hi
  obtain ⟨hresult, hmore, hfinal⟩ := course_iff.1 hsecond
  obtain ⟨hresult', hmade', hfinal'⟩ := course_iff.1 hwhole
  refine ⟨hresult.trans hresult'.symm, hfinal.trans hfinal'.symm, begun, hmade, ?_⟩
  rw [hmore, hmade']

/-! ### A run without the last tool -/

/-- A rehearsal in which cloning brings the sources, and building the marker and an archive. -/
def workshop : Rehearsal.Stage where
  manner := .direct
  here := []
  coloured := false
  missing := []
  script := [
    ("run:git", ⟨"", [.directory ⟨"deps/llvm"⟩], .ended (.exited 0)⟩),
    ("run:cmake-build", ⟨"", [.file ⟨"deps/llvm/build/lib/libLLVMCore.a"⟩ "core" 1,
      .file ⟨"deps/llvm/build/LLVM-16.0.6-Linux.tar.gz"⟩ "package" 1], .ended (.exited 0)⟩)]

/-- The request for a build without options below the working directory. -/
def plainRequest : Request := ⟨⟨"deps"⟩, [], [], 1⟩

theorem run_resumes_without_tar :
    let first := run plainRequest (workshop.without "tar").host (.start .empty)
    let second := run plainRequest workshop.host (.start first.2.files)
    let whole := run plainRequest workshop.host (.start .empty)
    first.1 = .error (.toolMissing "tar") ∧ second.1 = whole.1 ∧
      second.2.files = whole.2.files ∧ first.2.made.length + second.2.made.length = 8 := by
  have hfails : (run plainRequest (workshop.without "tar").host (.start .empty)).1 =
      .error (.toolMissing "tar") := by decide +kernel
  have hi : Interrupted (workshop.without "tar").host workshop.host "tar" plainRequest .empty
      (run plainRequest (workshop.without "tar").host (.start .empty)).2.files ["deps"] :=
    { lacks := workshop.lacks_without "tar"
      prepared := by decide +kernel
      resolves := by decide +kernel
      directory := by decide +kernel
      finished := by decide +kernel }
  obtain ⟨hresult, hfiles, -⟩ := run_resumes hfails hi
  exact ⟨hfails, hresult, hfiles, by decide +kernel⟩

end Provision

end LlvmProvision
