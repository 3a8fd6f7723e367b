import LlvmProvision.Proofs.Marker

/-!
# The schedule of a run

Which calls a run is going to make is decided by what it finds: by the sources when the
dependency root is prepared, by the marker when the sources are fetched, and by the archives
when the build is done.  `Schedule.Fits` ties the calls of each stage to the files at that
time, which are the files that the calls so far have left (`leftBy`).

The main result is `run_follows_schedule`: a run makes its calls in the order of the schedule;
each of them succeeds, or it is the last one and its failure is the result of the run
(`Orderly`); and a run that succeeds has made all of them.  For each stage it is shown that its
calls follow what is planned for it (`Follows`), and that stages that follow each other add up
(`Follows.append`, `Orderly.append`).
-/
namespace LlvmProvision

open Files Tools

variable {α β : Type} {host : Host} {files left : Tree} {made more : List Made}
  {scheduled others : List Call}

/-! ## The files after some calls -/

/-- The files that some calls have left, the last of them having the last word. -/
def leftBy (files : Tree) (made : List Made) : Tree :=
  (made.getLast?.map fun call => call.reply.files).getD files

theorem leftBy_nil (files : Tree) : leftBy files [] = files := rfl

theorem leftBy_append (files : Tree) (made more : List Made) :
    leftBy files (made ++ more) = leftBy (leftBy files made) more := by
  rcases List.eq_nil_or_concat more with rfl | ⟨rest, last, rfl⟩
  · rw [List.append_nil, leftBy_nil]
  · simp [leftBy]

/-- Where a call was made, it does not matter what the files were before. -/
theorem leftBy_of_ne_nil {other : Tree} (h : made ≠ []) :
    leftBy files made = leftBy other made := by
  simp [leftBy, List.getLast?_eq_some_getLast h]

theorem Attempted.left_eq {result : Except Error Unit}
    (h : Attempted host scheduled files result made left) : left = leftBy files made := by
  induction h with
  | done => rfl
  | stopped _ => rfl
  | @next call _ files left result made _ _ ih =>
    rw [ih, ← List.singleton_append, leftBy_append]
    rfl

/-! ## Calls that are in order -/

/-- The calls of a run or a stage are in order: each was answered by the host, and after one
that failed there was no other, and the failure is the result. -/
structure Orderly (host : Host) (result : Except Error α) (made : List Made) : Prop where
  answered : ∀ call ∈ made, call = host.answer call.call call.files
  failing : ∀ before call after error, made = before ++ call :: after →
    call.verdict = .error error → after = [] ∧ result = .error error

theorem Orderly.nil {result : Except Error α} : Orderly host result [] where
  answered := by simp
  failing := by simp

/-- Where the result is a success, no call failed. -/
theorem Orderly.verdict_of_ok {value : α} (h : Orderly host (.ok value) made) :
    ∀ call ∈ made, call.verdict = .ok () := by
  intro call hc
  obtain ⟨before, after, hm⟩ := List.append_of_mem hc
  cases hv : call.verdict with
  | ok _ => rfl
  | error error => cases (h.failing before call after error hm hv).2

theorem Orderly.append {value : α} {result : Except Error β} (h : Orderly host (.ok value) made)
    (h' : Orderly host result more) : Orderly host result (made ++ more) where
  answered call hc := (List.mem_append.1 hc).elim (h.answered call) (h'.answered call)
  failing before call after error hm hv := by
    -- the failing call is none of the first stage, so it is split off the second
    rcases List.append_eq_append_iff.1 hm.symm with ⟨rest, hmade, hrest⟩ | ⟨rest, hbefore, hmore⟩
    · cases rest with
      | nil => exact h'.failing [] call after error (by simpa using hrest.symm) hv
      | cons first rest =>
        obtain ⟨rfl, -⟩ := List.cons.inj hrest
        have hc : call ∈ made := by simp [hmade]
        rw [h.verdict_of_ok call hc] at hv
        cases hv
    · exact h'.failing rest call after error hmore hv

theorem Orderly.map {result : Except Error α} (f : α → β) (h : Orderly host result made) :
    Orderly host (result.map f) made where
  answered := h.answered
  failing before call after error hm hv := by
    obtain ⟨ha, rfl⟩ := h.failing before call after error hm hv
    exact ⟨ha, rfl⟩

theorem orderly_answer (host : Host) (call : Call) (files : Tree) :
    Orderly host (host.answer call files).verdict [host.answer call files] where
  answered := by
    rintro _ (_ | ⟨_, ⟨⟩⟩)
    rfl
  failing before other after error hm hv := by
    obtain ⟨rfl, hc⟩ := List.append_eq_singleton_iff.1 hm.symm |>.resolve_right (by simp)
    obtain ⟨rfl, rfl⟩ := List.cons.inj hc
    exact ⟨rfl, hv⟩

theorem Attempted.orderly {result : Except Error Unit}
    (h : Attempted host scheduled files result made left) : Orderly host result made := by
  induction h with
  | done => exact .nil
  | @stopped call _ files _ hv => exact hv ▸ orderly_answer host call files
  | @next call _ files _ _ _ hv _ ih =>
    have hc := orderly_answer host call files
    rw [hv] at hc
    exact hc.append ih

/-! ## Calls that follow a plan -/

/-- The calls are the first of those planned, and all of them after a success. -/
structure Follows (result : Except Error α) (made : List Made) (scheduled : List Call) :
    Prop where
  begins : made.map Made.call <+: scheduled
  completes : ∀ value, result = .ok value → made.map Made.call = scheduled

theorem Follows.nil (result : Except Error α) : Follows result [] [] where
  begins := List.prefix_rfl
  completes _ _ := rfl

/-- The calls that were made up to a success are as many as were planned. -/
theorem Follows.length_eq {value : α} (h : Follows (.ok value) made scheduled) :
    made.length = scheduled.length := by
  rw [← h.completes value rfl, List.length_map]

/-- Every call that was made was planned. -/
theorem Follows.mem_scheduled {result : Except Error α} {call : Made}
    (h : Follows result made scheduled) (hm : call ∈ made) : call.call ∈ scheduled :=
  h.begins.subset (List.mem_map_of_mem hm)

theorem Follows.of_error {error : Error}
    (h : Follows (.error error : Except Error α) made scheduled)
    (others : List Call) : Follows (.error error : Except Error β) made (scheduled ++ others) where
  begins := h.begins.trans (List.prefix_append scheduled others)
  completes := by simp

theorem Follows.append {value : α} {result : Except Error β}
    (h : Follows (.ok value) made scheduled)
    (h' : Follows result more others) : Follows result (made ++ more) (scheduled ++ others) where
  begins := by
    rw [List.map_append, h.completes value rfl, List.prefix_append_right_inj]
    exact h'.begins
  completes last hl := by rw [List.map_append, h.completes value rfl, h'.completes last hl]

theorem Follows.map {result : Except Error α} (f : α → β) (h : Follows result made scheduled) :
    Follows (result.map f) made scheduled where
  begins := h.begins
  completes value hv := by
    cases result with
    | error error => cases hv
    | ok first => exact h.completes first rfl

theorem follows_answer (host : Host) (call : Call) (files : Tree) :
    Follows (host.answer call files).verdict [host.answer call files] [call] where
  begins := List.prefix_rfl
  completes _ _ := rfl

theorem Attempted.follows {result : Except Error Unit}
    (h : Attempted host scheduled files result made left) : Follows result made scheduled := by
  induction h with
  | done => exact .nil _
  | stopped _ =>
    exact ⟨by simp [Host.answer], by simp⟩
  | next _ _ ih =>
    refine ⟨?_, fun value hv => ?_⟩
    · simpa [Host.answer] using ih.begins
    · simpa [Host.answer] using ih.completes value hv

/-! ## What is planned for each stage -/

namespace SourceTree

/-- The calls planned for fetching the sources, by what is found under the prepared root. -/
def planned (here root : Location) (rooted : Tree) : List Call :=
  if rooted.isPresent here (root.path / directoryName) then []
  else calls root.path repository branch

variable {here root : Location} {rooted : Tree} {path : Path} {result : Except Error Path}

theorem planned_eq_nil_iff : planned here root rooted = [] ↔
    rooted.isPresent here (root.path / directoryName) = true := by
  simp [planned, calls]

theorem tool_of_mem_calls {url branch : String} :
    ∀ call ∈ calls path url branch, call.tool = "git" := by
  simp [calls, cloneCommand, Call.tool]

theorem Course.tool_eq {url branch : String}
    (h : Course host path url branch files result made left) :
    ∀ call ∈ made, call.call.tool = "git" := by
  cases h with
  | unprepared _ => simp
  | kept _ _ => simp
  | attempted _ _ ha => exact fun call hm => tool_of_mem_calls _ (ha.follows.mem_scheduled hm)

theorem Course.orderly {url branch : String}
    (h : Course host path url branch files result made left) : Orderly host result made := by
  cases h with
  | unprepared _ => exact .nil
  | kept _ _ => exact .nil
  | attempted _ _ ha => exact ha.orderly.map _

theorem Course.left_eq {url branch : String}
    (h : Course host path url branch files result made left)
    (hp : prepare host.here path files = (.ok root, rooted)) : left = leftBy rooted made := by
  cases h with
  | unprepared hp' => simp [hp] at hp'
  | kept hp' _ =>
    rw [hp] at hp'
    cases hp'
    rfl
  | attempted hp' _ ha =>
    rw [hp] at hp'
    cases hp'
    exact ha.left_eq

theorem Course.follows (h : Course host path repository branch files result made left)
    (hp : prepare host.here path files = (.ok root, rooted)) :
    Follows result made (planned host.here root rooted) := by
  cases h with
  | unprepared hp' => simp [hp] at hp'
  | kept hp' hs =>
    rw [hp] at hp'
    cases hp'
    rw [planned, if_pos hs]
    exact .nil _
  | attempted hp' hs ha =>
    rw [hp] at hp'
    cases hp'
    rw [planned, if_neg (by simp [hs])]
    exact ha.follows.map _

/-- The sources are kept below the location of the root. -/
theorem Course.source_eq {source : Path} {url branch : String}
    (h : Course host path url branch files (.ok source) made left)
    (hp : prepare host.here path files = (.ok root, rooted)) :
    source = root.path / directoryName := by
  generalize hr : Except.ok source = result at h
  cases h with
  | unprepared _ => cases hr
  | kept hp' _ =>
    rw [hp] at hp'
    cases hp'
    cases hr
    rfl
  | @attempted _ _ _ result _ hp' _ _ =>
    rw [hp] at hp'
    cases hp'
    cases result with
    | error error => cases hr
    | ok _ =>
      cases hr
      rfl

end SourceTree

namespace BuildTree

/-- The calls planned for building the package, by whether the marker is found. -/
def planned (here : Location) (source : Path) (configuration : Configuration) (jobs : Nat)
    (files : Tree) : List Call :=
  if files.isPresent here (source / directoryName / marker) then []
  else calls (source / directoryName) configuration jobs

variable {here : Location} {source : Path} {configuration : Configuration} {jobs : Nat}
  {result : Except Error Path}

theorem planned_eq_nil_iff : planned here source configuration jobs files = [] ↔
    files.isPresent here (source / directoryName / marker) = true := by
  simp [planned, calls]

theorem tool_of_mem_calls {build : Path} :
    ∀ call ∈ calls build configuration jobs, call.tool = "cmake" := by
  simp [calls, configureCommand, packageCommand, Call.tool]

theorem Course.tool_eq (h : Course host source configuration jobs files result made left) :
    ∀ call ∈ made, call.call.tool = "cmake" := by
  cases h with
  | sourceless _ => simp
  | unprepared _ _ => simp
  | finished _ _ _ => simp
  | attempted _ _ _ ha => exact fun call hm => tool_of_mem_calls _ (ha.follows.mem_scheduled hm)

theorem Course.orderly (h : Course host source configuration jobs files result made left) :
    Orderly host result made := by
  cases h with
  | sourceless _ => exact .nil
  | unprepared _ _ => exact .nil
  | finished _ _ _ => exact .nil
  | attempted _ _ _ ha => exact ha.orderly.map _

/-- If the stage does not come to its calls, it fails, and the calls that were planned do not
matter. -/
theorem Course.follows (h : Course host source configuration jobs files result made left) :
    Follows result made (planned host.here source configuration jobs files) := by
  cases h with
  | sourceless _ => exact ⟨List.nil_prefix, by simp⟩
  | unprepared _ _ => exact ⟨List.nil_prefix, by simp⟩
  | finished _ hp hm =>
    rw [isPresent_marker_prepare (build_ne_empty source) hp] at hm
    rw [planned, if_pos hm]
    exact .nil _
  | attempted _ hp hm ha =>
    rw [isPresent_marker_prepare (build_ne_empty source) hp] at hm
    rw [planned, if_neg (by simp [hm])]
    exact ha.follows.map _

/-- A finished stage leaves what its calls have left. -/
theorem Course.left_eq {build : Path}
    (h : Course host source configuration jobs files (.ok build) made left) :
    left = leftBy files made := by
  generalize hr : Except.ok build = result at h
  cases h with
  | sourceless _ => cases hr
  | unprepared _ _ => cases hr
  | finished _ hp hm =>
    rw [isPresent_marker_prepare (build_ne_empty source) hp] at hm
    rw [prepare_of_marker (build_ne_empty source) hm] at hp
    cases hp
    rfl
  | @attempted _ _ result made _ _ _ ha =>
    cases result with
    | error error => cases hr
    | ok _ =>
      -- the calls were made on the prepared files, but the last of them has replaced those
      have hne : made ≠ [] := by
        rintro rfl
        simpa [calls] using (ha.follows.completes () rfl).symm
      rw [ha.left_eq, leftBy_of_ne_nil hne]

end BuildTree

namespace Package

/-- The calls planned for unpacking, by the archives that are found. -/
def planned (here : Location) (source : Path) (files : Tree) : List Call :=
  match archives here source files with
  | [name] => calls source name
  | _ => []

variable {here : Location} {source : Path} {result : Except Error (Option Path)}

theorem planned_ne_nil_iff : planned here source files ≠ [] ↔
    ∃ name, archives here source files = [name] := by
  rw [planned]
  split
  · rename_i name hn
    simp [calls, hn]
  · rename_i hn
    simp only [ne_eq, not_true_eq_false, false_iff, not_exists]
    exact hn

theorem Course.orderly (h : Course host source files result made left) :
    Orderly host result made := by
  cases h with
  | nothing _ => exact .nil
  | several _ => exact .nil
  | unchecked _ hv =>
    have hc := orderly_answer host (.check "tar") files
    rw [hv] at hc
    exact hc.map fun _ => none
  | unprepared _ hv _ =>
    have hc := orderly_answer host (.check "tar") files
    rw [hv] at hc
    exact hc.append .nil
  | attempted _ hv _ ha =>
    have hc := orderly_answer host (.check "tar") files
    rw [hv] at hc
    exact hc.append (ha.orderly.map _)

theorem Course.follows (h : Course host source files result made left) :
    Follows result made (planned host.here source files) := by
  cases h with
  | nothing hn =>
    simp only [planned, hn]
    exact .nil _
  | several hn =>
    rw [planned]
    split
    · rename_i name he
      simp [he] at hn
    · exact .nil _
  | unchecked hn hv =>
    have hc := follows_answer host (.check "tar") files
    rw [hv] at hc
    simp only [planned, hn]
    exact hc.of_error _
  | unprepared hn hv _ =>
    have hc := follows_answer host (.check "tar") files
    rw [hv] at hc
    simp only [planned, hn]
    exact hc.append ⟨List.nil_prefix, by simp⟩
  | attempted hn hv _ ha =>
    have hc := follows_answer host (.check "tar") files
    rw [hv] at hc
    simp only [planned, hn]
    exact hc.append (ha.follows.map _)

theorem tool_of_mem_calls {name : String} : ∀ call ∈ calls source name, call.tool = "tar" := by
  simp [calls, command, extractCommand, Call.tool]

theorem Course.tool_eq (h : Course host source files result made left) :
    ∀ call ∈ made, call.call.tool = "tar" := by
  intro call hm
  have hc := h.follows.mem_scheduled hm
  rw [planned] at hc
  split at hc
  · exact tool_of_mem_calls _ hc
  · simp at hc

end Package

/-! ## The whole run -/

/-- The calls of a run, stage by stage. -/
structure Schedule where
  fetching : List Call
  building : List Call
  unpacking : List Call

namespace Schedule

/-- All calls of a schedule, in order. -/
def calls (schedule : Schedule) : List Call :=
  schedule.fetching ++ schedule.building ++ schedule.unpacking

/-- **A schedule fits the run** that found its dependency root at `root` in the files `rooted`
and has made these calls.  Each stage has all of its calls or none, and has none exactly if
its work is found to be done when the stage begins: the sources are there, the marker is
there, and there is no archive or no single one. -/
structure Fits (schedule : Schedule) (host : Host) (request : Request) (root : Location)
    (rooted : Tree) (made : List Made) : Prop where
  fetching : schedule.fetching = [] ∨
    schedule.fetching = SourceTree.calls root.path SourceTree.repository SourceTree.branch
  fetching_iff : schedule.fetching = [] ↔
    rooted.isPresent host.here (root.path / SourceTree.directoryName) = true
  building : schedule.building = [] ∨ schedule.building =
    BuildTree.calls (root.path / SourceTree.directoryName / BuildTree.directoryName)
      (.ofLists request.backends request.projects) request.jobs
  building_iff : schedule.building = [] ↔
    (leftBy rooted (made.take schedule.fetching.length)).isPresent host.here
      (root.path / SourceTree.directoryName / BuildTree.directoryName / BuildTree.marker) = true
  unpacking : schedule.unpacking = [] ∨ ∃ name, schedule.unpacking =
    Package.calls (root.path / SourceTree.directoryName) name
  unpacking_iff : schedule.unpacking ≠ [] ↔ ∃ name,
    Package.archives host.here (root.path / SourceTree.directoryName)
      (leftBy rooted (made.take (schedule.fetching.length + schedule.building.length))) = [name]

variable {request : Request} {root : Location} {rooted : Tree}

/-- The schedule of a run: what is planned for each stage on the files that it begins with. -/
def ofRun (host : Host) (request : Request) (root : Location) (rooted : Tree)
    (made : List Made) : Schedule :=
  let source := root.path / SourceTree.directoryName
  let fetching := SourceTree.planned host.here root rooted
  let building := BuildTree.planned host.here source
    (.ofLists request.backends request.projects) request.jobs
    (leftBy rooted (made.take fetching.length))
  { fetching
    building
    unpacking := Package.planned host.here source
      (leftBy rooted (made.take (fetching.length + building.length))) }

theorem ofRun_fetching : (ofRun host request root rooted made).fetching =
    SourceTree.planned host.here root rooted := by
  simp only [ofRun]

theorem ofRun_building : (ofRun host request root rooted made).building =
    BuildTree.planned host.here (root.path / SourceTree.directoryName)
      (.ofLists request.backends request.projects) request.jobs
      (leftBy rooted (made.take (ofRun host request root rooted made).fetching.length)) := by
  simp only [ofRun]

theorem ofRun_unpacking : (ofRun host request root rooted made).unpacking =
    Package.planned host.here (root.path / SourceTree.directoryName)
      (leftBy rooted (made.take ((ofRun host request root rooted made).fetching.length +
        (ofRun host request root rooted made).building.length))) := by
  simp only [ofRun]

theorem fits_ofRun (host : Host) (request : Request) (root : Location) (rooted : Tree)
    (made : List Made) :
    (ofRun host request root rooted made).Fits host request root rooted made := by
  constructor
  · rw [ofRun_fetching, SourceTree.planned]
    split
    · exact .inl rfl
    · exact .inr rfl
  · rw [ofRun_fetching, SourceTree.planned_eq_nil_iff]
  · rw [ofRun_building, BuildTree.planned]
    split
    · exact .inl rfl
    · exact .inr rfl
  · rw [ofRun_building, BuildTree.planned_eq_nil_iff]
  · rw [ofRun_unpacking, Package.planned]
    split
    · exact .inr ⟨_, rfl⟩
    · exact .inl rfl
  · rw [ofRun_unpacking, Package.planned_ne_nil_iff]

end Schedule

namespace Provision

variable {request : Request} {root : Location} {rooted : Tree} {result : Except Error Unit}

theorem Course.orderly (h : Course host request files result made left) :
    Orderly host result made := by
  cases h with
  | unfetched hf => exact (hf.orderly.map fun _ => ())
  | unbuilt hf hb => exact hf.orderly.append (hb.orderly.map fun _ => ())
  | built hf hb hp => exact (hf.orderly.append hb.orderly).append (hp.orderly.map _)

theorem Course.follows (h : Course host request files result made left)
    (hp : SourceTree.prepare host.here request.root files = (.ok root, rooted)) :
    Follows result made (Schedule.ofRun host request root rooted made).calls := by
  cases h with
  | unfetched hf =>
    rw [Schedule.calls, List.append_assoc, Schedule.ofRun_fetching]
    exact (hf.follows hp).of_error _
  | @unbuilt source _ fetching building fetched _ hf hb =>
    have hfetch := hf.follows hp
    have hbuild := hb.follows
    obtain rfl := hf.source_eq hp
    obtain rfl := hf.left_eq hp
    rw [Schedule.calls, Schedule.ofRun_building, Schedule.ofRun_fetching,
      List.take_left' hfetch.length_eq]
    exact (hfetch.append hbuild).of_error _
  | @built source _ _ fetching building unpacking fetched built _ hf hb hu =>
    have hfetch := hf.follows hp
    have hbuild := hb.follows
    have hunpack := hu.follows
    obtain rfl := hf.source_eq hp
    obtain rfl := hf.left_eq hp
    obtain rfl := hb.left_eq
    -- each stage is planned on what the calls of the stages before it have left
    have hfirst : (fetching ++ building ++ unpacking).take
        (SourceTree.planned host.here root rooted).length = fetching := by
      rw [List.append_assoc, List.take_left' hfetch.length_eq]
    rw [Schedule.calls, Schedule.ofRun_unpacking, Schedule.ofRun_building,
      Schedule.ofRun_fetching, hfirst, List.take_left' ?_, leftBy_append]
    · exact ((hfetch.append hbuild).append hunpack).map _
    · rw [List.length_append, hfetch.length_eq, hbuild.length_eq]

/-- **A run follows its schedule.**  The schedule is fixed by what the stages find when they
begin; the run makes its calls in that order, stops at the first that fails and fails like it,
and makes all of them if it succeeds.  Without a dependency root there is no call at all. -/
theorem run_follows_schedule (host : Host) (request : Request) (files : Tree) :
    let ended := run request host (.start files)
    let prepared := SourceTree.prepare host.here request.root files
    Orderly host ended.1 ended.2.made ∧
      match prepared.1 with
      | .error error => ended.1 = .error error ∧ ended.2.made = []
      | .ok root => ∃ schedule : Schedule,
        schedule.Fits host request root prepared.2 ended.2.made ∧
          Follows ended.1 ended.2.made schedule.calls := by
  intro ended prepared
  have hcourse : Course host request files ended.1 ended.2.made ended.2.files :=
    course_iff.2 ⟨rfl, rfl, rfl⟩
  refine ⟨hcourse.orderly, ?_⟩
  rcases hp : SourceTree.prepare host.here request.root files with ⟨error | root, rooted⟩
  · have hend : Course host request files (.error error) [] rooted := .unfetched (.unprepared hp)
    obtain ⟨hresult, hmade, -⟩ := course_iff.1 hend
    simp only [prepared, hp]
    exact ⟨hresult, hmade⟩
  · simp only [prepared, hp]
    exact ⟨.ofRun host request root rooted ended.2.made, Schedule.fits_ofRun .., hcourse.follows hp⟩

end Provision

end LlvmProvision
