import LlvmProvision.Proofs.Rounds
import LlvmProvision.Proofs.Schedule
import LlvmProvision.Rehearsal.Stage

/-!
# Success over a failed build

A run that succeeds should leave a finished build: neither the last command that builds
(`BuildFailed`) nor a later one that unpacks (`UnpackFailed`) has failed.  All that a run knows
of the runs before it is in the files, and there it asks only for the marker.  But a build that
fails may have made the marker before, and no run takes it away.

The main result is `honest_iff`: the runs of a history are honest exactly as long as none of them
finds the marker that a failed build has left.  It rests on what one round does to a broken past
(`Round.buildFailed_next_iff`, `Round.unpackFailed_next_iff`): a round that succeeds repairs it
unless it passes over the stages that failed.  `not_honest_rehearsed` is a history of two rounds
in which the second one reports a success without a call.
-/
namespace LlvmProvision

open Files Tools

variable {made more : List Made} {kind resets : Call → Bool}

/-! ## Calls that broke off -/

/-- The call is the one that builds the package. -/
def Tools.Call.builds : Call → Bool
  | .check _ => false
  | .run command => command.program = "cmake" ∧ command.arguments.head? = some "--build"

/-- The call unpacks an archive. -/
def Tools.Call.unpacks : Call → Bool
  | .check _ => false
  | .run command => command.program = "tar"

/-- A call of the kind failed, and none that could make up for it came after it. -/
def BrokenOff (kind resets : Call → Bool) (made : List Made) : Prop :=
  ∃ before call after, made = before ++ call :: after ∧ kind call.call = true ∧
    call.reply.outcome.isSuccess = false ∧ ∀ other ∈ after, resets other.call = false

theorem not_brokenOff_nil : ¬ BrokenOff kind resets [] := by
  rintro ⟨before, call, after, hm, -⟩
  simp at hm

theorem brokenOff_cons_iff {call : Made} : BrokenOff kind resets (call :: made) ↔
    (kind call.call = true ∧ call.reply.outcome.isSuccess = false ∧
      ∀ other ∈ made, resets other.call = false) ∨ BrokenOff kind resets made := by
  constructor
  · rintro ⟨before, other, after, hm, hother⟩
    cases before with
    | nil =>
      obtain ⟨rfl, rfl⟩ := List.cons.inj hm
      exact .inl hother
    | cons first before =>
      obtain ⟨-, rfl⟩ := List.cons.inj hm
      exact .inr ⟨before, other, after, rfl, hother⟩
  · rintro (hcall | ⟨before, other, after, rfl, hother⟩)
    · exact ⟨[], call, made, rfl, hcall⟩
    · exact ⟨call :: before, other, after, rfl, hother⟩

instance decidableBrokenOff (kind resets : Call → Bool) :
    (made : List Made) → Decidable (BrokenOff kind resets made)
  | [] => isFalse not_brokenOff_nil
  | _ :: made =>
    have := decidableBrokenOff kind resets made
    decidable_of_iff' _ brokenOff_cons_iff

/-- **The most recent call that builds is a failed one.** -/
def BuildFailed (made : List Made) : Prop := BrokenOff Call.builds Call.builds made

/-- **The most recent call that unpacks is a failed one**, and there was none that builds since. -/
def UnpackFailed (made : List Made) : Prop :=
  BrokenOff Call.unpacks (fun call => call.unpacks || call.builds) made

instance (made : List Made) : Decidable (BuildFailed made) :=
  decidableBrokenOff Call.builds Call.builds made

theorem Tools.Call.builds_eq_false {call : Call} (h : call.tool ≠ "cmake") :
    call.builds = false := by
  cases call with
  | check tool => rfl
  | run command =>
    simp only [builds, decide_eq_false_iff_not, not_and]
    exact fun hc => absurd hc h

theorem Tools.Call.unpacks_eq_false {call : Call} (h : call.tool ≠ "tar") :
    call.unpacks = false := by
  cases call with
  | check tool => rfl
  | run command =>
    simp only [unpacks, decide_eq_false_iff_not]
    exact h

/-- Calls that succeed repair what was broken off, or do not touch it. -/
theorem brokenOff_append_iff (hok : ∀ call ∈ more, call.verdict = .ok ()) :
    BrokenOff kind resets (made ++ more) ↔
      BrokenOff kind resets made ∧ ∀ other ∈ more, resets other.call = false := by
  have hgood : ∀ call ∈ more, call.reply.outcome.isSuccess ≠ false := fun call hc =>
    Bool.ne_false_iff.2 (Made.verdict_eq_ok_iff.1 (hok call hc))
  constructor
  · rintro ⟨before, call, after, hm, hk, hv, ha⟩
    -- the call that failed is none of the last ones, for those succeeded
    rcases List.append_eq_append_iff.1 hm.symm with ⟨rest, hmade, hrest⟩ | ⟨rest, -, hmore⟩
    · cases rest with
      | nil =>
        obtain rfl : call :: after = more := hrest
        exact absurd hv (hgood call List.mem_cons_self)
      | cons first rest =>
        obtain ⟨rfl, rfl⟩ := List.cons.inj hrest
        exact ⟨⟨before, call, rest, hmade, hk, hv,
          fun other ho => ha other (List.mem_append_left more ho)⟩,
          fun other ho => ha other (List.mem_append_right rest ho)⟩
    · exact absurd hv (hgood call (by simp [hmore]))
  · rintro ⟨⟨before, call, after, rfl, hk, hv, ha⟩, hmore⟩
    refine ⟨before, call, after ++ more, by simp, hk, hv, fun other ho => ?_⟩
    rcases List.mem_append.1 ho with ho | ho
    · exact ha other ho
    · exact hmore other ho

/-! ## The stages that are passed over -/

namespace BuildTree

variable {here : Location} {host : Host} {source : Path} {configuration : Configuration}
  {jobs : Nat} {files left : Tree} {result : Except Error Path}

/-- A stage that succeeds has built the package exactly if it did not find the marker. -/
theorem Course.not_builds_iff {build : Path}
    (h : Course host source configuration jobs files (.ok build) made left) :
    (∀ call ∈ made, call.call.builds = false) ↔
      files.isPresent host.here (source / directoryName / marker) = true := by
  have hcalls := h.follows.completes build rfl
  have hmap : (∀ call ∈ made, call.call.builds = false) ↔
      ∀ call ∈ made.map Made.call, call.builds = false := by simp
  rw [hmap, hcalls, planned]
  split
  · simp [*]
  · simp [*, calls, packageCommand, Call.builds]

/-- A stage that finds the marker leaves the files as they are. -/
theorem Course.left_of_marker {build : Path}
    (h : Course host source configuration jobs files (.ok build) made left)
    (hm : files.isPresent host.here (source / directoryName / marker) = true) : left = files := by
  have hcalls := h.follows.completes build rfl
  rw [planned_eq_nil_iff.2 hm, List.map_eq_nil_iff] at hcalls
  rw [h.left_eq, hcalls, leftBy_nil]

end BuildTree

namespace Package

variable {host : Host} {source : Path} {files left : Tree}

/-- A stage that succeeds has unpacked an archive exactly if there was one. -/
theorem Course.not_unpacks_iff {package : Option Path}
    (h : Course host source files (.ok package) made left) :
    (∀ call ∈ made, call.call.unpacks = false) ↔ archives host.here source files = [] := by
  have hcalls := h.follows.completes package rfl
  have hmap : (∀ call ∈ made, call.call.unpacks = false) ↔
      ∀ call ∈ made.map Made.call, call.unpacks = false := by simp
  rw [hmap, hcalls]
  generalize hr : Except.ok package = result at h
  cases h with
  | nothing hn => simp [planned, hn]
  | several _ => cases hr
  | unchecked _ _ => cases hr
  | unprepared _ _ _ => cases hr
  | attempted hn _ _ _ => simp [planned, hn, calls, command, extractCommand, Call.unpacks]

end Package

/-! ## One more round -/

namespace Round

variable {round : Round} {past : Past} {files fetched : Tree} {source : Path}

/-- The round has these sources when it comes to building, in these files. -/
def Fetches (round : Round) (files : Tree) (source : Path) (fetched : Tree) : Prop :=
  ∃ session, SourceTree.fetch round.request.root SourceTree.repository SourceTree.branch round.host
    (.start files) = (.ok source, session) ∧ session.files = fetched

/-- **The round takes the build for finished**: when it comes to building, the marker is there. -/
def TrustsMarker (round : Round) (files : Tree) : Prop :=
  ∃ source fetched, round.Fetches files source fetched ∧
    fetched.isPresent round.host.here
      (source / BuildTree.directoryName / BuildTree.marker) = true

/-- **The round takes the build for unpacked as well**: the marker is there, and no archive. -/
def TrustsTree (round : Round) (files : Tree) : Prop :=
  ∃ source fetched, round.Fetches files source fetched ∧
    fetched.isPresent round.host.here
      (source / BuildTree.directoryName / BuildTree.marker) = true ∧
    Package.archives round.host.here source fetched = []

/-- What a round finds when it comes to building is what the first stage has left. -/
theorem fetches_iff {fetching : List Made} {other : Path} {left : Tree}
    (h : SourceTree.Course round.host round.request.root SourceTree.repository SourceTree.branch
      files (.ok source) fetching fetched) :
    round.Fetches files other left ↔ other = source ∧ left = fetched := by
  obtain ⟨session, hs, -, hl⟩ := h.ends (.start files) rfl
  rw [Fetches, hs]
  constructor
  · rintro ⟨after, ha, rfl⟩
    cases ha
    exact ⟨rfl, hl⟩
  · rintro ⟨rfl, rfl⟩
    exact ⟨session, rfl, hl⟩

/-- The course of a round that succeeds. -/
theorem course_of_ok (h : (round.ended files).1 = .ok ()) :
    Provision.Course round.host round.request files (.ok ()) (round.ended files).2.made
      (round.ended files).2.files :=
  Provision.course_iff.2 ⟨h, rfl, rfl⟩

theorem verdict_of_ok (h : (round.ended files).1 = .ok ()) :
    ∀ call ∈ (round.ended files).2.made, call.verdict = .ok () :=
  (course_of_ok h).orderly.verdict_of_ok

/-- A round that succeeds has built exactly if it did not trust the marker. -/
theorem not_builds_iff (h : (round.ended files).1 = .ok ()) :
    (∀ call ∈ (round.ended files).2.made, call.call.builds = false) ↔
      round.TrustsMarker files := by
  obtain ⟨source, fetching, fetched, build, building, built, package, unpacking, hf, hb, hu, hm⟩ :=
    (course_of_ok h).of_ok
  have hfetching : ∀ call ∈ fetching, call.call.builds = false := fun call hc =>
    Call.builds_eq_false (by simp [hf.tool_eq call hc])
  have hunpacking : ∀ call ∈ unpacking, call.call.builds = false := fun call hc =>
    Call.builds_eq_false (by simp [hu.tool_eq call hc])
  have htrust : round.TrustsMarker files ↔ fetched.isPresent round.host.here
      (source / BuildTree.directoryName / BuildTree.marker) = true := by
    simp [TrustsMarker, fetches_iff hf, and_assoc]
  rw [hm, htrust, ← hb.not_builds_iff, List.forall_mem_append, List.forall_mem_append]
  exact ⟨fun hall => hall.1.2, fun hall => ⟨⟨hfetching, hall⟩, hunpacking⟩⟩

/-- A round that succeeds has neither built nor unpacked exactly if it trusted the whole tree. -/
theorem not_unpacks_iff (h : (round.ended files).1 = .ok ()) :
    (∀ call ∈ (round.ended files).2.made, (call.call.unpacks || call.call.builds) = false) ↔
      round.TrustsTree files := by
  obtain ⟨source, fetching, fetched, build, building, built, package, unpacking, hf, hb, hu, hm⟩ :=
    (course_of_ok h).of_ok
  have hstages : (∀ call ∈ (round.ended files).2.made,
      (call.call.unpacks || call.call.builds) = false) ↔
      (∀ call ∈ building, call.call.builds = false) ∧
        ∀ call ∈ unpacking, call.call.unpacks = false := by
    rw [hm, List.forall_mem_append, List.forall_mem_append]
    simp only [Bool.or_eq_false_iff]
    constructor
    · rintro ⟨⟨-, hbuild⟩, hunpack⟩
      exact ⟨fun call hc => (hbuild call hc).2, fun call hc => (hunpack call hc).1⟩
    · -- a stage makes no call of the kind that another one is about
      rintro ⟨hbuild, hunpack⟩
      refine ⟨⟨fun call hc => ⟨?_, ?_⟩, fun call hc => ⟨?_, hbuild call hc⟩⟩,
        fun call hc => ⟨hunpack call hc, ?_⟩⟩
      · exact Call.unpacks_eq_false (by simp [hf.tool_eq call hc])
      · exact Call.builds_eq_false (by simp [hf.tool_eq call hc])
      · exact Call.unpacks_eq_false (by simp [hb.tool_eq call hc])
      · exact Call.builds_eq_false (by simp [hu.tool_eq call hc])
  have htrust : round.TrustsTree files ↔
      fetched.isPresent round.host.here
        (source / BuildTree.directoryName / BuildTree.marker) = true ∧
      Package.archives round.host.here source fetched = [] := by
    simp [TrustsTree, fetches_iff hf, and_assoc]
  rw [hstages, htrust, hb.not_builds_iff, hu.not_unpacks_iff]
  refine and_congr_right fun hmarker => ?_
  rw [hb.left_of_marker hmarker]

/-- **A round that succeeds leaves a build failed exactly if it finds it failed and trusts the
marker.** -/
theorem buildFailed_next_iff (h : (round.ended past.files).1 = .ok ()) :
    BuildFailed (past.next round).made ↔
      BuildFailed past.made ∧ round.TrustsMarker past.files := by
  rw [BuildFailed, BuildFailed, Past.next, brokenOff_append_iff (verdict_of_ok h), not_builds_iff h]

/-- **And likewise for unpacking**, if it trusts the whole tree. -/
theorem unpackFailed_next_iff (h : (round.ended past.files).1 = .ok ()) :
    UnpackFailed (past.next round).made ↔
      UnpackFailed past.made ∧ round.TrustsTree past.files := by
  rw [UnpackFailed, UnpackFailed, Past.next, brokenOff_append_iff (verdict_of_ok h),
    not_unpacks_iff h]

end Round

/-! ## Histories -/

/-- **No round of the history succeeds over a failure**: after a round that succeeds, neither the
last call that builds nor a later one that unpacks has failed. -/
def Honest (files : Tree) (rounds : List Round) : Prop :=
  ∀ earlier round later, rounds = earlier ++ round :: later →
    let past := (Past.start files).after earlier
    (round.ended past.files).1 = .ok () →
      ¬ BuildFailed (past.next round).made ∧ ¬ UnpackFailed (past.next round).made

/-- **A history is honest exactly as long as no round trusts what a failure has left.**  A round
that succeeds must not find the marker when the last build has failed, nor find the marker and no
archive when unpacking has failed since. -/
theorem honest_iff (files : Tree) (rounds : List Round) :
    Honest files rounds ↔ ∀ earlier round later, rounds = earlier ++ round :: later →
      let past := (Past.start files).after earlier
      (round.ended past.files).1 = .ok () →
        (BuildFailed past.made → ¬ round.TrustsMarker past.files) ∧
          (UnpackFailed past.made → ¬ round.TrustsTree past.files) := by
  have hround : ∀ (past : Past) (round : Round), (round.ended past.files).1 = .ok () →
      ((¬ BuildFailed (past.next round).made ∧ ¬ UnpackFailed (past.next round).made) ↔
        (BuildFailed past.made → ¬ round.TrustsMarker past.files) ∧
          (UnpackFailed past.made → ¬ round.TrustsTree past.files)) := by
    intro past round h
    rw [round.buildFailed_next_iff h, round.unpackFailed_next_iff h, not_and, not_and]
  constructor
  · intro hh earlier round later hr past hok
    exact (hround past round hok).1 (hh earlier round later hr hok)
  · intro hh earlier round later hr past hok
    exact (hround past round hok).2 (hh earlier round later hr hok)

/-- A rehearsal in which cloning brings the sources, and building makes the marker and then
fails. -/
def brokenWorkshop : Rehearsal.Stage where
  manner := .direct
  here := []
  coloured := false
  missing := []
  script := [
    ("run:git", ⟨"", [.directory ⟨"deps/llvm"⟩], .ended (.exited 0)⟩),
    ("run:cmake-build", ⟨"", [.file ⟨"deps/llvm/build/lib/libLLVMCore.a"⟩ "core" 1],
      .ended (.exited 1)⟩)]

/-- The same failure every time. -/
def brokenRound : Round := ⟨brokenWorkshop.host, ⟨⟨"deps"⟩, [], [], 1⟩⟩

/-- **A history that is not honest**: of two rounds that start without sources, the first fails
to build, and the second makes no call and succeeds. -/
theorem not_honest_rehearsed :
    Tree.empty.isPresent brokenRound.host.here ⟨"deps/llvm"⟩ = false ∧
      ¬ Honest .empty [brokenRound, brokenRound] := by
  refine ⟨by decide +kernel, fun h => ?_⟩
  have hfailed : BuildFailed (((Past.start .empty).after [brokenRound]).next brokenRound).made := by
    decide +kernel
  exact (h [brokenRound] brokenRound [] rfl (by decide +kernel)).1 hfailed

end LlvmProvision
