import LlvmProvision.Proofs.Growth
import LlvmProvision.Proofs.Replacement
import LlvmProvision.Proofs.Schedule

/-!
# What a run does to the files itself

Most changes to the files are made by the tools.  What the run itself does happens between two
calls, before the first one or after the last.  `Interlude` lists what that may be:

* before the first call, directories on the way to the dependency root are added;
* when the build stage begins, an empty build tree is added where nothing is;
* after the check of the last tool, the archive is moved and the build tree is replaced.

Everywhere else a call meets the files just as the call before it left them.  `Interluded` goes
through the calls of a run and tells the files from interlude to interlude; the main result is
`run_interluded`: this is all that a run does to the files.  For the calls of one stage, between
which there is nothing, there is `Unbroken`.
-/
namespace LlvmProvision

open Files Tools

/-! ## Calls and what is between them -/

/-- **The files along some calls**: what the run does itself between one call and the next,
before the first or after the last one, is one of the changes that `may` be made there. -/
inductive Interluded (may : Option Made → Option Made → Tree → Tree → Prop) :
    Option Made → Tree → List Made → Tree → Prop
  /-- No other call is made. -/
  | ended {last : Option Made} {files left : Tree} :
      may last none files left → Interluded may last files [] left
  /-- There is another call. -/
  | next {last : Option Made} {files left : Tree} {call : Made} {made : List Made} :
      may last (some call) files call.files →
      Interluded may (some call) call.reply.files made left →
      Interluded may last files (call :: made) left

/-- The first call is made on these files, and each other one on what the one before it has
left. -/
inductive Unbroken : Tree → List Made → Tree → Prop
  | nil {files : Tree} : Unbroken files [] files
  | cons {files left : Tree} {call : Made} {made : List Made} :
      call.files = files → Unbroken call.reply.files made left →
      Unbroken files (call :: made) left

variable {host : Host} {files rooted fetched built prepared left : Tree} {last : Option Made}
  {made more : List Made} {may : Option Made → Option Made → Tree → Tree → Prop}

theorem Attempted.unbroken {scheduled : List Call} {result : Except Error Unit}
    (h : Attempted host scheduled files result made left) : Unbroken files made left := by
  induction h with
  | done => exact .nil
  | stopped _ => exact .cons rfl .nil
  | next _ _ ih => exact .cons rfl ih

/-- The last call has left what is there at the end. -/
theorem Unbroken.exists_last (h : Unbroken files made left) (hne : made ≠ []) :
    ∃ call, made.getLast? = some call ∧ left = call.reply.files := by
  induction h with
  | nil => exact absurd rfl hne
  | @cons _ _ call made _ h ih =>
    cases made with
    | nil =>
      cases h
      exact ⟨call, rfl, rfl⟩
    | cons second made =>
      obtain ⟨last, hl, he⟩ := ih (List.cons_ne_nil second made)
      exact ⟨last, by rw [List.getLast?_cons_cons, hl], he⟩

/-- Calls between which nothing happens, before others. -/
theorem Unbroken.interluded (h : Unbroken prepared made built) (hne : made ≠ [])
    (hrest : ∀ call next, may (some call) next call.reply.files call.reply.files)
    (hfirst : may last made.head? files prepared)
    (hmore : Interluded may made.getLast? built more left) :
    Interluded may last files (made ++ more) left := by
  induction h generalizing last files with
  | nil => exact absurd rfl hne
  | @cons _ built call made hc h ih =>
    subst hc
    refine .next hfirst ?_
    cases made with
    | nil =>
      cases h
      exact hmore
    | cons second made =>
      refine ih (List.cons_ne_nil second made) (hrest call _) ?_
      rwa [List.getLast?_cons_cons] at hmore

/-! ## The stages -/

namespace SourceTree

variable {here : Location} {path : Path} {url branch : String} {result : Except Error Path}

/-- **Before the first call the dependency root is made**, and nothing but directories on the way
to it is added. -/
theorem grows_prepare (here : Location) (path : Path) (files : Tree) :
    (prepare here path files).2.Grows files here (·.IsOnWayTo path) := by
  have hg := Tree.grows_createAll files here path
  rw [prepare]
  split
  · rename_i fault left hc
    rwa [hc] at hg
  · rename_i made hc
    rw [hc] at hg
    split
    · exact hg
    · exact hg

/-- The sources are there, or the root is not, and no call is made; or all calls are made one
after the other, and a success means that the last of them has fetched the sources. -/
theorem Course.unbroken (h : Course host path url branch files result made left) :
    (made = [] ∧ left = (prepare host.here path files).2) ∨
      (made ≠ [] ∧ Unbroken (prepare host.here path files).2 made left) := by
  cases h with
  | unprepared hp => exact .inl ⟨rfl, by rw [hp]⟩
  | kept hp _ => exact .inl ⟨rfl, by rw [hp]⟩
  | attempted hp _ ha =>
    refine .inr ⟨?_, by rw [hp]; exact ha.unbroken⟩
    rintro rfl
    cases ha

theorem Course.exists_prepare {source : Path}
    (h : Course host path url branch files (.ok source) made left) :
    ∃ root rooted, prepare host.here path files = (.ok root, rooted) := by
  generalize hr : Except.ok source = result at h
  cases h with
  | unprepared _ => cases hr
  | kept hp _ => exact ⟨_, _, hp⟩
  | attempted hp _ _ => exact ⟨_, _, hp⟩

/-- Where the sources had to be fetched, the last call has fetched them. -/
theorem Course.exists_last {source : Path} {root : Location}
    (h : Course host path url branch files (.ok source) made left)
    (hp : prepare host.here path files = (.ok root, rooted)) (hne : made ≠ []) :
    ∃ call, made.getLast? = some call ∧ call.call = .run (cloneCommand root.path url branch) ∧
      call.verdict = .ok () := by
  generalize hr : Except.ok source = result at h
  cases h with
  | unprepared _ => cases hr
  | kept _ _ => exact absurd rfl hne
  | @attempted _ _ _ result _ hp' _ ha =>
    rw [hp] at hp'
    cases hp'
    cases result with
    | error error => cases hr
    | ok _ =>
      cases ha with
      | next _ hclone =>
        cases hclone with
        | next hv hdone =>
          cases hdone
          exact ⟨_, rfl, rfl, hv⟩

end SourceTree

namespace BuildTree

/-- **At the beginning of the build stage** an empty directory is added where nothing is. -/
def Begins (here : Location) (build : Path) (files prepared : Tree) : Prop :=
  ∃ place, files.isPresent here build = false ∧ files.node? place = none ∧
    (∀ other, prepared.node? other =
      if other = place then some .directory else files.node? other) ∧
    (∀ name, prepared.node? (place ++ [name]) = none) ∧
    prepared.find here build = .ok (.found place)

variable {here : Location} {build : Path}

theorem begins_createDirectory (ha : files.isPresent here build = false)
    (h : files.createDirectory here build = .ok prepared) : Begins here build files prepared := by
  obtain ⟨parent, name, hp, rfl, hw⟩ := Tree.createDirectory_spec h
  obtain ⟨-, hd, hn⟩ := Tree.absent_spec (Tree.walk_missing_spec hw)
  have hview : ∀ other, (files.add parent name .directory).node? other =
      if other = parent ++ [name] then some .directory else files.node? other :=
    Tree.node?_add hd hn
  refine ⟨parent ++ [name], ha, hn, hview, fun inner => ?_, ?_⟩
  · rw [hview, if_neg (by simp), Tree.node?_below_of_none hn]
  · obtain ⟨fewer, hm⟩ := Tree.walk_add_directory hw
    rw [Tree.walk_nil] at hm
    exact Tree.find_of_entrySteps hp hm (by rw [hview, if_pos rfl])

theorem begins_prepare (h : prepare here build files = (.ok (), prepared)) :
    prepared = files ∨ Begins here build files prepared := by
  rw [prepare] at h
  split at h
  · cases h
    exact .inl rfl
  · rename_i absent
    split at h
    · cases h
    · rename_i made hc
      cases h
      exact .inr (begins_createDirectory (Bool.eq_false_iff.2 absent) hc)

theorem prepare_error {error : Error} (h : prepare here build files = (.error error, prepared)) :
    prepared = files := by
  rw [prepare] at h
  split at h
  · cases h
  · split at h
    · cases h
      rfl
    · cases h

variable {source : Path} {configuration : Configuration} {jobs : Nat} {result : Except Error Path}

/-- No call is made and nothing happens to the files; or the build tree is made sure of, and the
check of the tool and the commands follow. -/
theorem Course.unbroken (h : Course host source configuration jobs files result made left) :
    (made = [] ∧ left = files) ∨
      ∃ check rest prepared, made = check :: rest ∧ check.call = .check "cmake" ∧
        (prepared = files ∨ Begins host.here (source / directoryName) files prepared) ∧
        Unbroken prepared made left := by
  cases h with
  | sourceless _ => exact .inl ⟨rfl, rfl⟩
  | unprepared _ hp => exact .inl ⟨rfl, prepare_error hp⟩
  | finished _ hp hm =>
    -- where the marker is found, the build tree was there before
    rw [isPresent_marker_prepare (build_ne_empty source) hp] at hm
    rw [prepare_of_marker (build_ne_empty source) hm] at hp
    cases hp
    exact .inl ⟨rfl, rfl⟩
  | @attempted prepared _ _ _ _ hp _ ha =>
    have hunbroken := ha.unbroken
    refine .inr ?_
    cases ha with
    | stopped _ => exact ⟨_, _, prepared, rfl, rfl, begins_prepare hp, hunbroken⟩
    | next _ _ => exact ⟨_, _, prepared, rfl, rfl, begins_prepare hp, hunbroken⟩

end BuildTree

/-! ## The whole run -/

/-- **What a run may do to the files itself.**  The files were `files` when it began and `rooted`
when the dependency root was made; `last` and `next` are the calls before and after. -/
inductive Interlude (here : Location) (path : Path) (files rooted : Tree) :
    Option Made → Option Made → Tree → Tree → Prop
  /-- Between two calls, and after the last one, it does nothing. -/
  | resting {last : Made} {next : Option Made} :
      Interlude here path files rooted (some last) next last.reply.files last.reply.files
  /-- Before the first call it makes sure of the dependency root. -/
  | rooting {next : Option Made} : Interlude here path files rooted none next files rooted
  /-- If the sources are there, the build stage begins before the first call, too. -/
  | rootingAndBeginning {next : Made} {root : Location} {prepared : Tree} :
      rooted.resolveFromRoot here path = .ok root →
      BuildTree.Begins here (root.path / SourceTree.directoryName / BuildTree.directoryName)
        rooted prepared →
      next.call = .check "cmake" →
      Interlude here path files rooted none (some next) files prepared
  /-- The build stage begins after the sources were fetched. -/
  | beginning {last next : Made} {root : Location} {prepared : Tree} :
      rooted.resolveFromRoot here path = .ok root →
      last.call = .run (SourceTree.cloneCommand root.path SourceTree.repository
        SourceTree.branch) →
      last.verdict = .ok () →
      BuildTree.Begins here (root.path / SourceTree.directoryName / BuildTree.directoryName)
        last.reply.files prepared →
      next.call = .check "cmake" →
      Interlude here path files rooted (some last) (some next) last.reply.files prepared
  /-- The archive is moved and the build tree replaced after the check of the last tool, and
  before its command or the end. -/
  | replacing {last : Made} {next : Option Made} {root : Location} {name : String}
      {replaced : Tree} :
      rooted.resolveFromRoot here path = .ok root →
      last.call = .check "tar" → last.verdict = .ok () →
      Package.archives here (root.path / SourceTree.directoryName) last.files = [name] →
      Package.Replaces here (root.path / SourceTree.directoryName) name last.reply.files
        replaced →
      (∀ call, next = some call →
        call.call = .run (Package.command (root.path / SourceTree.directoryName) name)) →
      Interlude here path files rooted (some last) next last.reply.files replaced

/-- After a call that failed nothing happens. -/
theorem Interlude.eq_of_failed {here : Location} {path : Path} {call : Made} {next : Option Made}
    {before : Tree} (h : Interlude here path files rooted (some call) next before left)
    (hv : call.verdict ≠ .ok ()) : left = call.reply.files := by
  cases h with
  | resting => rfl
  | beginning _ _ ho _ _ => exact absurd ho hv
  | replacing _ _ ho _ _ _ => exact absurd ho hv

/-- After the last call there is the last interlude. -/
theorem Interluded.of_last {call : Made}
    (h : Interluded may last files (made ++ [call]) left) :
    may (some call) none call.reply.files left := by
  induction made generalizing last files with
  | nil =>
    cases h with
    | next _ h =>
      cases h with
      | ended hl => exact hl
  | cons first made ih =>
    cases h with
    | next _ h => exact ih h

section Stages

variable {path : Path} {before : Tree} {root : Location} {source : Path}
  {configuration : Configuration} {jobs : Nat}

/-- The build stage, when at most the dependency root was made since the last call, and before
what comes after it. -/
theorem BuildTree.Course.interluded {result : Except Error Path}
    (h : BuildTree.Course host source configuration jobs fetched result made built)
    (hfirst : ∀ next, Interlude host.here path files rooted last next before fetched)
    (hbegin : ∀ next prepared, next.call = .check "cmake" →
      BuildTree.Begins host.here (source / BuildTree.directoryName) fetched prepared →
      Interlude host.here path files rooted last (some next) before prepared)
    (hmore : ∀ last before,
      (∀ next, Interlude host.here path files rooted last next before built) →
      Interluded (Interlude host.here path files rooted) last before more left) :
    Interluded (Interlude host.here path files rooted) last before (made ++ more) left := by
  rcases h.unbroken with ⟨rfl, rfl⟩ | ⟨check, rest, prepared, rfl, hc, hb, hu⟩
  · exact hmore last before hfirst
  · have hne : check :: rest ≠ [] := List.cons_ne_nil check rest
    obtain ⟨call, hl, rfl⟩ := hu.exists_last hne
    refine hu.interluded hne (fun _ _ => .resting) ?_ ?_
    · rcases hb with rfl | hb
      · exact hfirst _
      · exact hbegin check prepared hc hb
    · rw [hl]
      exact hmore (some call) _ fun next => .resting

/-- The last stage, when nothing but an interlude has happened before it. -/
theorem Package.Course.interluded {result : Except Error (Option Path)}
    (hr : rooted.resolveFromRoot host.here path = .ok root)
    (h : Package.Course host (root.path / SourceTree.directoryName) built result made left)
    (hfirst : ∀ next, Interlude host.here path files rooted last next before built) :
    Interluded (Interlude host.here path files rooted) last before made left := by
  cases h with
  | nothing _ => exact .ended (hfirst none)
  | several _ => exact .ended (hfirst none)
  | unchecked _ _ => exact .next (hfirst _) (.ended .resting)
  | @unprepared name _ _ hn hv hp =>
    have hreplaces := replaces_prepare host.here (root.path / SourceTree.directoryName) name
      (host.answer (.check "tar") built).reply.files
    rw [hp] at hreplaces
    exact .next (hfirst _) (.ended (.replacing hr rfl hv hn hreplaces (by simp)))
  | @attempted name _ _ _ _ hn hv hp ha =>
    have hreplaces := replaces_prepare host.here (root.path / SourceTree.directoryName) name
      (host.answer (.check "tar") built).reply.files
    rw [hp] at hreplaces
    refine .next (hfirst _) ?_
    cases ha with
    | stopped _ =>
      exact .next (.replacing hr rfl hv hn hreplaces (by rintro _ ⟨⟩; rfl)) (.ended .resting)
    | next _ hdone =>
      cases hdone
      exact .next (.replacing hr rfl hv hn hreplaces (by rintro _ ⟨⟩; rfl)) (.ended .resting)

end Stages

namespace Provision

variable {request : Request}

/-- The first two stages, and what comes after them. -/
theorem interluded_of_fetched {source : Path} {result : Except Error Path}
    {configuration : Configuration} {jobs : Nat} {root : Location} {path : Path}
    {fetching building : List Made}
    (hp : SourceTree.prepare host.here path files = (.ok root, rooted))
    (hf : SourceTree.Course host path SourceTree.repository SourceTree.branch files
      (.ok source) fetching fetched)
    (hb : BuildTree.Course host source configuration jobs fetched result building built)
    (hmore : ∀ last before,
      (∀ next, Interlude host.here path files rooted last next before built) →
      Interluded (Interlude host.here path files rooted) last before more left) :
    Interluded (Interlude host.here path files rooted) none files (fetching ++ (building ++ more))
      left := by
  obtain ⟨hr, -⟩ := SourceTree.prepare_spec hp
  obtain rfl := hf.source_eq hp
  have hu := hf.unbroken
  rw [hp] at hu
  rcases hu with ⟨rfl, rfl⟩ | ⟨hne, hu⟩
  · exact hb.interluded (fun _ => .rooting)
      (fun next prepared hc hbegin => .rootingAndBeginning hr hbegin hc) hmore
  · obtain ⟨call, hl, rfl⟩ := hu.exists_last hne
    obtain ⟨same, hl', hclone, hv⟩ := hf.exists_last hp hne
    obtain rfl : call = same := by simpa [hl] using hl'
    refine hu.interluded hne (fun _ _ => .resting) .rooting ?_
    rw [hl]
    exact hb.interluded (fun _ => .resting)
      (fun next prepared hc hbegin => .beginning hr hclone hv hbegin hc) hmore

/-- **What happens between the calls of a run, before the first and after the last.** -/
theorem Course.interluded {result : Except Error Unit}
    (h : Course host request files result made left) :
    Interluded (Interlude host.here request.root files
      (SourceTree.prepare host.here request.root files).2) none files made left := by
  cases h with
  | unfetched hf =>
    rcases hf.unbroken with ⟨rfl, rfl⟩ | ⟨hne, hu⟩
    · exact .ended .rooting
    · obtain ⟨call, hl, rfl⟩ := hu.exists_last hne
      rw [← List.append_nil made]
      refine hu.interluded hne (fun _ _ => .resting) .rooting ?_
      rw [hl]
      exact .ended .resting
  | @unbuilt _ _ fetching building _ _ hf hb =>
    obtain ⟨root, rooted, hp⟩ := hf.exists_prepare
    rw [hp, ← List.append_nil building]
    exact interluded_of_fetched hp hf hb fun last before hfirst => .ended (hfirst none)
  | built hf hb hu =>
    obtain ⟨root, rooted, hp⟩ := hf.exists_prepare
    obtain rfl := hf.source_eq hp
    rw [hp, List.append_assoc]
    exact interluded_of_fetched hp hf hb fun last before hfirst =>
      hu.interluded (SourceTree.prepare_spec hp).1 hfirst

/-- **All that a run does to the files itself.**  The tree with the dependency root has grown
by directories on the way there; from then on a run changes nothing but in the interludes; and if
a call failed, the files at the end are those that this call has left. -/
theorem run_interluded (host : Host) (request : Request) (files : Tree) :
    let ended := run request host (.start files)
    ∃ rooted : Tree, rooted.Grows files host.here (·.IsOnWayTo request.root) ∧
      Interluded (Interlude host.here request.root files rooted) none files ended.2.made
        ended.2.files ∧
      ∀ call ∈ ended.2.made, call.verdict ≠ .ok () → ended.2.files = call.reply.files := by
  intro ended
  have hcourse : Course host request files ended.1 ended.2.made ended.2.files :=
    course_iff.2 ⟨rfl, rfl, rfl⟩
  refine ⟨(SourceTree.prepare host.here request.root files).2, SourceTree.grows_prepare ..,
    hcourse.interluded, fun call hc hv => ?_⟩
  -- a call that failed is the last one
  obtain ⟨error, he⟩ : ∃ error, call.verdict = .error error := by
    cases hver : call.verdict with
    | ok _ => exact absurd hver hv
    | error error => exact ⟨error, rfl⟩
  obtain ⟨earlier, later, hm⟩ := List.append_of_mem hc
  obtain ⟨rfl, -⟩ := hcourse.orderly.failing earlier call later error hm he
  have hi := hcourse.interluded
  rw [hm] at hi
  exact hi.of_last.eq_of_failed hv

end Provision

end LlvmProvision
