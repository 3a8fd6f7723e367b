import LlvmProvision.Proofs.ArchiveNames
import LlvmProvision.Proofs.Resumption

/-!
# The spelling of the dependency root

There are many ways to spell the path of a directory: from the root or from the working
directory, with dots, with slashes to spare, through links.  To a run they are all the same.  As
soon as the path is resolved, the run goes on with the location alone, and making sure of a
directory that is there neither changes nor prints anything.  So two runs that differ in the
spelling only do the same (`run_respelled`), and the commands start in directories, and are given
paths, that are told by the location (`Stationed`).
-/
namespace LlvmProvision

open Files Tools

/-! ## Paths below a location -/

namespace Files

/-- An absolute path that goes on from another one. -/
structure Path.IsBelow (path above : Path) : Prop where
  absolute : path.isAbsolute = true
  inside : ∃ rest, rest ≠ "" ∧ path.text = above.text ++ "/" ++ rest

theorem Location.isAbsolute_path (root : Location) : root.path.isAbsolute = true := by
  simp [Location.path, Path.isAbsolute]

theorem Location.path_ne_empty (root : Location) : root.path.text ≠ "" := by
  simp [Location.path]

theorem Path.isBelow_join {path : Path} {part : String} (absolute : path.isAbsolute = true)
    (unslashed : path.endsInSlash = false) (nonempty : path.text ≠ "")
    (relative : isAbsolute ⟨part⟩ = false) (filled : part ≠ "") : (path / part).IsBelow path where
  absolute := by rw [isAbsolute_join relative nonempty, absolute]
  inside := ⟨part, filled, by simp [join_text relative nonempty, unslashed]⟩

end Files

/-- What is joined to the path of the source tree is below it. -/
theorem SourceTree.isBelow_join {root : Location} {part : String}
    (relative : Path.isAbsolute ⟨part⟩ = false) (filled : part ≠ "") :
    (root.path / directoryName / part).IsBelow (root.path / directoryName) := by
  have hrelative : Path.isAbsolute ⟨directoryName⟩ = false := by decide
  refine Path.isBelow_join ?_ ?_ (BuildTree.source_ne_empty root.path) relative filled
  · rw [Path.isAbsolute_join hrelative root.path_ne_empty, root.isAbsolute_path]
  · rw [Path.endsInSlash_join hrelative root.path_ne_empty (by decide)]
    decide

/-! ## Where commands start -/

/-- **Where the commands start and which paths they are given**, if the dependency root is at
`root`. -/
inductive Stationed (root : Location) (command : Command) : Prop
  /-- The sources are fetched in the dependency root. -/
  | fetching : command.program = "git" → command.directory = some root.path →
      Stationed root command
  /-- The package is built in the build tree. -/
  | building : command.program = "cmake" →
      command.directory =
        some (root.path / SourceTree.directoryName / BuildTree.directoryName) →
      Stationed root command
  /-- The package is unpacked in the source tree, from an archive and to a directory that are
  below it. -/
  | unpacking {archive build : Path} : command.program = "tar" →
      command.directory = some (root.path / SourceTree.directoryName) →
      command.arguments =
        ["xf", archive.text, "--strip-components=1", "--directory=" ++ build.text] →
      archive.IsBelow (root.path / SourceTree.directoryName) →
      build.IsBelow (root.path / SourceTree.directoryName) →
      Stationed root command

theorem Schedule.stationed {host : Host} {request : Request} {root : Location} {rooted : Tree}
    {made : List Made} {command : Command}
    (h : .run command ∈ (Schedule.ofRun host request root rooted made).calls) :
    Stationed root command := by
  simp only [calls, List.mem_append, ofRun_fetching, ofRun_building, ofRun_unpacking] at h
  rcases h with (h | h) | h
  · rw [SourceTree.planned] at h
    split at h
    · cases h
    · obtain rfl : command = SourceTree.cloneCommand root.path _ _ := by
        simpa [SourceTree.calls] using h
      exact .fetching rfl rfl
  · rw [BuildTree.planned] at h
    split at h
    · cases h
    · obtain rfl | rfl : command = BuildTree.configureCommand _ _ ∨
          command = BuildTree.packageCommand _ _ := by simpa [BuildTree.calls] using h
      · exact .building rfl rfl
      · exact .building rfl rfl
  · rw [Package.planned] at h
    split at h
    · rename_i name hn
      obtain rfl : command = Package.command _ name := by simpa [Package.calls] using h
      obtain ⟨harchive, -⟩ := Package.mem_archives_iff.1 (hn ▸ List.mem_singleton_self name)
      exact .unpacking rfl rfl rfl
        (SourceTree.isBelow_join (Archive.isAbsolute_of_isArchiveName harchive)
          (Archive.ne_empty_of_isArchiveName harchive))
        (SourceTree.isBelow_join (by decide) (by decide))
    · cases h

/-! ## Two spellings -/

section Respelled

variable {host : Host} {session : Session} {root : Location} {first second : Path}

/-- Fetching does not notice how a path is spelled. -/
theorem SourceTree.fetch_respelled {url branch : String}
    (hd : session.files.node? root = some .directory)
    (hfirst : session.files.resolveFromRoot host.here first = .ok root)
    (hsecond : session.files.resolveFromRoot host.here second = .ok root) :
    fetch first url branch host session = fetch second url branch host session := by
  -- there is a directory already, and nothing but its location is kept of the path
  have hchange : ∀ {path}, session.files.resolveFromRoot host.here path = .ok root →
      Action.change (fun here files => files.createAll here path) (.notCreated path) host session =
        (.ok (), session) := by
    intro path hr
    have hdir := (Tree.isDirectory_of_resolveFromRoot hr).2 hd
    rw [Action.change, Tree.createAll_of_isDirectory hdir]
  have hrequire : ∀ {path}, session.files.resolveFromRoot host.here path = .ok root →
      Action.require (fun here files => files.resolveFromRoot here path) (.notResolved path) host
        session = (.ok root, session) := by
    intro path hr
    rw [Action.require, hr]
  unfold fetch
  rw [Action.bind_of_ok (hchange hfirst), Action.bind_of_ok (hrequire hfirst),
    Action.bind_of_ok (hchange hsecond), Action.bind_of_ok (hrequire hsecond)]

end Respelled

namespace Provision

/-- **How the dependency root is spelled makes no difference**: the two runs have the same
result, the same record of calls and of what was printed, and leave the same files; and the
commands start at places that are told by the location of the root. -/
theorem run_respelled {host : Host} {request : Request} {files : Tree} {root : Location}
    {path : Path} (hd : files.node? root = some .directory)
    (hfirst : files.resolveFromRoot host.here request.root = .ok root)
    (hsecond : files.resolveFromRoot host.here path = .ok root) :
    run { request with root := path } host (.start files) = run request host (.start files) ∧
      ∀ call ∈ (run request host (.start files)).2.made, ∀ command, call.call = .run command →
        Stationed root command := by
  constructor
  · have hheading : ∀ title, ∃ session : Session,
        heading title host (.start files) = (.ok (), session) ∧ session.files = files :=
      fun title => ⟨_, rfl, rfl⟩
    obtain ⟨session, hs, rfl⟩ := hheading "CLONE LLVM"
    unfold run
    rw [Action.bind_of_ok hs, Action.bind_of_ok hs]
    simp only [bind, Action.andThen, SourceTree.fetch_respelled hd hsecond hfirst]
  · intro call hc command hrun
    have hcourse : Course host request files _ _ _ := course_iff.2 ⟨rfl, rfl, rfl⟩
    have hfollows := hcourse.follows (SourceTree.prepare_of_resolved hfirst hd)
    have hscheduled := hfollows.mem_scheduled hc
    rw [hrun] at hscheduled
    exact Schedule.stationed hscheduled

/-! ### A root with another name -/

/-- An empty dependency root, and a link to it. -/
def linkedFiles : Tree :=
  Change.applyAll [] [.directory ⟨"deps"⟩, .link ⟨"alias"⟩ ⟨"/deps"⟩] .empty

theorem run_respelled_through_link :
    let ended := run plainRequest workshop.host (.start linkedFiles)
    run { plainRequest with root := ⟨"/alias/.././alias//"⟩ } workshop.host (.start linkedFiles) =
        ended ∧
      ended.1 = .ok () ∧ ended.2.made.length = 7 ∧
      ∀ call ∈ ended.2.made, ∀ command, call.call = .run command →
        Stationed ["deps"] command := by
  intro ended
  have hd : linkedFiles.node? ["deps"] = some .directory := by decide +kernel
  have hfirst : linkedFiles.resolveFromRoot workshop.host.here plainRequest.root =
      .ok ["deps"] := by decide +kernel
  have hsecond : linkedFiles.resolveFromRoot workshop.host.here ⟨"/alias/.././alias//"⟩ =
      .ok ["deps"] := by decide +kernel
  obtain ⟨hsame, hstationed⟩ := run_respelled hd hfirst hsecond
  exact ⟨hsame, by decide +kernel, by decide +kernel, hstationed⟩

end Provision

end LlvmProvision
