import LlvmProvision.Program
import LlvmProvision.Proofs.Endings
import LlvmProvision.Proofs.Lines

/-!
# The program around a run

The program shows its arguments, makes a run, and tells how the run has ended.  A command line
without arguments for a run starts none.

A run takes the same course in whatever session it is made: it never looks at the record, and its
events come behind those that are there (`Action.Adds`).  So the program makes the calls of a run
that is made on its own, and leaves its files.

The end is told by the exit code, by the standard error, and by a closing line.  No other line
that the program prints is the closing one (`IsOther`), so that it is there exactly if the run
has succeeded (`run_concludes`).
-/
namespace LlvmProvision

open Files Tools Text

/-! ## Adding to the record -/

namespace Action

variable {α β : Type} {host : Host} {fits : String → Prop}

/-- **The action adds to the record**: how it goes depends on the files only, its events come
behind the earlier ones, and the texts that it prints itself fit. -/
def Adds (action : Action α) (host : Host) (fits : String → Prop) : Prop :=
  ∀ files, ∃ result events left, (∀ text, .printed text ∈ events → fits text) ∧
    ∀ earlier, action host ⟨files, earlier⟩ = (result, ⟨left, earlier ++ events⟩)

/-- An action without events. -/
theorem adds_of_silent {action : Action α}
    (h : ∀ files, ∃ result left, ∀ earlier, action host ⟨files, earlier⟩ = (result, ⟨left, earlier⟩)) :
    action.Adds host fits := by
  intro files
  obtain ⟨result, left, ha⟩ := h files
  exact ⟨result, [], left, by simp, fun earlier => by rw [ha, List.append_nil]⟩

theorem adds_pure (value : α) : (pure value : Action α).Adds host fits :=
  adds_of_silent fun files => ⟨.ok value, files, fun _ => rfl⟩

theorem adds_fail (error : Error) : (fail error : Action α).Adds host fits :=
  adds_of_silent fun files => ⟨.error error, files, fun _ => rfl⟩

theorem adds_look (question : Location → Tree → α) : (look question).Adds host fits :=
  adds_of_silent fun files => ⟨.ok (question host.here files), files, fun _ => rfl⟩

theorem adds_require {ε : Type} (question : Location → Tree → Except ε α) (error : ε → Error) :
    (require question error).Adds host fits := by
  refine adds_of_silent fun files => ?_
  cases hq : question host.here files with
  | ok value => exact ⟨.ok value, files, fun _ => by simp only [require, hq]⟩
  | error fault => exact ⟨.error (error fault), files, fun _ => by simp only [require, hq]⟩

theorem adds_change {ε : Type} (operation : Location → Tree → Except ε Unit × Tree)
    (error : ε → Error) : (change operation error).Adds host fits := by
  refine adds_of_silent fun files => ?_
  rcases ho : operation host.here files with ⟨fault | _, left⟩
  · exact ⟨.error (error fault), left, fun _ => by simp only [change, ho]⟩
  · exact ⟨.ok (), left, fun _ => by simp only [change, ho]⟩

theorem adds_printLine {line : String} (h : fits (line ++ "\n")) :
    (printLine line).Adds host fits := fun files =>
  ⟨.ok (), [.printed (line ++ "\n")], files, by simpa using h, fun _ => rfl⟩

theorem adds_printColoured {colour : Colour} {line : String}
    (h : fits (colour.paint host.coloured line ++ "\n")) :
    (printColoured colour line).Adds host fits := fun files =>
  ⟨.ok (), [.printed (colour.paint host.coloured line ++ "\n")], files, by simpa using h,
    fun _ => rfl⟩

theorem adds_call (made : Call) : (call made).Adds host fits := fun files =>
  ⟨.ok (host.respond made files).outcome, [.called made files (host.respond made files)],
    (host.respond made files).files, by simp, fun _ => rfl⟩

/-- **One action after the other** adds the events of both. -/
theorem Adds.bind {first : Action α} {next : α → Action β} (hf : first.Adds host fits)
    (hn : ∀ value, (next value).Adds host fits) : (first >>= next).Adds host fits := by
  intro files
  obtain ⟨result, events, between, hfits, ha⟩ := hf files
  cases result with
  | error error =>
    exact ⟨.error error, events, between, hfits, fun earlier => bind_of_error (ha earlier)⟩
  | ok value =>
    obtain ⟨result, more, left, hmore, ha'⟩ := hn value between
    refine ⟨result, events ++ more, left, fun text hm => ?_, fun earlier => ?_⟩
    · exact (List.mem_append.1 hm).elim (hfits text) (hmore text)
    · rw [bind_of_ok (ha earlier), ha', List.append_assoc]

theorem Adds.map {first : Action α} (f : α → β) (hf : first.Adds host fits) :
    (f <$> first).Adds host fits := by
  rw [← bind_pure_comp]
  exact hf.bind fun value => adds_pure (f value)

theorem adds_check (tool : String) : (check tool).Adds host fits := by
  refine (adds_call _).bind fun outcome => ?_
  split
  · exact adds_pure _
  · exact adds_fail _

theorem adds_execute (command : Command) : (execute command).Adds host fits := by
  refine (adds_call _).bind fun outcome => ?_
  cases outcome with
  | unstarted fault => exact adds_fail _
  | ended status =>
    simp only []
    split
    · exact adds_pure _
    · exact adds_fail _

end Action

/-! ## What a run tells -/

namespace Program

/-- The line that tells of a success. -/
def closingLine (coloured : Bool) : String := Colour.brightGreen.paint coloured "LLVM is ready"

/-- The text is a line of its own, and not the closing one. -/
def IsOther (coloured : Bool) (text : String) : Prop :=
  ∃ line, text = line ++ "\n" ∧ IsLine line ∧ line ≠ closingLine coloured

variable {coloured : Bool} {host : Host}

/-- The first letter tells the line from the closing one: it is neither the letter that the closing
line begins with nor a colour that is turned on. -/
def BeginsApart (line : String) : Prop := ∃ c ∈ line.toList.head?, c ≠ 'L' ∧ c ≠ '\x1b'

instance (line : String) : Decidable (BeginsApart line) :=
  Option.decidableExistsMem line.toList.head?

theorem BeginsApart.append {front : String} (h : BeginsApart front) (back : String) :
    BeginsApart (front ++ back) := by
  obtain ⟨c, hc, hapart⟩ := h
  refine ⟨c, ?_, hapart⟩
  rw [String.toList_append, List.head?_append, hc]
  rfl

theorem not_beginsApart_closingLine : ¬ BeginsApart (closingLine coloured) := by
  cases coloured <;> decide

theorem isOther_plain {line : String} (hline : IsLine line) (h : BeginsApart line) :
    IsOther coloured (line ++ "\n") :=
  ⟨line, rfl, hline, fun he => not_beginsApart_closingLine (he ▸ h)⟩

/-- The letter after the colour is that of the line, in every colour. -/
theorem isOther_painted {line : String} (colour : Colour) (hline : IsLine line)
    (h : BeginsApart line) : IsOther coloured (colour.paint coloured line ++ "\n") := by
  cases coloured with
  | false => exact isOther_plain hline h
  | true =>
    refine ⟨_, rfl, hline.paint true colour, fun he => ?_⟩
    obtain ⟨c, hc, hL, hescape⟩ := h
    obtain ⟨rest, hrest⟩ := List.head?_eq_some_iff.1 hc
    have hstart : colour.start.length = 5 := by cases colour <;> rfl
    have hresume : colour.resume (c :: rest) = c :: colour.resume rest := by
      rw [Colour.resume]
      exact fun _ hi _ => hescape hi
    have hletter : (colour.paint true line).toList[5]? = some c := by
      rw [Colour.paint, if_pos rfl, String.toList_ofList, hrest, hresume, List.append_assoc,
        List.getElem?_append_right (Nat.le_of_eq hstart), hstart]
      rfl
    rw [he, show (closingLine true).toList[5]? = some 'L' from by decide] at hletter
    exact hL (Option.some.inj hletter).symm

theorem isOther_empty : IsOther coloured ("" ++ "\n") :=
  ⟨"", rfl, by decide, by cases coloured <;> decide⟩

/-- A path between two texts. -/
theorem isLine_quoted {front back : String} (path : Path) (hf : IsLine front) (hb : IsLine back) :
    IsLine (front ++ path.quoted ++ back) :=
  (hf.append (IsLine.quote path.text)).append hb

theorem beginsApart_quoted {front : String} (h : BeginsApart front) (path : Path) (back : String) :
    BeginsApart (front ++ path.quoted ++ back) :=
  (h.append _).append _

/-! ### The parts of a run -/

theorem adds_fetch (root : Path) (repository branch : String) :
    (SourceTree.fetch root repository branch).Adds host (IsOther host.coloured) := by
  unfold SourceTree.fetch
  refine (Action.adds_change _ _).bind fun _ => ?_
  refine (Action.adds_require _ _).bind fun place => ?_
  refine (Action.adds_look _).bind fun present => ?_
  split
  · refine (Action.adds_printLine ?_).bind fun _ => Action.adds_pure _
    exact isOther_plain (isLine_quoted _ (by decide) (by decide))
      (beginsApart_quoted (by decide) _ _)
  · refine (Action.adds_check _).bind fun _ => ?_
    refine (Action.adds_printLine ?_).bind fun _ => ?_
    · exact isOther_plain (isLine_quoted _ (by decide) (by decide))
        (beginsApart_quoted (by decide) _ _)
    · exact (Action.adds_execute _).bind fun _ => Action.adds_pure _

theorem adds_ensureDirectory (directory : Path) :
    (BuildTree.ensureDirectory directory).Adds host (IsOther host.coloured) := by
  unfold BuildTree.ensureDirectory
  refine (Action.adds_look _).bind fun present => ?_
  split
  · exact Action.adds_pure _
  · exact Action.adds_change _ _

theorem isLine_configureArguments (configuration : Configuration) :
    ∀ word ∈ BuildTree.configureArguments configuration, IsLine word := by
  intro word hw
  rcases List.mem_append.1 hw with hw | hw
  · exact Configuration.isLine_of_mem_arguments hw
  · rw [List.mem_singleton.1 hw]
    decide

theorem adds_complete (source : Path) (configuration : Configuration) (jobs : Nat) :
    (BuildTree.complete source configuration jobs).Adds host (IsOther host.coloured) := by
  unfold BuildTree.complete
  refine (Action.adds_look _).bind fun present => ?_
  split
  · refine (adds_ensureDirectory _).bind fun _ => ?_
    refine (Action.adds_look _).bind fun finished => ?_
    split
    · refine (Action.adds_printColoured ?_).bind fun _ => Action.adds_pure _
      exact isOther_painted _ (isLine_quoted _ (by decide) (by decide))
        (beginsApart_quoted (by decide) _ _)
    · refine (Action.adds_check _).bind fun _ => ?_
      refine (Action.adds_printLine ?_).bind fun _ => ?_
      · have hwords := Shell.isLine_commandLine (isLine_configureArguments configuration)
        exact isOther_plain (IsLine.append (by decide) hwords) (BeginsApart.append (by decide) _)
      · refine (Action.adds_execute _).bind fun _ => ?_
        exact (Action.adds_execute _).bind fun _ => Action.adds_pure _
  · exact Action.adds_fail _

theorem adds_replaceBuild (source : Path) (name : String) :
    (Package.replaceBuild source name).Adds host (IsOther host.coloured) := by
  unfold Package.replaceBuild
  refine (Action.adds_check _).bind fun _ => ?_
  refine (Action.adds_change _ _).bind fun _ => ?_
  refine (Action.adds_change _ _).bind fun _ => ?_
  refine (Action.adds_change _ _).bind fun _ => ?_
  exact (Action.adds_execute _).bind fun _ => Action.adds_pure _

theorem adds_unpack (source : Path) :
    (Package.unpack source).Adds host (IsOther host.coloured) := by
  unfold Package.unpack
  refine (Action.adds_look _).bind fun names => ?_
  split
  · exact Action.adds_pure _
  · exact (adds_replaceBuild source _).map some
  · exact Action.adds_fail _

theorem adds_heading {title : String} (h : IsLine title) :
    (Provision.heading title).Adds host (IsOther host.coloured) := by
  refine Action.adds_printColoured (isOther_painted _ ?_ ?_)
  · exact IsLine.append (IsLine.append (by decide) h) (by decide)
  · exact (BeginsApart.append (by decide) _).append _

/-- **A run adds to the record**, and none of its lines is the closing one. -/
theorem adds_run (request : Request) :
    (Provision.run request).Adds host (IsOther host.coloured) := by
  unfold Provision.run
  refine (adds_heading (by decide)).bind fun _ => ?_
  refine (adds_fetch _ _ _).bind fun source => ?_
  refine (Action.adds_printLine isOther_empty).bind fun _ => ?_
  refine (adds_heading (by decide)).bind fun _ => ?_
  refine (adds_complete _ _ _).bind fun _ => ?_
  refine (Action.adds_printLine isOther_empty).bind fun _ => ?_
  refine (adds_heading (by decide)).bind fun _ => ?_
  refine (adds_unpack _).bind fun _ => ?_
  exact Action.adds_printLine isOther_empty

/-! ## The program -/

/-- What is printed before the run. -/
def opening (coloured : Bool) (arguments : CommandLine.Arguments) : List Event :=
  [.printed ("options=" ++ shownArguments arguments ++ "\n"),
   .printed (Colour.brightBlue.paint coloured
      ("========== Build LLVM for " ++ Choice.name arguments.platform ++ " ==========") ++ "\n"),
   .printed ("" ++ "\n")]

/-- What is printed after the run. -/
def closing (coloured : Bool) : Except Error Unit → List Event
  | .ok () => [.printed (closingLine coloured ++ "\n")]
  | .error _ => []

theorem isLine_shownList {names : List String} (h : ∀ name ∈ names, IsLine name) :
    IsLine (shownList names) :=
  IsLine.append (IsLine.append (by decide) (IsLine.joined (by decide) h)) (by decide)

theorem isLine_shownJobs (jobs : Option CommandLine.JobCount) : IsLine (shownJobs jobs) := by
  cases jobs with
  | none => decide
  | some jobs => exact IsLine.append (IsLine.append (by decide) (IsLine.number _)) (by decide)

theorem isLine_shownArguments (arguments : CommandLine.Arguments) :
    IsLine (shownArguments arguments) := by
  have hplatform : IsLine (shownPlatform arguments.platform) := by
    cases arguments.platform
    decide
  have hbackends : IsLine (shownList (arguments.backends.map shownBackend)) := by
    refine isLine_shownList fun name hn => ?_
    obtain ⟨backend, -, rfl⟩ := List.mem_map.1 hn
    cases backend <;> decide
  have hprojects : IsLine (shownList (arguments.projects.map shownProject)) := by
    refine isLine_shownList fun name hn => ?_
    obtain ⟨project, -, rfl⟩ := List.mem_map.1 hn
    cases project <;> decide
  have hroot : IsLine arguments.root.quoted := IsLine.quote _
  have hjobs := isLine_shownJobs arguments.jobs
  unfold shownArguments
  refine .append (.append (.append (.append (.append (.append (.append (.append (.append (.append
    ?_ hplatform) ?_) hbackends) ?_) hprojects) ?_) hroot) ?_) hjobs) ?_
  all_goals decide

theorem isOther_of_mem_opening {arguments : CommandLine.Arguments} {text : String}
    (h : .printed text ∈ opening coloured arguments) : IsOther coloured text := by
  simp only [opening, List.mem_cons, Event.printed.injEq, List.not_mem_nil, or_false] at h
  rcases h with rfl | rfl | rfl
  · exact isOther_plain (IsLine.append (by decide) (isLine_shownArguments arguments))
      (BeginsApart.append (by decide) _)
  · refine isOther_painted _ ?_ ((BeginsApart.append (by decide) _).append _)
    cases arguments.platform
    decide
  · exact isOther_empty

/-- **The program makes the run** and prints its own lines around it. -/
theorem perform_eq (processors : Nat) (arguments : CommandLine.Arguments) (host : Host)
    (files : Tree) :
    let inner := Provision.run (request processors arguments) host (.start files)
    perform processors arguments host (.start files) =
        (inner.1, ⟨inner.2.files,
          opening host.coloured arguments ++ inner.2.events ++ closing host.coloured inner.1⟩) ∧
      ∀ text, .printed text ∈ inner.2.events → IsOther host.coloured text := by
  obtain ⟨result, events, left, hfits, ha⟩ := adds_run (request processors arguments) files
  have hinner : Provision.run (request processors arguments) host (.start files) =
      (result, ⟨left, events⟩) := ha []
  rw [hinner]
  refine ⟨?_, hfits⟩
  have hrun := ha (opening host.coloured arguments)
  unfold perform
  refine (Action.bind_of_ok rfl).trans ?_
  refine (Action.bind_of_ok rfl).trans ?_
  refine (Action.bind_of_ok rfl).trans ?_
  cases result with
  | error error =>
    refine (Action.bind_of_error hrun).trans ?_
    simp only [closing, List.append_nil]
  | ok _ => exact (Action.bind_of_ok hrun).trans rfl

/-- **How the program ends** when its run has ended so. -/
structure Concludes (coloured : Bool) (inner : Except Error Unit × Session)
    (ended : Ending × Session) : Prop where
  /-- The calls are those of the run, with what came of them. -/
  made : ended.2.made = inner.2.made
  /-- The files are those that the run leaves. -/
  files : ended.2.files = inner.2.files
  /-- A success is told by the exit code, by silence on the standard error, and by the closing
  line. -/
  succeeds : inner.1 = .ok () ↔ ended.1 = ⟨0, ""⟩ ∧
    ended.2.events.getLast? = some (.printed (closingLine coloured ++ "\n"))
  /-- An error is told by the exit code and on the standard error, and no line is the closing
  one. -/
  fails : ∀ error, inner.1 = .error error →
    ended.1 = ⟨1, Colour.red.paint coloured error.message ++ "\n"⟩ ∧
      ∀ text, .printed text ∈ ended.2.events → IsOther coloured text

theorem concludes_of_events {arguments : CommandLine.Arguments}
    {inner : Except Error Unit × Session}
    (hfits : ∀ text, .printed text ∈ inner.2.events → IsOther coloured text) :
    Concludes coloured inner (conclude coloured inner.1, ⟨inner.2.files,
      opening coloured arguments ++ inner.2.events ++ closing coloured inner.1⟩) := by
  obtain ⟨result, left, events⟩ := inner
  have hopening : (opening coloured arguments).filterMap Event.made? = [] := rfl
  cases result with
  | ok _ =>
    refine ⟨?_, rfl, ?_, fun error he => by cases he⟩
    · simp [Session.made, hopening, closing, Event.made?]
    · simp [conclude, exitSuccess, closing]
  | error error =>
    refine ⟨?_, rfl, ?_, fun error he => ?_⟩
    · simp [Session.made, hopening, closing]
    · simp [conclude, exitFailure]
    · cases he
      refine ⟨rfl, fun text hm => ?_⟩
      rw [closing, List.append_nil] at hm
      rcases List.mem_append.1 hm with hm | hm
      · exact isOther_of_mem_opening hm
      · exact hfits text hm

end Program

end LlvmProvision
