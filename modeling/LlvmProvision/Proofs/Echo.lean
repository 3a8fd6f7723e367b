import LlvmProvision.Proofs.Conclusion
import LlvmProvision.Proofs.Courses

/-!
# The line that shows a command

Before a build is configured, the command is shown on a line.  A shell that read the line would
take it for just this command: quoting a word and reading it are inverse to each other, whatever
characters the word has (`Shell.readWords_commandLine`).

The line is what the run says last before it makes the call (`complete_echoes`).  This is a
property of the events that the stage adds to a record (`Echoed`).  It holds of two actions in a
row if it holds of each (`Action.Echoes.bind`), and it holds of an action that does not call the
command.
-/
namespace LlvmProvision

open Files Tools Text

/-! ## Words of a shell -/

namespace Shell

variable {c : Char} {text word rest : List Char}

/-- What a shell acts upon, or takes for a quote or a blank, is quoted. -/
theorem mem_specialChars (h : c ∈ [' ', '\t', '\'', '"', '\\'] ++ activeChars) :
    c ∈ specialChars := by
  have hall : ([' ', '\t', '\'', '"', '\\'] ++ activeChars).all (· ∈ specialChars) = true := by
    decide
  exact of_decide_eq_true (List.all_eq_true.1 hall c h)

/-- A character that means nothing to a shell belongs to the word. -/
theorem readFrom_plain (hc : c ∉ specialChars) (word : Option (List Char)) :
    readFrom .bare word (c :: rest) = readFrom .bare (grow word [c]) rest := by
  have hplain : c ∉ [' ', '\t', '\'', '"', '\\'] ++ activeChars := fun h => hc (mem_specialChars h)
  simp only [List.mem_append, List.mem_cons, List.not_mem_nil, or_false, not_or] at hplain
  obtain ⟨⟨hblank, htab, hsingle, hdouble, hescape⟩, hactive⟩ := hplain
  rw [readFrom, if_neg (not_or.2 ⟨hblank, htab⟩), if_neg hsingle, if_neg hdouble, if_neg hescape,
    if_neg hactive]

/-- A word of such characters is read as it stands. -/
theorem readFrom_bare (hw : ∀ c ∈ word, c ∉ specialChars) (text : List Char) :
    readFrom .bare (some text) (word ++ rest) = readFrom .bare (some (text ++ word)) rest := by
  induction word generalizing text with
  | nil => simp
  | cons c word ih =>
    rw [List.forall_mem_cons] at hw
    rw [List.cons_append, readFrom_plain hw.1]
    simpa [grow] using ih hw.2 (text ++ [c])

/-- Between single quotes all characters stand for themselves, and a single quote stands as it is
written there. -/
theorem readFrom_single (word text : List Char) :
    readFrom .single (some text) (word.flatMap quoteChar ++ '\'' :: rest) =
      readFrom .bare (some (text ++ word)) rest := by
  induction word generalizing text with
  | nil => simp [readFrom]
  | cons c word ih =>
    by_cases hquote : c = '\''
    · -- the quotes are closed, a quote is escaped, and the quotes are opened again
      subst hquote
      simpa [quoteChar, readFrom, grow] using ih (text ++ ['\''])
    · simpa [quoteChar, hquote, readFrom, grow] using ih (text ++ [c])

/-- **A quoted word is read back.** -/
theorem readFrom_quoteWord (word rest : List Char) :
    readFrom .bare none (quoteWord word ++ rest) = readFrom .bare (some word) rest := by
  unfold quoteWord
  split
  · rename_i hbare
    obtain ⟨hne, hall⟩ := hbare
    have hplain : ∀ c ∈ word, c ∉ specialChars := by simpa using hall
    obtain ⟨c, word, rfl⟩ := List.exists_cons_of_ne_nil hne
    rw [List.forall_mem_cons] at hplain
    rw [List.cons_append, readFrom_plain hplain.1]
    exact readFrom_bare hplain.2 [c]
  · simpa [readFrom, grow] using readFrom_single word []

theorem readFrom_quoteWords (words : List (List Char)) :
    readFrom .bare none (quoteWords words) = some words := by
  induction words with
  | nil => rfl
  | cons word words ih =>
    cases words with
    | nil => simpa [quoteWords, readFrom] using readFrom_quoteWord word []
    | cons next words =>
      rw [quoteWords, readFrom_quoteWord, readFrom, if_pos (.inl rfl), ih]
      rfl

/-- **A command is read back from its line**, word by word. -/
theorem readWords_commandLine (words : List String) : readWords (commandLine words) = some words := by
  rw [readWords, commandLine, String.toList_ofList, readFrom_quoteWords, Option.map_some,
    List.map_map]
  simp [Function.comp_def]

/-- A first word that needs no quotes stands in front of the others. -/
theorem commandLine_cons (first : String) {words : List String}
    (hfirst : quoteWord first.toList = first.toList) (hne : words ≠ []) :
    commandLine (first :: words) = first ++ " " ++ commandLine words := by
  obtain ⟨next, words, rfl⟩ := List.exists_cons_of_ne_nil hne
  apply String.toList_injective
  simp [commandLine, quoteWords, hfirst]

end Shell

/-! ## Lines and calls in a record -/

/-- **Every call of the command follows its line**: the last that is said before it is a line from
which a shell would read the command. -/
def Echoed (command : Command) (events : List Event) : Prop :=
  ∀ before files reply after, events = before ++ .called (.run command) files reply :: after →
    ∃ line, before.getLast? = some (.printed (line ++ "\n")) ∧ IsLine line ∧
      Shell.readWords line = some (command.program :: command.arguments)

section

variable {command : Command} {events more : List Event}

theorem echoed_of_not_mem (h : ∀ files reply, .called (.run command) files reply ∉ events) :
    Echoed command events := by
  rintro before files reply after rfl
  exact absurd (List.mem_append_right _ List.mem_cons_self) (h files reply)

/-- The line stands right before the call. -/
theorem echoed_pair {line : String} (files : Tree) (reply : Reply) (hline : IsLine line)
    (hread : Shell.readWords line = some (command.program :: command.arguments)) :
    Echoed command [.printed (line ++ "\n"), .called (.run command) files reply] := by
  intro before files' reply' after h
  refine ⟨line, ?_, hline, hread⟩
  rcases before with _ | ⟨first, _ | ⟨second, before⟩⟩
  · simp at h
  · simp only [List.cons_append, List.nil_append, List.cons.injEq] at h
    rw [← h.1]
    rfl
  · simp at h

theorem Echoed.append (he : Echoed command events) (hm : Echoed command more) :
    Echoed command (events ++ more) := by
  intro before files reply after h
  rcases List.append_eq_append_iff.1 h with ⟨middle, rfl, hmore⟩ | ⟨middle, hevents, hafter⟩
  · obtain ⟨line, hlast, hline⟩ := hm middle files reply after hmore
    exact ⟨line, by rw [List.getLast?_append, hlast]; rfl, hline⟩
  · -- the call is among the earlier events, unless these end right before it
    cases middle with
    | nil =>
      obtain ⟨line, hlast, -⟩ := hm [] files reply after hafter.symm
      cases hlast
    | cons event middle =>
      obtain ⟨rfl, -⟩ := List.cons.inj hafter
      exact he before files reply middle hevents

end

namespace Action

variable {α β : Type} {host : Host} {command : Command}

/-- The action adds to the record, and every call of the command that it adds follows its line. -/
def Echoes (action : Action α) (host : Host) (command : Command) : Prop :=
  ∀ files, ∃ result events left, Echoed command events ∧
    ∀ earlier, action host ⟨files, earlier⟩ = (result, ⟨left, earlier ++ events⟩)

theorem Echoes.bind {first : Action α} {next : α → Action β} (hf : first.Echoes host command)
    (hn : ∀ value, (next value).Echoes host command) : (first >>= next).Echoes host command := by
  intro files
  obtain ⟨result, events, between, hevents, ha⟩ := hf files
  cases result with
  | error error =>
    exact ⟨.error error, events, between, hevents, fun earlier => bind_of_error (ha earlier)⟩
  | ok value =>
    obtain ⟨result, more, left, hmore, ha'⟩ := hn value between
    refine ⟨result, events ++ more, left, hevents.append hmore, fun earlier => ?_⟩
    rw [bind_of_ok (ha earlier), ha', List.append_assoc]

/-- An action that does not call the command. -/
theorem Adds.echoes {action : Action α} {fits : String → Prop} (h : action.Adds host fits)
    (hn : ∀ files, ∀ made ∈ (action host (.start files)).2.made, made.call ≠ .run command) :
    action.Echoes host command := by
  intro files
  obtain ⟨result, events, left, -, ha⟩ := h files
  refine ⟨result, events, left, echoed_of_not_mem fun before reply hm => ?_, ha⟩
  have hmade : (action host (.start files)).2.made = events.filterMap Event.made? := by
    rw [Session.start, ha []]
    rfl
  refine hn files ⟨.run command, before, reply⟩ ?_ rfl
  rw [hmade]
  exact List.mem_filterMap.2 ⟨_, hm, rfl⟩

/-- An action that makes no call at all. -/
theorem Adds.echoes_of_silent {action : Action α} {fits : String → Prop}
    (h : action.Adds host fits) (hn : ∀ files, (action host (.start files)).2.made = []) :
    action.Echoes host command :=
  h.echoes fun files made hm => by simp [hn files] at hm

theorem echoes_pure (value : α) : (pure value : Action α).Echoes host command := by
  have hadds : (pure value : Action α).Adds host fun _ => True := adds_pure value
  exact hadds.echoes_of_silent fun _ => rfl

theorem echoes_fail (error : Error) : (fail error : Action α).Echoes host command := by
  have hadds : (fail error : Action α).Adds host fun _ => True := adds_fail error
  exact hadds.echoes_of_silent fun _ => rfl

theorem echoes_look (question : Location → Tree → α) : (look question).Echoes host command := by
  have hadds : (look question).Adds host fun _ => True := adds_look question
  exact hadds.echoes_of_silent fun _ => rfl

theorem echoes_printColoured (colour : Colour) (line : String) :
    (printColoured colour line).Echoes host command := by
  have hadds : (printColoured colour line).Adds host fun _ => True := adds_printColoured trivial
  exact hadds.echoes_of_silent fun _ => rfl

theorem echoes_perform (call : Call) (h : call ≠ .run command) :
    (perform call).Echoes host command := by
  have hadds : (perform call).Adds host fun _ => True := by
    cases call with
    | check tool => exact adds_check tool
    | run other => exact adds_execute other
  refine hadds.echoes fun files made hm => ?_
  rw [(ends_perform host files call).ended.2.1] at hm
  obtain rfl := List.mem_singleton.1 hm
  exact h

theorem execute_eq (command : Command) (host : Host) (files : Tree) (earlier : List Event) :
    execute command host ⟨files, earlier⟩ = ((host.answer (.run command) files).verdict,
      ⟨(host.respond (.run command) files).files,
        earlier ++ [.called (.run command) files (host.respond (.run command) files)]⟩) := by
  simp only [execute, bind, andThen, Action.call, Host.answer, Made.verdict]
  cases (host.respond (.run command) files).outcome with
  | unstarted fault => rfl
  | ended status => simp only []; split <;> rfl

/-- A command that is shown and then called. -/
theorem echoes_shown {line : String} (hline : IsLine line)
    (hread : Shell.readWords line = some (command.program :: command.arguments)) :
    (printLine line >>= fun _ => execute command).Echoes host command := by
  intro files
  refine ⟨(host.answer (.run command) files).verdict, _, (host.respond (.run command) files).files,
    echoed_pair files (host.respond (.run command) files) hline hread, fun earlier => ?_⟩
  rw [bind_of_ok (show printLine line host ⟨files, earlier⟩ = (.ok (), _) from rfl)]
  refine (execute_eq command host files _).trans ?_
  rw [List.append_assoc]
  rfl

end Action

namespace BuildTree

variable {host : Host} {source build : Path} {configuration : Configuration} {jobs : Nat}
  {files prepared : Tree}

/-- The line that shows how a build is configured. -/
def configureLine (configuration : Configuration) : String :=
  "cmake " ++ Shell.commandLine (configureArguments configuration)

theorem isLine_configureLine (configuration : Configuration) :
    IsLine (configureLine configuration) :=
  IsLine.append (by decide)
    (Shell.isLine_commandLine (Program.isLine_configureArguments configuration))

/-- **A shell reads the command from the line.** -/
theorem readWords_configureLine (build : Path) (configuration : Configuration) :
    Shell.readWords (configureLine configuration) =
      some ((configureCommand build configuration).program ::
        (configureCommand build configuration).arguments) := by
  have hne : configureArguments configuration ≠ [] := by simp [configureArguments]
  have hline : configureLine configuration =
      Shell.commandLine ("cmake" :: configureArguments configuration) :=
    (Shell.commandLine_cons "cmake" (by decide) hne).symm
  rw [hline, Shell.readWords_commandLine]
  rfl

/-- **The stage shows the command that configures a build** whenever it calls it. -/
theorem echoes_complete (source : Path) (configuration : Configuration) (jobs : Nat)
    (host : Host) : (complete source configuration jobs).Echoes host
      (configureCommand (source / directoryName) configuration) := by
  have hpackage : Call.run (packageCommand (source / directoryName) jobs) ≠
      .run (configureCommand (source / directoryName) configuration) := by
    simp [packageCommand, configureCommand]
  unfold complete
  refine (Action.echoes_look _).bind fun present => ?_
  split
  · refine Action.Echoes.bind ?_ fun _ => (Action.echoes_look _).bind fun finished => ?_
    · exact (Program.adds_ensureDirectory _).echoes_of_silent fun _ =>
        ends_ensureDirectory.ended.2.1
    · split
      · exact (Action.echoes_printColoured _ _).bind fun _ => Action.echoes_pure _
      · refine (Action.echoes_perform (.check "cmake") (by simp)).bind fun _ => ?_
        -- the line and the call make up one step
        rw [← bind_assoc]
        refine Action.Echoes.bind ?_ fun _ => ?_
        · exact Action.echoes_shown (isLine_configureLine configuration)
            (readWords_configureLine _ configuration)
        · exact (Action.echoes_perform _ hpackage).bind fun _ => Action.echoes_pure _
  · exact Action.echoes_fail _

/-- The command is called when the sources are there, the build is not finished, and the tool can
be run. -/
theorem mem_made_of_reached (configuration : Configuration) (jobs : Nat)
    (hs : files.isPresent host.here source = true)
    (hp : prepare host.here (source / directoryName) files = (.ok (), prepared))
    (hm : prepared.isPresent host.here (source / directoryName / marker) = false)
    (hv : (host.answer (.check "cmake") prepared).verdict = .ok ()) :
    host.answer (.run (configureCommand (source / directoryName) configuration))
        (host.answer (.check "cmake") prepared).reply.files ∈
      (complete source configuration jobs host (.start files)).2.made := by
  obtain ⟨result, made, left, ha⟩ :=
    exists_attempted host (calls (source / directoryName) configuration jobs) prepared
  rw [(Course.attempted hs hp hm ha).ends.ended.2.1]
  cases ha with
  | stopped hv' => rw [hv] at hv'; cases hv'
  | next _ hnext =>
    refine List.mem_cons_of_mem _ ?_
    cases hnext with
    | stopped _ => exact List.mem_cons_self
    | next _ _ => exact List.mem_cons_self

/-- **The line that is shown is the command that is called.**  Whatever has been recorded before,
the stage adds to it, and if it calls the command that configures a build, then right after a line
from which a shell would read its program and its arguments. -/
theorem complete_echoes (source : Path) (configuration : Configuration) (jobs : Nat) (host : Host)
    (files : Tree) :
    ∃ events, (∀ earlier, (complete source configuration jobs host ⟨files, earlier⟩).2.events =
        earlier ++ events) ∧
      Echoed (configureCommand (source / directoryName) configuration) events ∧
      ∀ prepared, files.isPresent host.here source = true →
        prepare host.here (source / directoryName) files = (.ok (), prepared) →
        prepared.isPresent host.here (source / directoryName / marker) = false →
        (host.answer (.check "cmake") prepared).verdict = .ok () →
        ∃ reply, .called (.run (configureCommand (source / directoryName) configuration))
          (host.answer (.check "cmake") prepared).reply.files reply ∈ events := by
  obtain ⟨result, events, left, hechoed, ha⟩ := echoes_complete source configuration jobs host files
  refine ⟨events, fun earlier => by rw [ha], hechoed, fun prepared hs hp hm hv => ?_⟩
  have hmade := mem_made_of_reached configuration jobs hs hp hm hv
  rw [Session.start, ha [], Session.made, List.nil_append] at hmade
  obtain ⟨event, hevent, hcall⟩ := List.mem_filterMap.1 hmade
  cases event with
  | printed text => cases hcall
  | called call before reply =>
    cases hcall
    exact ⟨_, hevent⟩

end BuildTree

end LlvmProvision
