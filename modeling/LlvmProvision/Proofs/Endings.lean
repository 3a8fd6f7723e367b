import LlvmProvision.Action

/-!
# How actions end

What a run says on its way does not matter to what it does: of the record only the calls
count.  `Session.made` are the calls of a session, each with the files it was made on and what
came of it.

`Action.Ends` says how an action ends on given files: with which result, after which calls,
and with which files left.  It says so for every session that holds the files, so an action
that ends in some way never looks at the record, and how two actions end that follow each
other is told by how each ends alone (`Ends.bind_of_ok`, `Ends.bind_of_error`).  There is one
rule for each action that others are put together from.
-/
namespace LlvmProvision

open Files Tools Text

/-- Results can be compared, so that runs on given files can be evaluated. -/
instance decidableEqResult {ε α : Type} [DecidableEq ε] [DecidableEq α] :
    DecidableEq (Except ε α)
  | .ok first, .ok second => decidable_of_iff (first = second) (by simp)
  | .error first, .error second => decidable_of_iff (first = second) (by simp)
  | .ok _, .error _ => isFalse (by simp)
  | .error _, .ok _ => isFalse (by simp)

/-- A call as it was made: on these files, with this reply. -/
structure Made where
  call : Call
  files : Tree
  reply : Reply

/-- The call that an event is about. -/
def Event.made? : Event → Option Made
  | .printed _ => none
  | .called call files reply => some ⟨call, files, reply⟩

/-- The calls of a session, the first one first. -/
def Session.made (session : Session) : List Made := session.events.filterMap Event.made?

/-- What the host makes of a call. -/
def Tools.Host.answer (host : Host) (call : Call) (files : Tree) : Made :=
  ⟨call, files, host.respond call files⟩

/-- **What a call means to the run**: a tool that cannot be run is missing, and a command has
to be started and to end well. -/
def Made.verdict (made : Made) : Except Error Unit :=
  match made.call, made.reply.outcome with
  | .check tool, outcome => if outcome.isSuccess then .ok () else .error (.toolMissing tool)
  | .run command, .unstarted fault => .error (.commandUnstarted command.purpose fault)
  | .run command, .ended status =>
    if status.isSuccess then .ok () else .error (.commandFailed command.purpose status)

/-- A call is in order exactly if it succeeded. -/
theorem Made.verdict_eq_ok_iff {made : Made} :
    made.verdict = .ok () ↔ made.reply.outcome.isSuccess = true := by
  obtain ⟨call, files, outcome, printed, left⟩ := made
  cases call with
  | check tool => cases hs : outcome.isSuccess <;> simp [verdict, hs]
  | run command =>
    cases outcome with
    | ended status => cases hs : status.isSuccess <;> simp [verdict, Outcome.isSuccess, hs]
    | unstarted fault => simp [verdict, Outcome.isSuccess]

/-- Only a check says that a tool is missing, and it says so of its own tool. -/
theorem Made.call_of_toolMissing {made : Made} {tool : String}
    (h : made.verdict = .error (.toolMissing tool)) : made.call = .check tool := by
  obtain ⟨call, files, outcome, printed, left⟩ := made
  cases call with
  | check other =>
    cases hs : outcome.isSuccess <;> simp_all [verdict]
  | run command =>
    cases outcome with
    | ended status => cases hs : status.isSuccess <;> simp [verdict, hs] at h
    | unstarted fault => simp [verdict] at h

namespace Session

variable {session : Session}

theorem made_start (files : Tree) : (start files).made = [] := rfl

theorem made_record_printed (text : String) :
    (session.record (.printed text)).made = session.made := by
  simp [made, record, Event.made?]

theorem made_append_called (files : Tree) (call : Call) (before : Tree) (reply : Reply) :
    made ⟨files, session.events ++ [.called call before reply]⟩ =
      session.made ++ [⟨call, before, reply⟩] := by
  simp [made, Event.made?]

end Session

namespace Action

variable {α β : Type} {host : Host} {files between left : Tree} {made more : List Made}

/-- **How an action ends**, whatever has been recorded before it. -/
def Ends (action : Action α) (host : Host) (files : Tree) (result : Except Error α)
    (made : List Made) (left : Tree) : Prop :=
  ∀ session : Session, session.files = files →
    ∃ after, action host session = (result, after) ∧ after.made = session.made ++ made ∧
      after.files = left

/-- How the action ends in a session that begins with it. -/
theorem Ends.ended {action : Action α} {result : Except Error α}
    (h : action.Ends host files result made left) :
    (action host (.start files)).1 = result ∧ (action host (.start files)).2.made = made ∧
      (action host (.start files)).2.files = left := by
  obtain ⟨after, ha, hm, hl⟩ := h (.start files) rfl
  rw [ha]
  exact ⟨rfl, by simpa [Session.made_start] using hm, hl⟩

/-! ## One rule for each action -/

theorem ends_pure (value : α) : Ends (pure value) host files (.ok value) [] files := by
  intro session hs
  exact ⟨session, rfl, by simp, hs⟩

theorem ends_fail (error : Error) :
    Ends (fail error : Action α) host files (.error error) [] files := by
  intro session hs
  exact ⟨session, rfl, by simp, hs⟩

theorem ends_look (question : Location → Tree → α) :
    Ends (look question) host files (.ok (question host.here files)) [] files := by
  rintro session rfl
  exact ⟨session, rfl, by simp, rfl⟩

section Files

variable {ε : Type} {fault : ε} {error : ε → Error}

theorem ends_require_ok {question : Location → Tree → Except ε α} {value : α}
    (h : question host.here files = .ok value) :
    Ends (require question error) host files (.ok value) [] files := by
  rintro session rfl
  exact ⟨session, by rw [require, h], by simp, rfl⟩

theorem ends_require_error {question : Location → Tree → Except ε α}
    (h : question host.here files = .error fault) :
    Ends (require question error) host files (.error (error fault)) [] files := by
  rintro session rfl
  exact ⟨session, by rw [require, h], by simp, rfl⟩

theorem ends_change_ok {operation : Location → Tree → Except ε Unit × Tree}
    (h : operation host.here files = (.ok (), left)) :
    Ends (change operation error) host files (.ok ()) [] left := by
  rintro session rfl
  exact ⟨{ session with files := left }, by rw [change, h], by simp [Session.made], rfl⟩

theorem ends_change_error {operation : Location → Tree → Except ε Unit × Tree}
    (h : operation host.here files = (.error fault, left)) :
    Ends (change operation error) host files (.error (error fault)) [] left := by
  rintro session rfl
  exact ⟨{ session with files := left }, by rw [change, h], by simp [Session.made], rfl⟩

theorem ends_wholly_ok {operation : Location → Tree → Except ε Tree}
    (h : operation host.here files = .ok left) :
    Ends (change (wholly operation) error) host files (.ok ()) [] left :=
  ends_change_ok (by rw [wholly, h])

theorem ends_wholly_error {operation : Location → Tree → Except ε Tree}
    (h : operation host.here files = .error fault) :
    Ends (change (wholly operation) error) host files (.error (error fault)) [] files :=
  ends_change_error (by rw [wholly, h])

end Files

theorem ends_printLine (line : String) : Ends (printLine line) host files (.ok ()) [] files := by
  rintro session rfl
  exact ⟨_, rfl, by rw [Session.made_record_printed, List.append_nil], rfl⟩

theorem ends_printColoured (colour : Colour) (line : String) :
    Ends (printColoured colour line) host files (.ok ()) [] files := by
  rintro session rfl
  exact ⟨_, rfl, by rw [Session.made_record_printed, List.append_nil], rfl⟩

/-- The action that makes a call and gives up if it is not in order. -/
def perform : Call → Action Unit
  | .check tool => check tool
  | .run command => execute command

theorem ends_perform (host : Host) (files : Tree) (call : Call) :
    Ends (perform call) host files (host.answer call files).verdict [host.answer call files]
      (host.answer call files).reply.files := by
  rintro session rfl
  refine ⟨⟨(host.respond call session.files).files,
    session.events ++ [.called call session.files (host.respond call session.files)]⟩, ?_,
    Session.made_append_called .., rfl⟩
  cases call with
  | check tool =>
    simp only [perform, check, bind, andThen, Action.call, Host.answer, Made.verdict]
    split <;> rfl
  | run command =>
    simp only [perform, execute, bind, andThen, Action.call, Host.answer, Made.verdict]
    cases (host.respond (.run command) session.files).outcome with
    | unstarted fault => rfl
    | ended status => simp only []; split <;> rfl

/-! ## One action after the other -/

theorem Ends.bind_of_ok {first : Action α} {next : α → Action β} {value : α}
    {result : Except Error β} (hf : Ends first host files (.ok value) made between)
    (hn : Ends (next value) host between result more left) :
    Ends (first >>= next) host files result (made ++ more) left := by
  intro session hs
  obtain ⟨middle, ha, hm, hl⟩ := hf session hs
  obtain ⟨after, ha', hm', hl'⟩ := hn middle hl
  refine ⟨after, ?_, by rw [hm', hm, List.append_assoc], hl'⟩
  rw [Action.bind_of_ok ha, ha']

theorem Ends.bind_of_error {first : Action α} {next : α → Action β} {error : Error}
    (hf : Ends first host files (.error error) made left) :
    Ends (first >>= next) host files (.error error) made left := by
  intro session hs
  obtain ⟨after, ha, hm, hl⟩ := hf session hs
  exact ⟨after, Action.bind_of_error ha, hm, hl⟩

/-- An action that makes no call adds none to those of the next. -/
theorem Ends.bind_of_silent {first : Action α} {next : α → Action β} {value : α}
    {result : Except Error β} (hf : Ends first host files (.ok value) [] between)
    (hn : Ends (next value) host between result made left) :
    Ends (first >>= next) host files result made left :=
  Ends.bind_of_ok hf hn

theorem Ends.map {first : Action α} (f : α → β) {result : Except Error α}
    (hf : Ends first host files result made left) :
    Ends (f <$> first) host files (result.map f) made left := by
  -- mapping is going on with a pure value, which adds no call
  rw [← bind_pure_comp]
  cases result with
  | error error => exact hf.bind_of_error
  | ok value =>
    have hb : Ends (first >>= fun value => pure (f value)) host files (.ok (f value)) (made ++ [])
        left := hf.bind_of_ok (ends_pure (f value))
    rwa [List.append_nil] at hb

end Action

end LlvmProvision
