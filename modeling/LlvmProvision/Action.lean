import LlvmProvision.Error
import LlvmProvision.Text.Colour

/-!
# Actions

An action is a part of a run.  It takes place on a host and in a session, which holds the
files and a record of what has happened so far, and it ends with a value or with an error.
The session outlives the error: what was done and printed before it stays.

Every action is put together from a few: looking at the files (`look`, `require`),
changing them (`change`), printing (`printLine`), calling tools (`check`, `execute`) and
giving up (`fail`).
-/
namespace LlvmProvision

open Files Tools Text

/-- Something that happened in a run. -/
inductive Event
  /-- The run itself printed a text. -/
  | printed (text : String)
  /-- A call was made, with the files as they were then, and this came of it. -/
  | called (call : Call) (files : Tree) (reply : Reply)

/-- The files and the record of a run, the first event first. -/
structure Session where
  files : Tree
  events : List Event

/-- What an event put on the standard output. -/
def Event.output : Event → String
  | printed text => text
  | called _ _ reply => reply.printed

namespace Session

/-- The beginning of a run. -/
def start (files : Tree) : Session := ⟨files, []⟩

/-- All that has been printed. -/
def output (session : Session) : String := String.join (session.events.map Event.output)

/-- The session after one more event. -/
def record (session : Session) (event : Event) : Session :=
  { session with events := session.events ++ [event] }

end Session

/-- A part of a run. -/
def Action (α : Type) : Type := Host → Session → Except Error α × Session

namespace Action

variable {α β : Type}

/-- Goes on with the value of the first action, unless it failed. -/
def andThen (first : Action α) (next : α → Action β) : Action β := fun host session =>
  match first host session with
  | (.ok value, session) => next value host session
  | (.error error, session) => (.error error, session)

instance : Monad Action where
  pure value := fun _ session => (.ok value, session)
  bind := andThen

/-- After a success the next action takes over where the first one stopped. -/
theorem bind_of_ok {first : Action α} {next : α → Action β} {host : Host}
    {session session' : Session} {value : α} (h : first host session = (.ok value, session')) :
    (first >>= next) host session = next value host session' := by
  simp [bind, andThen, h]

/-- After a failure nothing more happens. -/
theorem bind_of_error {first : Action α} {next : α → Action β} {host : Host}
    {session session' : Session} {error : Error}
    (h : first host session = (.error error, session')) :
    (first >>= next) host session = (.error error, session') := by
  simp [bind, andThen, h]

private theorem bind_pure_same (action : Action α) : action >>= pure = action := by
  funext host session
  simp only [bind, andThen]
  rcases action host session with ⟨_ | _, _⟩ <;> rfl

private theorem bind_regroup {γ : Type} (first : Action α) (second : α → Action β)
    (third : β → Action γ) :
    first >>= second >>= third = first >>= fun value => second value >>= third := by
  funext host session
  simp only [bind, andThen]
  rcases first host session with ⟨_ | _, _⟩ <;> rfl

instance : LawfulMonad Action :=
  LawfulMonad.mk' Action bind_pure_same (fun _ _ => rfl) bind_regroup

/-- Gives up. -/
def fail (error : Error) : Action α := fun _ session => (.error error, session)

/-- Looks at the files. -/
def look (question : Location → Tree → α) : Action α := fun host session =>
  (.ok (question host.here session.files), session)

/-- Finds something out about the files, or gives up if it cannot be found out. -/
def require {ε : Type} (question : Location → Tree → Except ε α) (error : ε → Error) :
    Action α := fun host session =>
  match question host.here session.files with
  | .ok value => (.ok value, session)
  | .error fault => (.error (error fault), session)

/-- Changes the files; if that fails, keeps what was changed and gives up. -/
def change {ε : Type} (operation : Location → Tree → Except ε Unit × Tree)
    (error : ε → Error) : Action Unit := fun host session =>
  match operation host.here session.files with
  | (.ok (), files) => (.ok (), { session with files })
  | (.error fault, files) => (.error (error fault), { session with files })

/-- An operation that changes the files only if it succeeds. -/
def wholly {ε : Type} (operation : Location → Tree → Except ε Tree) (here : Location)
    (files : Tree) : Except ε Unit × Tree :=
  match operation here files with
  | .ok changed => (.ok (), changed)
  | .error fault => (.error fault, files)

/-- Prints a line. -/
def printLine (line : String) : Action Unit := fun _ session =>
  (.ok (), session.record (.printed (line ++ "\n")))

/-- Prints a line in a colour, if the host has texts coloured. -/
def printColoured (colour : Colour) (line : String) : Action Unit := fun host session =>
  (.ok (), session.record (.printed (colour.paint host.coloured line ++ "\n")))

/-- Makes a call. -/
def call (call : Call) : Action Outcome := fun host session =>
  let reply := host.respond call session.files
  (.ok reply.outcome,
    { files := reply.files
      events := session.events ++ [.called call session.files reply] })

/-- Makes sure that a tool can be run. -/
def check (tool : String) : Action Unit := do
  let outcome ← call (.check tool)
  if outcome.isSuccess then pure () else fail (.toolMissing tool)

/-- Runs a command that has to end well. -/
def execute (command : Command) : Action Unit := do
  match ← call (.run command) with
  | .unstarted fault => fail (.commandUnstarted command.purpose fault)
  | .ended status =>
    if status.isSuccess then pure () else fail (.commandFailed command.purpose status)

end Action

end LlvmProvision
