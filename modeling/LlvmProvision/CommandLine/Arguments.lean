import LlvmProvision.CommandLine.Item

/-!
# The arguments of a run

`Arguments.parse` judges the items of a command line setting by setting and gives the
arguments of a run.
-/
namespace LlvmProvision.CommandLine

/-- Numbers of jobs are below this limit. -/
def jobsLimit : Nat := Nat.pow 2 64

/-- A number of jobs. -/
structure JobCount where
  count : Nat
  pos : 0 < count
  lt_limit : count < jobsLimit
  deriving DecidableEq, Repr

/-- Reads a number of jobs. -/
def JobCount.read (text : String) : Except JobsFault JobCount :=
  match h : Text.Numeral.readBelow jobsLimit text with
  | .error fault => .error (.unreadable fault)
  | .ok count =>
    if pos : 0 < count then
      .ok ⟨count, pos, Text.Numeral.readBelow_lt (by decide) h⟩
    else .error .zero

/-- The arguments of a run. -/
structure Arguments where
  platform : Platform
  backends : List Backend
  projects : List Project
  root : Files.Path
  jobs : Option JobCount
  deriving DecidableEq, Repr

namespace Arguments

/-- The values that count for a setting: its default stands in where none is given. -/
def settled (items : List Item) (setting : Setting) : List String :=
  if Item.values items setting = [] then setting.default?.toList else Item.values items setting

/-- Judges one value. -/
def judgeValue (setting : Setting) (value : String) : Except Refusal Unit :=
  match setting.accepted? with
  | some names => if value ∈ names then .ok () else .error (.invalidValue setting value)
  | none =>
    match setting with
    | .jobs =>
      match JobCount.read value with
      | .ok _ => .ok ()
      | .error fault => .error (.invalidJobs fault)
    | _ => .ok ()

/-- Judges values one after the other. -/
def judgeValues (setting : Setting) : List String → Except Refusal Unit
  | [] => .ok ()
  | value :: rest =>
    match judgeValue setting value with
    | .ok () => judgeValues setting rest
    | .error refusal => .error refusal

/-- Judges what is said about one setting: that it has a value if it is named, that its
values are accepted, and that it is named once unless it is a list. -/
def judge (items : List Item) (setting : Setting) : Except Refusal Unit :=
  if Item.mentions items setting = 0 then .ok ()
  else if settled items setting = [] then .error (.emptyValue setting)
  else
    match judgeValues setting (settled items setting) with
    | .error refusal => .error refusal
    | .ok () =>
      if 1 < Item.mentions items setting ∧ setting.isList = false then
        .error (.repeatedSetting setting)
      else .ok ()

/-- Judges settings one after the other. -/
def judgeAll (items : List Item) : List Setting → Except Refusal Unit
  | [] => .ok ()
  | setting :: rest =>
    match judge items setting with
    | .ok () => judgeAll items rest
    | .error refusal => .error refusal

/-- The arguments that the items give, the values having been judged. -/
def ofItems (items : List Item) : Arguments where
  platform := ((settled items .platform).findSome? (Choice.find? Platform)).getD .default
  backends := (settled items .arch).filterMap (Choice.find? Backend)
  projects := (settled items .project).filterMap (Choice.find? Project)
  root := ⟨((settled items .depsDirectory).head?).getD ""⟩
  jobs := (settled items .jobs).head?.bind fun text => (JobCount.read text).toOption

/-- The arguments on a command line. -/
def parse (words : List String) : Except Refusal Arguments :=
  match Item.ofWords words with
  | .error refusal => .error refusal
  | .ok items =>
    match judgeAll items Setting.all with
    | .error refusal => .error refusal
    | .ok () => .ok (ofItems items)

end Arguments

end LlvmProvision.CommandLine
