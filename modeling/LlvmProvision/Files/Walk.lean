import LlvmProvision.Files.Fault
import LlvmProvision.Files.Tree

/-!
# Walking a path

A walk starts in a directory and takes the steps of a path one after the other.  Where a
step meets a link, the steps of the link's target are taken in its place, and only so many
links may be met on one walk.  Hence the walk is two nested recursions: `stride` goes as
far as the steps lead without a link, along the list of steps, and `walk` continues behind
a link, along the number of links still allowed.

A walk may end at an entry that exists, or in a directory that has no entry of the next
name.  The second end is where new entries are made, so it is an arrival and no error.

The system walks a path that it is given in this way.  A program that wants to know the
location of an entry walks by itself and asks the system for one entry after the other, each
by its path from the root.  Such a path has a slash at its end where the entry has to be a
directory, and it is too long sooner than the path that was given (`Tree.lookupPath`).
-/
namespace LlvmProvision.Files

/-- The most bytes a name may have. -/
def nameLimit : Nat := 255

/-- A path has to be shorter than this many bytes. -/
def pathLimit : Nat := 4096

/-- The most links that one walk may follow. -/
def linkLimit : Nat := 40

/-- How a walk is made. -/
structure Gait where
  /-- A link at the very end is followed; otherwise it is where the walk ends. -/
  follow : Bool
  /-- Each entry on the way is looked up by its path from the root, so that this path must
  not be too long. -/
  fromRoot : Bool
  deriving DecidableEq, Repr

/-- Whether steps have to be taken in a directory, whatever the tree holds: only single dots
and slashes are left, or they go up before they enter anything. -/
def Step.needDirectory : List Step → Bool
  | [] | .enter _ :: _ => false
  | .up :: _ => true
  | .stay :: rest | .slash :: rest => rest.isEmpty || needDirectory rest

/-- Where a walk ends. -/
inductive Arrival
  /-- At an entry that exists. -/
  | found (place : Location)
  /-- In a directory without an entry of the name, the steps in `rest` not yet taken. -/
  | missing (parent : Location) (name : String) (rest : List Step)
  deriving DecidableEq, Repr

/-- Where a walk stops or meets a link. -/
inductive Stride
  | arrived (arrival : Arrival)
  | refused (error : SystemError)
  /-- At a link in the directory `parent`, the steps in `rest` not yet taken. -/
  | link (parent : Location) (target : Path) (rest : List Step)
  deriving DecidableEq, Repr

namespace Tree

/-- The path by which an entry is looked up from the root where the steps in `rest` come
behind it.  A link is read by its path alone; anything else is asked for as a directory,
with a slash at the end, if the steps need one. -/
def lookupPath (tree : Tree) (place : Location) (rest : List Step) : Path :=
  match tree.node? place with
  | some (.link _) => place.path
  | _ => if Step.needDirectory rest then ⟨place.path.text ++ "/"⟩ else place.path

/-- The path that is looked up next.  A walk goes over single dots and slashes, and up,
without looking anything up. -/
def nextLookup? (tree : Tree) (here : Location) : List Step → Option Path
  | [] | .up :: _ => none
  | .stay :: rest | .slash :: rest => nextLookup? tree here rest
  | .enter name :: rest => some (tree.lookupPath (here ++ [name]) rest)

/-- Whether a walk cannot go on because the path that is looked up next is too long. -/
def isOutOfReach (tree : Tree) (gait : Gait) (here : Location) (steps : List Step) : Bool :=
  gait.fromRoot &&
    (tree.nextLookup? here steps).any fun path => pathLimit ≤ path.text.utf8ByteSize

/-- Takes steps until they are used up, cannot be taken, or lead to a link. -/
def stride (tree : Tree) (gait : Gait) : Location → List Step → Stride
  | here, [] => .arrived (.found here)
  | here, step :: rest =>
    if tree.isOutOfReach gait here (step :: rest) then .refused .nameTooLong
    else
      match tree.node? here with
      | some .directory =>
        match step with
        | .stay | .slash => stride tree gait here rest
        | .up => stride tree gait here.dropLast rest
        | .enter name =>
          if nameLimit < name.utf8ByteSize then .refused .nameTooLong
          else
            match tree.node? (here ++ [name]) with
            | none => .arrived (.missing here name rest)
            | some (.link target) =>
              if rest = [] ∧ gait.follow = false then .arrived (.found (here ++ [name]))
              else .link here target rest
            | some _ => stride tree gait (here ++ [name]) rest
      | some _ => .refused .notDirectory
      | none => .refused .noEntry

/-- Where the steps of a path begin: at the root, or in the directory it is relative to. -/
def startOf (path : Path) (here : Location) : Location := if path.isAbsolute then [] else here

/-- Takes steps through at most `links` links. -/
def walk (tree : Tree) (gait : Gait) (links : Nat) (here : Location) (steps : List Step) :
    Except SystemError Arrival :=
  match tree.stride gait here steps with
  | .arrived arrival => .ok arrival
  | .refused error => .error error
  | .link parent target rest =>
    match links with
    | 0 => .error .tooManyLinks
    | links + 1 => walk tree gait links (startOf target parent) (target.steps ++ rest)

/-- The outcome of a walk as an operation on files reports it. -/
def reported : Except SystemError Arrival → Except Fault Arrival
  | .ok arrival => .ok arrival
  | .error error => .error (.system error)

/-- Walks from `here` along the given steps of a spelled path.  A path with a NUL
character, the empty path and one that is too long are refused before the first step. -/
def seek (tree : Tree) (here : Location) (path : Path) (gait : Gait) (steps : List Step) :
    Except Fault Arrival :=
  if '\x00' ∈ path.text.toList then .error .nulInPath
  else if path.text = "" then .error (.system .noEntry)
  else if pathLimit ≤ path.text.utf8ByteSize then .error (.system .nameTooLong)
  else reported (tree.walk gait linkLimit (startOf path here) steps)

/-- Where a path leads, links followed to the end. -/
def find (tree : Tree) (here : Location) (path : Path) : Except Fault Arrival :=
  tree.seek here path ⟨true, false⟩ path.steps

/-- Where a path leads, links followed to the end and each entry looked up by its path from
the root. -/
def findFromRoot (tree : Tree) (here : Location) (path : Path) : Except Fault Arrival :=
  tree.seek here path ⟨true, true⟩ path.steps

/-- Where a path leads, a link at its end taken for itself. -/
def findEntry (tree : Tree) (here : Location) (path : Path) : Except Fault Arrival :=
  tree.seek here path ⟨false, false⟩ path.steps

/-- Where an entry with the spelled path belongs, whether or not it exists. -/
def findSlot (tree : Tree) (here : Location) (path : Path) : Except Fault Arrival :=
  tree.seek here path ⟨false, false⟩ path.entrySteps

end Tree

end LlvmProvision.Files
