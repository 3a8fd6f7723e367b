import LlvmProvision.Proofs.Courses

/-!
# Runs that follow each other

The files are all that one run leaves to the next.  A `Round` is a run that somebody starts, on
some host and with some request, and a `Past` is what all rounds so far have come to.  What
holds of a past after any number of rounds is shown for one round (`Past.next`) and carried
over by `Past.after_induction`.
-/
namespace LlvmProvision

open Files Tools

/-- A run that is started: where, and what it is asked for. -/
structure Round where
  host : Host
  request : Request

/-- The end of a round on the given files. -/
def Round.ended (round : Round) (files : Tree) : Except Error Unit × Session :=
  Provision.run round.request round.host (.start files)

/-- What the rounds so far have come to: the files that are left, the result of each, and the
calls that were made. -/
structure Past where
  files : Tree
  results : List (Except Error Unit)
  made : List Made

namespace Past

variable {past : Past} {round : Round} {rounds : List Round}

/-- The past of the first round. -/
def start (files : Tree) : Past := ⟨files, [], []⟩

/-- The past after one more round. -/
def next (past : Past) (round : Round) : Past where
  files := (round.ended past.files).2.files
  results := past.results ++ [(round.ended past.files).1]
  made := past.made ++ (round.ended past.files).2.made

/-- The past after some more rounds. -/
def after (past : Past) (rounds : List Round) : Past := rounds.foldl next past

/-- What each round preserves is preserved by all of them. -/
theorem after_induction {motive : Past → Prop} (hp : motive past)
    (hnext : ∀ past, ∀ round ∈ rounds, motive past → motive (past.next round)) :
    motive (past.after rounds) := by
  induction rounds generalizing past with
  | nil => exact hp
  | cons round rounds ih =>
    refine ih (hnext past round List.mem_cons_self hp) fun past other ho => ?_
    exact hnext past other (List.mem_cons_of_mem round ho)

/-- A round takes the course of its run. -/
theorem next_of_course {result : Except Error Unit} {made : List Made} {left : Tree}
    (h : Provision.Course round.host round.request past.files result made left) :
    past.next round = ⟨left, past.results ++ [result], past.made ++ made⟩ := by
  obtain ⟨hresult, hmade, hleft⟩ := Provision.course_iff.1 h
  rw [next, Round.ended, hresult, hmade, hleft]

end Past

end LlvmProvision
