/-!
# Separated fields

Two lists of this library are written as one text: the names of a path, between
slashes, and the values of a list option, between semicolons.  `joined` writes
such a list and `fields` reads it back.  Their law is `fields_joined`: as long as
no part holds the separator, reading returns exactly the parts that were written.
-/
namespace LlvmProvision.Text

/-- The parts of a text between the occurrences of `sep`.  There is always one
more part than there are separators, so an empty text has one empty part. -/
def splitAt (sep : Char) : List Char → List (List Char)
  | [] => [[]]
  | c :: cs =>
    if c = sep then [] :: splitAt sep cs
    else
      match splitAt sep cs with
      | [] => [[c]]
      | part :: parts => (c :: part) :: parts

/-- The fields of `text`, read at every `sep`. -/
def fields (sep : Char) (text : String) : List String :=
  (splitAt sep text.toList).map String.ofList

/-- The parts in order, with `sep` between each two. -/
def joined (sep : String) : List String → String
  | [] => ""
  | [part] => part
  | part :: next :: rest => part ++ sep ++ joined sep (next :: rest)

theorem splitAt_ne_nil (sep : Char) (cs : List Char) : splitAt sep cs ≠ [] := by
  cases cs with
  | nil => simp [splitAt]
  | cons c cs =>
    by_cases h : c = sep
    · simp [splitAt, h]
    · simp only [splitAt, h, if_false]
      split <;> simp

/-- A part without the separator is read as it stands, up to the first separator. -/
theorem splitAt_append_cons {sep : Char} {part : List Char} (rest : List Char)
    (h : sep ∉ part) : splitAt sep (part ++ sep :: rest) = part :: splitAt sep rest := by
  induction part with
  | nil => simp [splitAt]
  | cons c cs ih =>
    rw [List.mem_cons, not_or] at h
    simp [splitAt, Ne.symm h.1, ih h.2]

/-- A text without the separator is one field. -/
theorem splitAt_of_not_mem {sep : Char} {part : List Char} (h : sep ∉ part) :
    splitAt sep part = [part] := by
  induction part with
  | nil => rfl
  | cons c cs ih =>
    rw [List.mem_cons, not_or] at h
    simp [splitAt, Ne.symm h.1, ih h.2]

/-- **What was joined is read back.** -/
theorem fields_joined {sep : Char} {parts : List String} (nonempty : parts ≠ [])
    (free : ∀ part ∈ parts, sep ∉ part.toList) :
    fields sep (joined (String.singleton sep) parts) = parts := by
  induction parts with
  | nil => exact absurd rfl nonempty
  | cons part rest ih =>
    have head : sep ∉ part.toList := free part List.mem_cons_self
    cases rest with
    | nil => simp [fields, joined, splitAt_of_not_mem head]
    | cons next rest =>
      have tail := ih (List.cons_ne_nil _ _) fun p hp => free p (List.mem_cons_of_mem _ hp)
      simp only [fields] at tail
      simp [fields, joined, splitAt_append_cons _ head, tail]

end LlvmProvision.Text
