import LlvmProvision.Archive

/-!
# What a pattern accepts

A text fits a pattern if it falls into parts, one for each piece of the pattern, that fit their
pieces (`Pattern.Fits`).  The matcher tries the runs of a piece one after the other and goes back
where one leads nowhere; it accepts just the texts that fit (`Pattern.accepts_iff`).

For archive names this comes to a condition on the two ends of a name and on what is between them
(`Archive.names_accepted`).
-/
namespace LlvmProvision

/-- What a piece of a pattern stands for. -/
def Piece.Fits : Piece → List Char → Prop
  | .literal text, part => part = text.toList
  | .anything, part => '\n' ∉ part

namespace Pattern

/-- **The text fits the pattern**: it falls into parts that fit the pieces in order. -/
inductive Fits : Pattern → List Char → Prop
  | nil : Fits [] []
  | cons {piece : Piece} {pieces : Pattern} {part rest : List Char} :
      piece.Fits part → Fits pieces rest → Fits (piece :: pieces) (part ++ rest)

variable {piece : Piece} {pieces : Pattern} {text cs rest : List Char}

theorem fits_nil_iff : Fits [] cs ↔ cs = [] := by
  constructor
  · rintro ⟨⟩
    rfl
  · rintro rfl
    exact .nil

theorem fits_cons_iff : Fits (piece :: pieces) cs ↔
    ∃ part rest, cs = part ++ rest ∧ piece.Fits part ∧ Fits pieces rest := by
  constructor
  · rintro (_ | ⟨hpart, hrest⟩)
    exact ⟨_, _, rfl, hpart, hrest⟩
  · rintro ⟨part, rest, rfl, hpart, hrest⟩
    exact .cons hpart hrest

/-! ## The matcher -/

theorem after?_eq_some_iff : after? text cs = some rest ↔ cs = text ++ rest := by
  induction text generalizing cs with
  | nil => simp [after?, eq_comm]
  | cons c text ih =>
    cases cs with
    | nil => simp [after?]
    | cons d cs =>
      simp only [after?, List.cons_append, List.cons.injEq]
      split
      · rename_i same
        simp [ih, same]
      · rename_i other
        simp [Ne.symm other]

/-- A run may end anywhere before the first line feed. -/
theorem afterRun_iff {accepts : List Char → Bool} : afterRun accepts cs = true ↔
    ∃ run rest, cs = run ++ rest ∧ '\n' ∉ run ∧ accepts rest = true := by
  induction cs with
  | nil =>
    simp only [afterRun, List.nil_eq, List.append_eq_nil_iff]
    constructor
    · exact fun h => ⟨[], [], ⟨rfl, rfl⟩, List.not_mem_nil, h⟩
    · rintro ⟨_, _, ⟨rfl, rfl⟩, -, h⟩
      exact h
  | cons c cs ih =>
    simp only [afterRun, Bool.or_eq_true, Bool.and_eq_true, decide_eq_true_eq, ih]
    constructor
    · rintro (h | ⟨hc, run, rest, rfl, hrun, hrest⟩)
      · exact ⟨[], c :: cs, rfl, List.not_mem_nil, h⟩
      · exact ⟨c :: run, rest, rfl, by simp [hrun, Ne.symm hc], hrest⟩
    · rintro ⟨run, rest, hcs, hrun, hrest⟩
      cases run with
      | nil =>
        obtain rfl : c :: cs = rest := hcs
        exact .inl hrest
      | cons d run =>
        obtain ⟨rfl, rfl⟩ := List.cons.inj hcs
        rw [List.mem_cons, not_or] at hrun
        exact .inr ⟨Ne.symm hrun.1, run, rest, rfl, hrun.2, hrest⟩

/-- **The matcher accepts just the texts that fit.** -/
theorem accepts_iff (pattern : Pattern) (cs : List Char) :
    accepts pattern cs = true ↔ pattern.Fits cs := by
  induction pattern generalizing cs with
  | nil => simp [accepts, fits_nil_iff]
  | cons piece pieces ih =>
    rw [fits_cons_iff]
    cases piece with
    | literal text =>
      -- a literal piece leaves no choice for its part
      have hliteral : (∃ part rest, cs = part ++ rest ∧ part = text.toList ∧ Fits pieces rest) ↔
          ∃ rest, after? text.toList cs = some rest ∧ Fits pieces rest := by
        simp only [after?_eq_some_iff]
        constructor
        · rintro ⟨_, rest, hcs, rfl, hrest⟩
          exact ⟨rest, hcs, hrest⟩
        · rintro ⟨rest, hcs, hrest⟩
          exact ⟨_, rest, hcs, rfl, hrest⟩
      simp only [Piece.Fits, hliteral, accepts]
      cases after? text.toList cs with
      | none => simp
      | some rest => simp [ih]
    | anything => simp only [accepts, afterRun_iff, ih, Piece.Fits]

end Pattern

/-! ## Archive names -/

namespace Archive

variable {name : String}

theorem fits_pattern_iff : pattern.Fits name.toList ↔ IsArchiveName name := by
  simp only [pattern, Pattern.fits_cons_iff, Pattern.fits_nil_iff, Piece.Fits, IsArchiveName]
  constructor
  · rintro ⟨_, _, hname, rfl, middle, _, rfl, hmiddle, _, _, rfl, rfl, rfl⟩
    exact ⟨middle, hmiddle, by rw [hname, List.append_nil, List.append_assoc]⟩
  · rintro ⟨middle, hmiddle, hname⟩
    exact ⟨_, _, by rw [hname, List.append_assoc], rfl, middle, _, rfl, hmiddle, _, [],
      (List.append_nil _).symm, rfl, rfl⟩

/-- The two ends and what is between them, told apart by their lengths. -/
theorem isArchiveName_iff_ends : IsArchiveName name ↔
    nameStart.toList <+: name.toList ∧ nameEnd.toList <:+ name.toList ∧ '\n' ∉ name.toList ∧
      nameStart.length + nameEnd.length ≤ name.length := by
  have hstart : '\n' ∉ nameStart.toList := by decide
  have hend : '\n' ∉ nameEnd.toList := by decide
  simp only [← String.length_toList]
  constructor
  · rintro ⟨middle, hmiddle, hname⟩
    rw [hname]
    refine ⟨⟨middle ++ nameEnd.toList, (List.append_assoc ..).symm⟩, List.suffix_append _ _, ?_, ?_⟩
    · simp only [List.mem_append, not_or]
      exact ⟨⟨hstart, hmiddle⟩, hend⟩
    · simp only [List.length_append]
      omega
  · rintro ⟨⟨rest, hrest⟩, hsuffix, hline, hlength⟩
    -- the end is short enough to lie in what follows the start
    rw [← hrest] at hsuffix hline hlength
    obtain ⟨middle, hmiddle⟩ : nameEnd.toList <:+ rest := by
      refine List.suffix_of_suffix_length_le hsuffix (List.suffix_append _ _) ?_
      rw [List.length_append] at hlength
      omega
    refine ⟨middle, fun hm => hline ?_, by rw [← hrest, ← hmiddle, List.append_assoc]⟩
    exact List.mem_append_right _ (hmiddle ▸ List.mem_append_left _ hm)

/-- **The names of archives.**  Their pattern has the usual spelling, and it accepts a name exactly
if that begins and ends as it should, with a text on one line between the two: equally, if it has
both ends without an overlap and no line feed. -/
theorem names_accepted : pattern.spelled = "^LLVM-16.*\\.tar\\.gz$" ∧
    ∀ name : String, (isArchiveName name = true ↔ IsArchiveName name) ∧
      (isArchiveName name = true ↔
        nameStart.toList <+: name.toList ∧ nameEnd.toList <:+ name.toList ∧
          '\n' ∉ name.toList ∧ nameStart.length + nameEnd.length ≤ name.length) := by
  refine ⟨by decide, fun name => ?_⟩
  have haccepted : isArchiveName name = true ↔ IsArchiveName name := by
    rw [isArchiveName, Pattern.accepts_iff, fits_pattern_iff]
  exact ⟨haccepted, haccepted.trans isArchiveName_iff_ends⟩

example : isArchiveName "LLVM-16.tar.gz.tar.gz" = true ∧ isArchiveName "LLVM-16.tar.gz\n" = false ∧
    isArchiveName "LLVM-16tar.gz" = false := by decide

end Archive

end LlvmProvision
