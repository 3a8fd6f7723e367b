import LlvmProvision.Configuration
import LlvmProvision.Shell.Words
import LlvmProvision.Text.Colour

/-!
# Single lines

What a run says on its way it says line by line, and no line has a line feed in it
(`IsLine`), whatever paths and values it shows.  Paths are quoted, numbers are digits, and the
arguments that a build is configured with are fixed texts.  Colours add no line feed either.
-/
namespace LlvmProvision

namespace Text

/-- The text is a single line. -/
def IsLine (text : String) : Prop := '\n' ∉ text.toList

instance (text : String) : Decidable (IsLine text) :=
  inferInstanceAs (Decidable (_ ∉ _))

namespace IsLine

theorem append {front back : String} (hf : IsLine front) (hb : IsLine back) :
    IsLine (front ++ back) := by
  rw [IsLine, String.toList_append, List.mem_append]
  exact not_or.2 ⟨hf, hb⟩

theorem joined {sep : String} (hs : IsLine sep) {parts : List String}
    (hp : ∀ part ∈ parts, IsLine part) : IsLine (joined sep parts) := by
  induction parts with
  | nil => exact List.not_mem_nil
  | cons part rest ih =>
    rw [List.forall_mem_cons] at hp
    cases rest with
    | nil => exact hp.1
    | cons next rest => exact (hp.1.append hs).append (ih hp.2)

/-! ### Numbers -/

theorem digitChar_ne (n : Nat) : n.digitChar ≠ '\n' := by
  grind [Nat.digitChar]

theorem not_mem_toDigits {base : Nat} (hb : 1 < base) (n : Nat) :
    '\n' ∉ Nat.toDigits base n := by
  induction n using Nat.strongRecOn with
  | _ n ih =>
    by_cases hn : n < base
    · rw [Nat.toDigits_of_lt_base hn, List.mem_singleton]
      exact (digitChar_ne n).symm
    · have hle : base ≤ n := Nat.le_of_not_lt hn
      have hlt : n / base < n := Nat.div_lt_self (by omega) hb
      rw [Nat.toDigits_of_base_le hb hle, List.mem_append, List.mem_singleton]
      exact not_or.2 ⟨ih _ hlt, (digitChar_ne _).symm⟩

theorem number (n : Nat) : IsLine (toString n) := by
  rw [IsLine, Nat.toString_eq_repr, Nat.toList_repr]
  exact not_mem_toDigits (by decide) n

/-! ### Quoted texts -/

theorem not_mem_escape (c : Char) : '\n' ∉ Quoted.escape c := by
  unfold Quoted.escape
  split
  · decide
  split
  · decide
  split
  · decide
  split
  · decide
  split
  · decide
  split
  · decide
  split
  · simp only [Quoted.numbered, Quoted.hexadecimal, List.mem_append]
    rintro ((h | h) | h)
    · exact absurd h (by decide)
    · exact not_mem_toDigits (by decide) _ h
    · exact absurd h (by decide)
  · rename_i hne _ _
    simpa [eq_comm] using hne

/-- **A quoted text is a single line**, whatever the text is. -/
theorem quote (text : String) : IsLine (Quoted.quote text) := by
  simp only [IsLine, Quoted.quote, String.toList_ofList, List.cons_append, List.mem_cons,
    List.mem_append, List.mem_flatMap]
  rintro (h | (⟨c, -, h⟩ | h | h))
  · exact absurd h (by decide)
  · exact not_mem_escape c h
  · exact absurd h (by decide)
  · exact absurd h List.not_mem_nil

/-! ### Coloured texts -/

theorem not_mem_resume {colour : Colour} {cs : List Char} (h : '\n' ∉ cs) :
    '\n' ∉ colour.resume cs := by
  have hstart : '\n' ∉ colour.start := by cases colour <;> decide
  have hreset : '\n' ∉ Colour.reset := by decide
  fun_induction Colour.resume colour cs with
  | case1 rest ih =>
    simp only [List.mem_append, not_or]
    exact ⟨⟨hreset, hstart⟩, ih fun hr => h (by simp [hr])⟩
  | case2 c rest hne ih =>
    rw [List.mem_cons, not_or] at h ⊢
    exact ⟨h.1, ih h.2⟩
  | case3 => exact h

theorem paint {text : String} (h : IsLine text) (enabled : Bool) (colour : Colour) :
    IsLine (colour.paint enabled text) := by
  have hstart : '\n' ∉ colour.start := by cases colour <;> decide
  have hreset : '\n' ∉ Colour.reset := by decide
  cases enabled with
  | false => exact h
  | true =>
    simp only [IsLine, Colour.paint, if_true, String.toList_ofList, List.mem_append, not_or]
    exact ⟨⟨hstart, not_mem_resume h⟩, hreset⟩

end IsLine

end Text

open Text

/-! ## Command lines -/

namespace Shell

theorem not_mem_quoteWord {word : List Char} (h : '\n' ∉ word) : '\n' ∉ quoteWord word := by
  unfold quoteWord
  split
  · exact h
  · simp only [List.cons_append, List.mem_cons, List.mem_append, List.mem_flatMap, not_or,
      not_exists]
    refine ⟨by decide, ⟨?_, by decide, List.not_mem_nil⟩⟩
    rintro c ⟨hc, hq⟩
    unfold quoteChar at hq
    split at hq
    · exact absurd hq (by decide)
    · exact h (by rwa [List.mem_singleton.1 hq])

theorem not_mem_quoteWords {words : List (List Char)} (h : ∀ word ∈ words, '\n' ∉ word) :
    '\n' ∉ quoteWords words := by
  induction words with
  | nil => exact List.not_mem_nil
  | cons word rest ih =>
    rw [List.forall_mem_cons] at h
    cases rest with
    | nil => exact not_mem_quoteWord h.1
    | cons next rest =>
      rw [quoteWords, List.mem_append, List.mem_cons, not_or, not_or]
      exact ⟨not_mem_quoteWord h.1, by decide, ih h.2⟩

/-- **A command is shown on a single line** if each of its words is one. -/
theorem isLine_commandLine {words : List String} (h : ∀ word ∈ words, IsLine word) :
    IsLine (commandLine words) := by
  rw [IsLine, commandLine, String.toList_ofList]
  refine not_mem_quoteWords fun word hw => ?_
  obtain ⟨text, ht, rfl⟩ := List.mem_map.1 hw
  exact h text ht

end Shell

/-! ## The arguments of a build -/

namespace Configuration

variable {configuration : Configuration}

theorem isLine_argument {definition : CMake.Definition} (hname : IsLine definition.name)
    (hvalue : IsLine definition.value) : IsLine definition.argument := by
  have hkind : IsLine definition.kind.suffix := by cases definition.kind <;> decide
  have hmark : IsLine "-D" := by decide
  have hequals : IsLine "=" := by decide
  exact (((hmark.append hname).append hkind).append hequals).append hvalue

theorem isLine_listValue {α : Type} [Choice α] (hname : ∀ member : α, IsLine (Choice.name member))
    (members : List α) : IsLine (listValue members) := by
  refine IsLine.joined (by decide) fun name hn => ?_
  obtain ⟨member, -, rfl⟩ := List.mem_map.1 hn
  exact hname member

/-- **Every argument of a build is a single line.** -/
theorem isLine_of_mem_arguments {argument : String} (h : argument ∈ configuration.arguments) :
    IsLine argument := by
  obtain ⟨definition, hd, rfl⟩ := List.mem_map.1 h
  have hbaseline : ∀ definition ∈ baseline, IsLine definition.argument := by decide +kernel
  simp only [definitions, List.mem_append, List.mem_cons, Option.mem_toList] at hd
  rcases hd with hd | rfl | rfl | hd
  · exact hbaseline definition hd
  · rw [libxml2Definition]
    cases configuration.usesLibxml2 <;> decide
  · have hname : IsLine "LLVM_TARGETS_TO_BUILD" := by decide
    exact isLine_argument hname (isLine_listValue (fun backend => by cases backend <;> decide) _)
  · rw [projectsDefinition?] at hd
    split at hd
    · cases hd
    · cases hd
      have hname : IsLine "LLVM_ENABLE_PROJECTS" := by decide
      exact isLine_argument hname (isLine_listValue (fun project => by cases project <;> decide) _)

end Configuration

end LlvmProvision
