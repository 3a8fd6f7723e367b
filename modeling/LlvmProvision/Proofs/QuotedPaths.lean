import LlvmProvision.Error
import Mathlib.Data.List.Basic

/-!
# Messages that tell paths

A message that shows a path shows it in quotes.  What stands between the quotes can be read back
character by character (`readEscaped`), so nobody takes the end of one path for the beginning of
the next, whatever quotes, commas and brackets there are in them: a path is known from what is
shown of it (`quote_append_inj`), and a list of paths from the list that is shown
(`quoteList_injective`).

How a character is written is told once, in `Escaping`.  Nothing is written but what leaves a mark
(`IsLegible`), so that no path brings a line feed or another control into a message.
-/
namespace LlvmProvision

namespace Text

/-! ## Legible texts -/

/-- The controls, in both of their blocks. -/
def IsControl (c : Char) : Prop := c.toNat < 0x20 ∨ 0x7f ≤ c.toNat ∧ c.toNat ≤ 0x9f

theorem isUnprintable_of_isControl {c : Char} (h : IsControl c) : isUnprintable c = true := by
  rcases h with low | ⟨above, below⟩
  · exact isUnprintable_control low
  · have hshapeless : shapelessRanges.holds c = true :=
      Ranges.holds_eq_true_iff.2
        ⟨(0x7f, 0xa0), by simp [shapelessRanges], above, Nat.le_trans below (by decide)⟩
    have houtside : ¬ c.toNat ≤ 126 := by omega
    simp [isUnprintable, hshapeless, houtside]

/-- There is no control in the text. -/
def IsUncontrolled (text : String) : Prop := ∀ c ∈ text.toList, ¬ IsControl c

/-- Every character of the text leaves a mark. -/
def IsLegible (text : String) : Prop := ∀ c ∈ text.toList, isUnprintable c = false

instance (text : String) : Decidable (IsLegible text) :=
  List.decidableBAll _ text.toList

namespace IsLegible

theorem isUncontrolled {text : String} (h : IsLegible text) : IsUncontrolled text := by
  intro c hc hcontrol
  have hshown := h c hc
  rw [isUnprintable_of_isControl hcontrol] at hshown
  cases hshown

theorem append {front back : String} (hf : IsLegible front) (hb : IsLegible back) :
    IsLegible (front ++ back) := by
  rw [IsLegible, String.toList_append, List.forall_mem_append]
  exact ⟨hf, hb⟩

theorem joined {sep : String} (hs : IsLegible sep) {parts : List String}
    (hp : ∀ part ∈ parts, IsLegible part) : IsLegible (joined sep parts) := by
  induction parts with
  | nil => exact fun _ hc => absurd hc List.not_mem_nil
  | cons part rest ih =>
    rw [List.forall_mem_cons] at hp
    cases rest with
    | nil => exact hp.1
    | cons next rest => exact (hp.1.append hs).append (ih hp.2)

end IsLegible

namespace Quoted

/-! ## Characters by number -/

/-- The value of a hexadecimal digit. -/
def hexadecimalDigit (c : Char) : Nat :=
  if c.isDigit then c.toNat - '0'.toNat else c.toNat - 'a'.toNat + 10

/-- The number that hexadecimal digits stand for. -/
def readHexadecimal (digits : List Char) : Nat :=
  digits.foldl (fun value c => 16 * value + hexadecimalDigit c) 0

theorem hexadecimalDigit_digitChar {d : Nat} (h : d < 16) : hexadecimalDigit d.digitChar = d := by
  have hall : ∀ d < 16, hexadecimalDigit (Nat.digitChar d) = d := by decide
  exact hall d h

/-- A number is read back from its digits, the last of which is read last. -/
theorem readHexadecimal_hexadecimal (n : Nat) : readHexadecimal (hexadecimal n) = n := by
  induction n using Nat.strongRecOn with
  | _ n ih =>
    unfold hexadecimal at ih ⊢
    by_cases hn : n < 16
    · rw [Nat.toDigits_of_lt_base hn]
      simp [readHexadecimal, hexadecimalDigit_digitChar hn]
    · have hfront := ih (n / 16) (by omega)
      have hdigit : n % 16 < 16 := Nat.mod_lt n (by decide)
      rw [Nat.toDigits_of_base_le (by decide) (by omega)]
      unfold readHexadecimal at hfront ⊢
      rw [List.foldl_append, hfront, List.foldl_cons, List.foldl_nil,
        hexadecimalDigit_digitChar hdigit, Nat.div_add_mod]

theorem exists_of_mem_hexadecimal {c : Char} {n : Nat} (h : c ∈ hexadecimal n) :
    ∃ d < 16, c = Nat.digitChar d := by
  induction n using Nat.strongRecOn with
  | _ n ih =>
    unfold hexadecimal at ih h
    by_cases hn : n < 16
    · rw [Nat.toDigits_of_lt_base hn, List.mem_singleton] at h
      exact ⟨n, hn, h⟩
    · rw [Nat.toDigits_of_base_le (by decide) (by omega), List.mem_append, List.mem_singleton] at h
      rcases h with h | h
      · exact ih (n / 16) (by omega) h
      · exact ⟨n % 16, Nat.mod_lt n (by decide), h⟩

theorem ne_brace_of_mem_hexadecimal {c : Char} {n : Nat} (h : c ∈ hexadecimal n) :
    c ≠ '\x7d' := by
  obtain ⟨d, hd, rfl⟩ := exists_of_mem_hexadecimal h
  have hall : ∀ d < 16, Nat.digitChar d ≠ '\x7d' := by decide
  exact hall d hd

theorem isUnprintable_of_mem_numbered {c d : Char} (h : d ∈ numbered c) :
    isUnprintable d = false := by
  simp only [numbered, List.mem_append] at h
  rcases h with (h | h) | h
  · obtain rfl | rfl | rfl : d = '\\' ∨ d = 'u' ∨ d = '\x7b' := by simpa using h
    · decide
    · decide
    · decide
  · obtain ⟨n, hn, rfl⟩ := exists_of_mem_hexadecimal h
    have hall : ∀ n < 16, isUnprintable (Nat.digitChar n) = false := by decide
    exact hall n hn
  · obtain rfl := List.mem_singleton.1 h
    decide

/-! ## Characters between quotes -/

/-- The character that a letter behind a backslash stands for. -/
def ofLetter : Char → Char
  | '0' => '\x00'
  | 't' => '\t'
  | 'n' => '\n'
  | 'r' => '\r'
  | c => c

/-- **How a character is written between quotes.** -/
inductive Escaping (c : Char) : List Char → Prop
  /-- By a letter behind a backslash. -/
  | lettered {letter : Char} : ofLetter letter = c → letter ≠ 'u' → isUnprintable letter = false →
      Escaping c ['\\', letter]
  /-- By its number. -/
  | numbered : Escaping c (numbered c)
  /-- As it is. -/
  | plain : c ≠ '"' → c ≠ '\\' → isUnprintable c = false → Escaping c [c]

theorem escaping (c : Char) : Escaping c (escape c) := by
  unfold escape
  split
  · exact .lettered (by subst c; rfl) (by decide) (by decide)
  split
  · exact .lettered (by subst c; rfl) (by decide) (by decide)
  split
  · exact .lettered (by subst c; rfl) (by decide) (by decide)
  split
  · exact .lettered (by subst c; rfl) (by decide) (by decide)
  split
  · exact .lettered (by subst c; rfl) (by decide) (by decide)
  split
  · exact .lettered (by subst c; rfl) (by decide) (by decide)
  split
  · exact .numbered
  · rename_i hquote hslash _ _ _ _ hshown
    exact .plain hquote hslash (Bool.eq_false_iff.2 hshown)

/-- Reads one character as it is written between quotes, and gives what follows it. -/
def readEscaped : List Char → Option (Char × List Char)
  | '\\' :: 'u' :: '\x7b' :: rest =>
    some (Char.ofNat (readHexadecimal (rest.takeWhile (· ≠ '\x7d'))),
      (rest.dropWhile (· ≠ '\x7d')).drop 1)
  | '\\' :: letter :: rest => some (ofLetter letter, rest)
  | c :: rest => some (c, rest)
  | [] => none

theorem readEscaped_numbered (c : Char) (rest : List Char) :
    readEscaped (numbered c ++ rest) = some (c, rest) := by
  have hdigits : ∀ d ∈ hexadecimal c.toNat, decide (d ≠ '\x7d') = true := fun d hd =>
    decide_eq_true (ne_brace_of_mem_hexadecimal hd)
  simp only [numbered, List.cons_append, List.nil_append, List.append_assoc, readEscaped]
  rw [List.takeWhile_append_of_pos hdigits, List.dropWhile_append_of_pos hdigits]
  simp [readHexadecimal_hexadecimal, Char.ofNat_toNat]

/-- **A character is read back**, whatever follows it. -/
theorem readEscaped_escape (c : Char) (rest : List Char) :
    readEscaped (escape c ++ rest) = some (c, rest) := by
  have hwritten := escaping c
  generalize escape c = written at hwritten ⊢
  cases hwritten with
  | lettered hletter hu _ =>
    rw [List.cons_append, List.singleton_append, readEscaped, hletter]
    exact fun _ he => absurd he hu
  | numbered => exact readEscaped_numbered c rest
  | plain _ hslash _ =>
    rw [List.singleton_append, readEscaped]
    · exact fun _ he => absurd he hslash
    · exact fun _ _ he => absurd he hslash

/-- What is written for a character tells it apart from any other. -/
theorem escape_append_inj {c d : Char} {cs ds : List Char}
    (h : escape c ++ cs = escape d ++ ds) : c = d ∧ cs = ds := by
  have hread := readEscaped_escape c cs
  rw [h, readEscaped_escape, Option.some.injEq, Prod.mk.injEq] at hread
  exact ⟨hread.1.symm, hread.2.symm⟩

/-- No character is written with a quote in front. -/
theorem escape_append_ne (c : Char) (cs ds : List Char) : escape c ++ cs ≠ '"' :: ds := by
  have hwritten := escaping c
  generalize escape c = written at hwritten ⊢
  cases hwritten with
  | lettered _ _ _ => simp
  | numbered => simp [numbered]
  | plain hquote _ _ => simp [hquote]

theorem isUnprintable_of_mem_escape {c d : Char} (h : d ∈ escape c) : isUnprintable d = false := by
  have hwritten := escaping c
  generalize escape c = written at hwritten h
  cases hwritten with
  | lettered _ _ hshown =>
    rcases List.mem_cons.1 h with rfl | h
    · decide
    · obtain rfl := List.mem_singleton.1 h
      exact hshown
  | numbered => exact isUnprintable_of_mem_numbered h
  | plain _ _ hshown =>
    obtain rfl := List.mem_singleton.1 h
    exact hshown

/-! ## Quoted texts -/

/-- Behind some characters that are written, the first quote is the end of them. -/
theorem flatMap_escape_inj {cs ds rest left : List Char}
    (h : cs.flatMap escape ++ '"' :: rest = ds.flatMap escape ++ '"' :: left) :
    cs = ds ∧ rest = left := by
  induction cs generalizing ds with
  | nil =>
    cases ds with
    | nil => exact ⟨rfl, by simpa using h⟩
    | cons d ds =>
      rw [List.flatMap_nil, List.nil_append, List.flatMap_cons, List.append_assoc] at h
      exact absurd h.symm (escape_append_ne _ _ _)
  | cons c cs ih =>
    cases ds with
    | nil =>
      rw [List.flatMap_nil, List.nil_append, List.flatMap_cons, List.append_assoc] at h
      exact absurd h (escape_append_ne _ _ _)
    | cons d ds =>
      rw [List.flatMap_cons, List.flatMap_cons, List.append_assoc, List.append_assoc] at h
      obtain ⟨rfl, hrest⟩ := escape_append_inj h
      obtain ⟨rfl, hleft⟩ := ih hrest
      exact ⟨rfl, hleft⟩

/-- **A text is known from its quotation**, whatever follows that. -/
theorem quote_append_inj {text other : String} {rest left : List Char}
    (h : (quote text).toList ++ rest = (quote other).toList ++ left) :
    text = other ∧ rest = left := by
  simp only [quote, String.toList_ofList, List.cons_append, List.append_assoc, List.nil_append,
    List.cons.injEq, true_and] at h
  obtain ⟨htext, hrest⟩ := flatMap_escape_inj h
  exact ⟨String.toList_inj.1 htext, hrest⟩

theorem isLegible_quote (text : String) : IsLegible (quote text) := by
  have hquote : isUnprintable '"' = false := by decide
  simp only [IsLegible, quote, String.toList_ofList, List.cons_append, List.forall_mem_cons,
    List.forall_mem_append]
  refine ⟨hquote, fun c hc => ?_, hquote, fun _ hc => absurd hc List.not_mem_nil⟩
  obtain ⟨d, -, hd⟩ := List.mem_flatMap.1 hc
  exact isUnprintable_of_mem_escape hd

/-! ## Quoted lists -/

/-- What stands behind the first text of a list: the others, each behind a separator. -/
def continued (texts : List String) : List Char :=
  texts.flatMap fun text => ',' :: ' ' :: (quote text).toList

theorem toList_joined_quote (text : String) (texts : List String) :
    (joined ", " ((text :: texts).map quote)).toList =
      (quote text).toList ++ continued texts := by
  induction texts generalizing text with
  | nil => simp [joined, continued]
  | cons next texts ih =>
    rw [List.map_cons, List.map_cons, joined, ← List.map_cons, String.toList_append, ih]
    simp [continued]

theorem continued_inj {texts others : List String}
    (h : continued texts ++ [']'] = continued others ++ [']']) : texts = others := by
  induction texts generalizing others with
  | nil =>
    cases others with
    | nil => rfl
    | cons other others => simp [continued] at h
  | cons text texts ih =>
    cases others with
    | nil => simp [continued] at h
    | cons other others =>
      simp only [continued, List.flatMap_cons, List.cons_append, List.append_assoc,
        List.cons.injEq, true_and] at h
      obtain ⟨rfl, hrest⟩ := quote_append_inj h
      rw [ih hrest]

/-- **A list of texts is known from what is shown of it.** -/
theorem quoteList_injective : Function.Injective quoteList := by
  intro texts others h
  have hlist := congrArg String.toList h
  simp only [quoteList, String.toList_append, List.append_assoc, List.append_cancel_left_eq] at hlist
  cases texts with
  | nil =>
    cases others with
    | nil => rfl
    | cons other others =>
      rw [toList_joined_quote] at hlist
      simp [joined, quote] at hlist
  | cons text texts =>
    cases others with
    | nil =>
      rw [toList_joined_quote] at hlist
      simp [joined, quote] at hlist
    | cons other others =>
      rw [toList_joined_quote, toList_joined_quote, List.append_assoc, List.append_assoc] at hlist
      obtain ⟨rfl, hrest⟩ := quote_append_inj hlist
      rw [continued_inj hrest]

theorem isLegible_quoteList (texts : List String) : IsLegible (quoteList texts) := by
  have hjoined : IsLegible (joined ", " (texts.map quote)) := by
    refine IsLegible.joined (by decide) fun part hp => ?_
    obtain ⟨text, -, rfl⟩ := List.mem_map.1 hp
    exact isLegible_quote text
  exact (IsLegible.append (by decide) hjoined).append (by decide)

end Quoted

end Text

/-! ## Errors -/

open Files Text

theorem Files.Path.text_injective : Function.Injective Path.text :=
  fun ⟨_⟩ ⟨_⟩ h => congrArg Path.mk h

namespace Error

theorem message_ambiguousArchive (archives : List Path) : message (.ambiguousArchive archives) =
    "Found more than one LLVM package: " ++ Quoted.quoteList (archives.map Path.text) := rfl

theorem message_sourceTreeMissing (source : Path) : message (.sourceTreeMissing source) =
    "The LLVM source tree " ++ (source.quoted ++ " does not exist") :=
  String.append_assoc

theorem ambiguousArchive_injective :
    Function.Injective fun archives => message (.ambiguousArchive archives) := by
  intro archives others h
  simp only [message_ambiguousArchive, String.append_right_inj] at h
  exact List.map_injective_iff.2 Path.text_injective (Quoted.quoteList_injective h)

theorem sourceTreeMissing_injective :
    Function.Injective fun source => message (.sourceTreeMissing source) := by
  intro source other h
  simp only [message_sourceTreeMissing, String.append_right_inj] at h
  have hlist := congrArg String.toList h
  rw [String.toList_append, String.toList_append] at hlist
  exact Path.text_injective (Quoted.quote_append_inj hlist).1

/-- The first letter tells one error from the other. -/
theorem ambiguousArchive_ne (archives : List Path) (source : Path) :
    message (.ambiguousArchive archives) ≠ message (.sourceTreeMissing source) := by
  intro h
  have hlist := congrArg (fun text : String => text.toList.head?) h
  simp only [message_ambiguousArchive, message_sourceTreeMissing, String.toList_append,
    List.head?_append] at hlist
  cases hlist

/-- **The errors that tell paths tell them without mistake**: which paths they are is known from
the message, and which of the two errors it is, and no control gets into it. -/
theorem paths_known :
    (Function.Injective fun archives => message (.ambiguousArchive archives)) ∧
      (Function.Injective fun source => message (.sourceTreeMissing source)) ∧
      (∀ archives source,
        message (.ambiguousArchive archives) ≠ message (.sourceTreeMissing source)) ∧
      (∀ archives, IsUncontrolled (message (.ambiguousArchive archives))) ∧
      ∀ source, IsUncontrolled (message (.sourceTreeMissing source)) := by
  refine ⟨ambiguousArchive_injective, sourceTreeMissing_injective, ambiguousArchive_ne,
    fun archives => ?_, fun source => ?_⟩
  · rw [message_ambiguousArchive]
    exact (IsLegible.append (by decide) (Quoted.isLegible_quoteList _)).isUncontrolled
  · have hquoted : IsLegible source.quoted := Quoted.isLegible_quote _
    rw [message_sourceTreeMissing]
    exact (IsLegible.append (by decide) (hquoted.append (by decide))).isUncontrolled

end Error

end LlvmProvision
