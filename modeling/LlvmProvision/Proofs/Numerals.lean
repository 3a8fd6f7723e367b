import LlvmProvision.CommandLine.Arguments
import Mathlib.Data.List.Basic

/-!
# Reading numerals back

A number is read back from its decimal digits, as long as it is below the limit
(`readBelow_toString`): the digits are read from left to right, so the value of all but the last
is known by induction, and the last one is added to ten times that value.
-/
namespace LlvmProvision

namespace Text.Numeral

variable {limit n : Nat}

/-- What stands behind some digits is read onto their value. -/
theorem readDigits_append (limit value : Nat) (front back : List Char) :
    readDigits limit value (front ++ back) =
      (readDigits limit value front).bind fun value => readDigits limit value back := by
  induction front generalizing value with
  | nil => rfl
  | cons c front ih =>
    rw [List.cons_append, readDigits, readDigits]
    split
    · rfl
    · split
      · exact ih _
      · rfl

theorem digit?_digitChar {d : Nat} (h : d < 10) : digit? d.digitChar = some d := by
  have hall : ∀ d < 10, digit? (Nat.digitChar d) = some d := by decide
  exact hall d h

/-- A single digit is read if its value is below the limit. -/
theorem readDigits_digitChar {d : Nat} (value : Nat) (hd : d < 10) (h : 10 * value + d < limit) :
    readDigits limit value [d.digitChar] = .ok (10 * value + d) := by
  rw [readDigits, digit?_digitChar hd]
  exact if_pos h

theorem readDigits_toDigits (h : n < limit) :
    readDigits limit 0 (Nat.toDigits 10 n) = .ok n := by
  induction n using Nat.strongRecOn with
  | _ n ih =>
    by_cases hn : n < 10
    · rw [Nat.toDigits_of_lt_base hn, readDigits_digitChar 0 hn (by omega), Nat.mul_zero,
        Nat.zero_add]
    · have hfront : readDigits limit 0 (Nat.toDigits 10 (n / 10)) = .ok (n / 10) :=
        ih (n / 10) (by omega) (by omega)
      rw [Nat.toDigits_of_base_le (by decide) (by omega), readDigits_append, hfront]
      have hdigit : n % 10 < 10 := Nat.mod_lt n (by decide)
      have hlast := readDigits_digitChar (n / 10) hdigit (by rwa [Nat.div_add_mod])
      rw [Nat.div_add_mod] at hlast
      exact hlast

/-- A text without a sign is read as digits. -/
theorem readBelow_of_not_mem {text : String} (hne : text.toList ≠ []) (hsign : '+' ∉ text.toList) :
    readBelow limit text = readDigits limit 0 text.toList := by
  unfold readBelow
  split
  · rename_i hempty
    exact absurd hempty hne
  · rename_i hsigned
    simp [hsigned] at hsign
  · rename_i digits _ hsigned
    simp [hsigned] at hsign
  · rfl

theorem toList_toString (n : Nat) : (toString n).toList = Nat.toDigits 10 n := by
  rw [Nat.toString_eq_repr, Nat.toList_repr]

/-- A numeral consists of digits. -/
theorem isDigit_of_mem_toString {c : Char} (h : c ∈ (toString n).toList) : c.isDigit = true := by
  rw [toList_toString] at h
  exact Nat.isDigit_of_mem_toDigits (by decide) (by decide) h

/-- **A number is read back from its numeral.** -/
theorem readBelow_toString (h : n < limit) : readBelow limit (toString n) = .ok n := by
  have hsign : '+' ∉ (toString n).toList := fun hm =>
    absurd (isDigit_of_mem_toString hm) (by decide)
  rw [readBelow_of_not_mem (by rw [toList_toString]; exact Nat.toDigits_ne_nil) hsign,
    toList_toString, readDigits_toDigits h]

end Text.Numeral

/-- **A number of jobs is read back from its numeral.** -/
theorem CommandLine.JobCount.read_toString (jobs : JobCount) :
    read (toString jobs.count) = .ok jobs := by
  have hcount := Text.Numeral.readBelow_toString jobs.lt_limit
  unfold read
  split
  · rename_i fault hfault
    rw [hcount] at hfault
    cases hfault
  · rename_i count hread
    rw [hcount] at hread
    cases hread
    rw [dif_pos jobs.pos]

end LlvmProvision
