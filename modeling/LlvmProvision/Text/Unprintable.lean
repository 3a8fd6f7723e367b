import LlvmProvision.Text.Extending
import LlvmProvision.Text.Shapeless
import LlvmProvision.Text.Unassigned

/-!
# Characters that do not show

A quoted text is read by people, so what leaves no mark of its own is written by number.
That are the characters without a shape, the marks that join the character before them,
and the code points that stand for no character.
-/
namespace LlvmProvision.Text

/-- A character that leaves no mark of its own.  Between the space and the tilde there is
none, which spares the search for most characters. -/
def isUnprintable (c : Char) : Bool :=
  !(32 ≤ c.toNat && c.toNat ≤ 126) &&
    (shapelessRanges.holds c || extendingRanges.holds c || unassignedRanges.holds c)

/-- Below the space there are only controls. -/
theorem isUnprintable_control {c : Char} (h : c.toNat < 32) : isUnprintable c = true := by
  have first : shapelessRanges.holds c = true :=
    Ranges.holds_eq_true_iff.2 ⟨(0x0, 0x1f), by simp [shapelessRanges], by simp, by simp; omega⟩
  have outside : ¬ 32 ≤ c.toNat := by omega
  simp [isUnprintable, first, outside]

end LlvmProvision.Text
