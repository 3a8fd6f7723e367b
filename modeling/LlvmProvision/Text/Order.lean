/-!
# Sorting by a text

Listings and archive names are shown in the order of their code points.  `sortOn`
sorts any list by a text read off its members; members with equal texts keep
their order.  It only rearranges (`sortOn_perm`) and its result is in order
(`sortOn_ordered`).
-/
namespace LlvmProvision.Text

variable {α : Type}

/-- Puts `x` in front of the first member whose text is not smaller. -/
def insertOn (key : α → String) (x : α) : List α → List α
  | [] => [x]
  | y :: ys => if key x ≤ key y then x :: y :: ys else y :: insertOn key x ys

/-- The members of a list in the order of their texts. -/
def sortOn (key : α → String) : List α → List α
  | [] => []
  | x :: xs => insertOn key x (sortOn key xs)

theorem insertOn_perm (key : α → String) (x : α) (xs : List α) :
    (insertOn key x xs).Perm (x :: xs) := by
  induction xs with
  | nil => exact .refl _
  | cons y ys ih =>
    by_cases h : key x ≤ key y
    · simp [insertOn, h]
    · simp only [insertOn, h, if_false]
      exact (ih.cons y).trans (.swap x y ys)

/-- Sorting only rearranges. -/
theorem sortOn_perm (key : α → String) (xs : List α) : (sortOn key xs).Perm xs := by
  induction xs with
  | nil => exact .refl _
  | cons x xs ih => exact (insertOn_perm key x _).trans (ih.cons x)

@[simp] theorem mem_sortOn {key : α → String} {x : α} {xs : List α} :
    x ∈ sortOn key xs ↔ x ∈ xs :=
  (sortOn_perm key xs).mem_iff

/-- In a sorted list no member's text exceeds that of a later member. -/
def Ordered (key : α → String) (xs : List α) : Prop :=
  xs.Pairwise fun x y => key x ≤ key y

theorem insertOn_ordered {key : α → String} (x : α) {xs : List α} (h : Ordered key xs) :
    Ordered key (insertOn key x xs) := by
  induction xs with
  | nil => simp [Ordered, insertOn]
  | cons y ys ih =>
    rw [Ordered, List.pairwise_cons] at h
    by_cases hxy : key x ≤ key y
    · simp only [insertOn, hxy, if_true, Ordered, List.pairwise_cons]
      refine ⟨fun z hz => ?_, h⟩
      rcases List.mem_cons.1 hz with rfl | hz
      · exact hxy
      · exact String.le_trans hxy (h.1 z hz)
    · simp only [insertOn, hxy, if_false, Ordered, List.pairwise_cons]
      refine ⟨fun z hz => ?_, ih h.2⟩
      rcases List.mem_cons.1 ((insertOn_perm key x ys).mem_iff.1 hz) with rfl | hz
      · exact (String.le_total (key z) (key y)).resolve_left hxy
      · exact h.1 z hz

/-- The result of sorting is in order. -/
theorem sortOn_ordered (key : α → String) (xs : List α) : Ordered key (sortOn key xs) := by
  induction xs with
  | nil => exact List.Pairwise.nil
  | cons x xs ih => exact insertOn_ordered x ih

end LlvmProvision.Text
