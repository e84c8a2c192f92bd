import Mathlib.Data.Rat.Cast.Order
import DateRules.Text.Similarity

/-!
The table of longest common subsequences holds what it is made for, and shares of characters are
compared as the fractions that they are.
-/
namespace DateRules.Text

/-- The lengths of the texts whose characters stand in both `a` and `b`, in their order. -/
def commonLengths (a b : List Char) : Set ℕ :=
  {n | ∃ s : List Char, s.Sublist a ∧ s.Sublist b ∧ s.length = n}

section
variable {x y : Char} {a b : List Char} {m n : ℕ}

theorem isGreatest_nil_left (b : List Char) : IsGreatest (commonLengths [] b) 0 := by
  refine ⟨⟨[], List.Sublist.slnil, List.nil_sublist b, rfl⟩, ?_⟩
  rintro n ⟨s, hs, -, rfl⟩
  rw [List.sublist_nil.mp hs, List.length_nil]

theorem commonLengths_comm (a b : List Char) : commonLengths a b = commonLengths b a := by
  ext n
  exact exists_congr fun s => ⟨fun ⟨ha, hb, hn⟩ => ⟨hb, ha, hn⟩, fun ⟨hb, ha, hn⟩ => ⟨ha, hb, hn⟩⟩

theorem isGreatest_nil_right (a : List Char) : IsGreatest (commonLengths a []) 0 := by
  rw [commonLengths_comm]
  exact isGreatest_nil_left a

theorem isGreatest_cons_self (h : IsGreatest (commonLengths a b) n) :
    IsGreatest (commonLengths (x :: a) (x :: b)) (n + 1) := by
  obtain ⟨⟨s, ha, hb, rfl⟩, hgreatest⟩ := h
  refine ⟨⟨x :: s, ha.cons_cons x, hb.cons_cons x, rfl⟩, ?_⟩
  rintro k ⟨t, ha', hb', rfl⟩
  -- But for its first character, a common subsequence is one of the rests.
  have htail : t.tail.length ≤ s.length := hgreatest ⟨t.tail, ha'.tail, hb'.tail, rfl⟩
  rw [List.length_tail] at htail
  omega

theorem isGreatest_cons_cons (hne : x ≠ y) (hleft : IsGreatest (commonLengths a (y :: b)) m)
    (hright : IsGreatest (commonLengths (x :: a) b) n) :
    IsGreatest (commonLengths (x :: a) (y :: b)) (max m n) := by
  constructor
  · rcases le_total m n with hmn | hnm
    · obtain ⟨s, ha, hb, hlength⟩ := hright.1
      exact ⟨s, ha, hb.cons y, by rw [hlength, max_eq_right hmn]⟩
    · obtain ⟨s, ha, hb, hlength⟩ := hleft.1
      exact ⟨s, ha.cons x, hb, by rw [hlength, max_eq_left hnm]⟩
  · rintro k ⟨t, ha, hb, rfl⟩
    -- The first character of `t` cannot be both `x` and `y`.
    cases ha with
    | cons _ ha => exact le_max_of_le_left (hleft.2 ⟨t, ha, hb, rfl⟩)
    | cons_cons _ ha =>
      cases hb with
      | cons _ hb => exact le_max_of_le_right (hright.2 ⟨_, ha.cons_cons x, hb, rfl⟩)
      | cons_cons _ hb => exact absurd rfl hne

/-- The row holds the greatest lengths for `a` and each suffix of `b`. -/
def IsRow (a b : List Char) (row : List ℕ) : Prop :=
  List.Forall₂ (fun suffix n => IsGreatest (commonLengths a suffix) n) b.tails row

theorem IsRow.isGreatest_headD {row : List ℕ} (h : IsRow a b row) :
    IsGreatest (commonLengths a b) (row.headD 0) := by
  cases b with
  | nil =>
    cases h with
    | cons hhead _ => exact hhead
  | cons y b =>
    cases h with
    | cons hhead _ => exact hhead

theorem isRow_commonRow (x : Char) {row : List ℕ} (h : IsRow a b row) :
    IsRow (x :: a) b (commonRow x b row) := by
  induction b generalizing row with
  | nil => exact .cons (isGreatest_nil_right _) .nil
  | cons y b ih =>
    cases h with
    | @cons _ n _ below hhead hbelow =>
      have hbelow : IsRow a b below := hbelow
      have hright := ih hbelow
      refine .cons ?_ hright
      split
      · rename_i heq
        subst heq
        exact isGreatest_cons_self hbelow.isGreatest_headD
      · rename_i hne
        exact isGreatest_cons_cons hne hhead hright.isGreatest_headD

theorem isRow_commonRows (a b : List Char) : IsRow a b (commonRows a b) := by
  induction a with
  | nil =>
    induction b with
    | nil => exact .cons (isGreatest_nil_left []) .nil
    | cons y b ih => exact .cons (isGreatest_nil_left _) ih
  | cons x a ih => exact isRow_commonRow x ih

theorem isGreatest_commonLength (a b : List Char) :
    IsGreatest (commonLengths a b) (commonLength a b) :=
  (isRow_commonRows a b).isGreatest_headD

end

namespace Similarity

variable {s t : Similarity}

/-- The share as a fraction. -/
def share (s : Similarity) : ℚ := s.common / s.total

theorem isBelow_iff (hs : 0 < s.total) (ht : 0 < t.total) :
    s.isBelow t = true ↔ s.share < t.share := by
  have hs' : (0 : ℚ) < s.total := by exact_mod_cast hs
  have ht' : (0 : ℚ) < t.total := by exact_mod_cast ht
  rw [isBelow, decide_eq_true_eq, share, share, div_lt_div_iff₀ hs' ht']
  norm_cast

/-- Rounding does not come in where the threshold itself is accepted. -/
theorem reaches_whole_iff {n : ℤ} (hs : 0 < s.total) (hn : Threshold.acceptsEqual n = true) :
    s.reaches (.whole n) = true ↔ (n : ℚ) ≤ 100 * s.share := by
  have hs' : (0 : ℚ) < s.total := by exact_mod_cast hs
  rw [reaches, hn, Bool.and_true, Bool.or_eq_true, decide_eq_true_eq, beq_iff_eq, ← le_iff_lt_or_eq,
    share, mul_div_assoc', le_div_iff₀ hs']
  norm_cast

theorem total_between_pos (a : List Char) {b : List Char} (hb : b ≠ []) :
    0 < (between a b).total := by
  have hlength := List.length_pos_iff.mpr hb
  simp only [between, List.isEmpty_eq_false_iff.mpr hb, Bool.and_false]
  change 0 < a.length + b.length
  omega

theorem share_between (a : List Char) {b : List Char} (hb : b ≠ []) :
    (between a b).share = 2 * commonLength a b / (a.length + b.length) := by
  simp only [between, List.isEmpty_eq_false_iff.mpr hb, Bool.and_false, share]
  push_cast
  rfl

end Similarity
end DateRules.Text
