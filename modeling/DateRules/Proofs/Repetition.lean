import Mathlib.Data.List.Induction

/-!
Dropping repetitions. What is left of a list are the elements that equal none before them, in their
order. Elements that are equal need not be the same.
-/
namespace DateRules

/-- No element equals an earlier one. -/
def Distinct [BEq α] (as : List α) : Prop := as.Pairwise fun a b => (b == a) = false

/-- `kept` holds of each element of `all` the first that is the same. -/
inductive KeepsFirsts (same : α → α → Prop) : (all kept : List α) → Prop
  | nil : KeepsFirsts same [] []
  | first {all kept : List α} {a : α} (rest : KeepsFirsts same all kept)
      (new : ∀ b ∈ all, ¬same a b) : KeepsFirsts same (all ++ [a]) (kept ++ [a])
  | again {all kept : List α} {a : α} (rest : KeepsFirsts same all kept)
      (old : ∃ b ∈ all, same a b) : KeepsFirsts same (all ++ [a]) kept

section
variable {all kept : List α}

theorem KeepsFirsts.mem_iff (h : KeepsFirsts (· = ·) all kept) {a : α} : a ∈ kept ↔ a ∈ all := by
  induction h with
  | nil => rfl
  | first rest new ih => rw [List.mem_append, List.mem_append, ih]
  | again rest old ih =>
    obtain ⟨b, hb, rfl⟩ := old
    rw [List.mem_append, ih, List.mem_singleton]
    exact ⟨.inl, fun h => h.elim id fun hab => hab ▸ hb⟩

theorem KeepsFirsts.nodup (h : KeepsFirsts (· = ·) all kept) : kept.Nodup := by
  induction h with
  | nil => exact List.nodup_nil
  | first rest new ih =>
    rw [List.nodup_append]
    refine ⟨ih, List.pairwise_singleton _ _, fun b hb c hc => ?_⟩
    obtain rfl := List.mem_singleton.mp hc
    exact fun hsame => new b (rest.mem_iff.mp hb) hsame.symm
  | again rest old ih => exact ih

end

section
variable [BEq α]

/-- Dropping the repetitions of the head comes before the rest. -/
@[elab_as_elim]
theorem eraseDups_induction {motive : List α → Prop} (nil : motive [])
    (cons : ∀ a as, motive (as.filter fun b => !b == a) → motive (a :: as)) (as : List α) :
    motive as := by
  induction hlength : as.length using Nat.strongRecOn generalizing as with
  | ind n ih =>
    cases as with
    | nil => exact nil
    | cons a as =>
      refine cons a as (ih _ ?_ _ rfl)
      rw [← hlength, List.length_cons]
      exact Nat.lt_succ_of_le (List.length_filter_le _ as)

theorem mem_of_mem_eraseDups {a : α} {as : List α} (h : a ∈ as.eraseDups) : a ∈ as := by
  induction as using eraseDups_induction with
  | nil => simp at h
  | cons b as ih =>
    rw [List.eraseDups_cons, List.mem_cons] at h
    rcases h with rfl | htail
    · exact List.mem_cons_self
    · exact List.mem_cons_of_mem _ (List.mem_filter.mp (ih htail)).1

theorem distinct_eraseDups (as : List α) : Distinct as.eraseDups := by
  induction as using eraseDups_induction with
  | nil => exact List.Pairwise.nil
  | cons a as ih =>
    rw [List.eraseDups_cons]
    refine List.Pairwise.cons (fun b hb => ?_) ih
    simpa using (List.mem_filter.mp (mem_of_mem_eraseDups hb)).2

theorem filter_not_beq_of_distinct {a : α} {as : List α} (h : ∀ b ∈ as, (b == a) = false) :
    (as.filter fun c => !c == a) = as := by
  rw [List.filter_eq_self]
  intro b hb
  simp [h b hb]

theorem eraseDups_of_distinct {as : List α} (h : Distinct as) : as.eraseDups = as := by
  induction as with
  | nil => rfl
  | cons a as ih =>
    obtain ⟨hhead, htail⟩ := List.pairwise_cons.mp h
    rw [List.eraseDups_cons, filter_not_beq_of_distinct hhead, ih htail]

/-- What stands distinct at the start of a list stays there when repeated elements are dropped. -/
theorem prefix_eraseDups_append {as : List α} (h : Distinct as) (bs : List α) :
    as <+: (as ++ bs).eraseDups := by
  induction as generalizing bs with
  | nil => exact List.nil_prefix
  | cons a as ih =>
    obtain ⟨hhead, htail⟩ := List.pairwise_cons.mp h
    rw [List.cons_append, List.eraseDups_cons, List.filter_append, filter_not_beq_of_distinct hhead]
    exact List.cons_prefix_cons.mpr ⟨rfl, ih htail _⟩

variable [EquivBEq α]

/-- An element equals none of a list, if it equals neither its head nor one that the head does not
equal. -/
theorem contains_cons_of_filter (a b : α) (as : List α) :
    (b :: as).contains a = (a == b || (as.filter fun c => !c == b).contains a) := by
  cases hab : a == b with
  | true => simp [hab]
  | false =>
    rw [Bool.false_or, List.contains_cons, hab, Bool.false_or, Bool.eq_iff_iff]
    simp only [List.contains_eq_any_beq, List.any_filter, List.any_eq_true, Bool.and_eq_true,
      Bool.not_eq_true']
    refine exists_congr fun c => and_congr_right fun _ => (and_iff_right_of_imp fun hac => ?_).symm
    rw [Bool.eq_false_iff]
    intro hcb
    rw [BEq.trans hac hcb] at hab
    cases hab

theorem eraseDups_concat (as : List α) (a : α) :
    (as ++ [a]).eraseDups = if as.contains a then as.eraseDups else as.eraseDups ++ [a] := by
  induction as using eraseDups_induction with
  | nil => simp [List.eraseDups_cons]
  | cons b as ih =>
    rw [List.cons_append, List.eraseDups_cons, List.filter_append, List.eraseDups_cons,
      contains_cons_of_filter]
    cases hab : a == b with
    | true => simp [hab]
    | false =>
      have hkept : ([a].filter fun c => !c == b) = [a] := by simp [hab]
      rw [hkept, ih, Bool.false_or]
      split <;> rfl

theorem contains_eraseDups (as : List α) (a : α) : as.eraseDups.contains a = as.contains a := by
  induction as using eraseDups_induction with
  | nil => rfl
  | cons b as ih => rw [List.eraseDups_cons, List.contains_cons, ih, contains_cons_of_filter]

theorem eraseDups_eraseDups_append (as bs : List α) :
    (as.eraseDups ++ bs).eraseDups = (as ++ bs).eraseDups := by
  induction bs using List.reverseRecOn with
  | nil =>
    rw [List.append_nil, List.append_nil]
    exact eraseDups_of_distinct (distinct_eraseDups as)
  | append_singleton bs b ih =>
    rw [← List.append_assoc, ← List.append_assoc, eraseDups_concat, eraseDups_concat, ih]
    simp only [List.contains_append, contains_eraseDups]

/-- What equals an earlier element comes to nothing. -/
theorem eraseDups_append_of_contains {as bs : List α} (h : ∀ b ∈ bs, as.contains b = true) :
    (as ++ bs).eraseDups = as.eraseDups := by
  induction bs using List.reverseRecOn with
  | nil => rw [List.append_nil]
  | append_singleton bs b ih =>
    obtain ⟨hbs, hb⟩ := List.forall_mem_append.mp h
    have hcontains : (as ++ bs).contains b = true := by
      rw [List.contains_append, hb b (List.mem_singleton_self b), Bool.true_or]
    rw [← List.append_assoc, eraseDups_concat, if_pos hcontains, ih hbs]

theorem keepsFirsts_eraseDups (as : List α) :
    KeepsFirsts (fun a b => (a == b) = true) as as.eraseDups := by
  -- From the end, where `KeepsFirsts` looks back on all that came before.
  induction as using List.reverseRecOn with
  | nil => exact .nil
  | append_singleton as a ih =>
    rw [eraseDups_concat]
    cases hold : as.contains a with
    | true =>
      obtain ⟨b, hb, hab⟩ := List.any_eq_true.mp (List.contains_eq_any_beq.symm.trans hold)
      exact .again ih ⟨b, hb, hab⟩
    | false =>
      refine .first ih fun b hb hab => ?_
      have hin : as.contains a = true := by
        rw [List.contains_eq_any_beq]
        exact List.any_eq_true.mpr ⟨b, hb, hab⟩
      rw [hold] at hin
      cases hin

end
end DateRules
