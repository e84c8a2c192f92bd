import Mathlib.Data.List.SplitBy
import DateRules.Text.Cut

/-!
Where a text is cut. A text of one class in front of a text of the other is a run of its own, so a
cut can be built up from the back; and a cut tells which runs it was made at.
-/
namespace DateRules.Text

variable {inClass : Char → Bool} {operator? : List Char → Option (α × List Char)}

theorem runs_of_uniform {cs : List Char} {v : Bool} (hne : cs ≠ [])
    (h : ∀ c ∈ cs, inClass c = v) : runs inClass cs = [cs] := by
  refine List.splitBy_of_isChain hne (List.Pairwise.isChain ?_)
  exact List.pairwise_of_forall_mem_list fun a ha b hb => by simp [h a ha, h b hb]

theorem runs_append_of_uniform {before behind : List Char} {v : Bool} (hne : before ≠ [])
    (h : ∀ c ∈ before, inClass c = v) (hhead : ∀ c ∈ behind.head?, inClass c = !v) :
    runs inClass (before ++ behind) = before :: runs inClass behind := by
  have hborder : ∀ a ∈ before.getLast?, ∀ b ∈ behind.head?, (inClass a == inClass b) = false := by
    intro a ha b hb
    rw [h a (List.mem_of_mem_getLast? ha), hhead b hb]
    cases v <;> rfl
  change (before ++ behind).splitBy _ = _
  rw [List.splitBy_append hborder]
  exact congrArg (· ++ runs inClass behind) (runs_of_uniform hne h)

theorem runs_flatten_suffix {cs : List Char} {before behind : List (List Char)}
    (h : runs inClass cs = before ++ behind) : runs inClass behind.flatten = behind := by
  obtain ⟨-, hne, hchain, hborders⟩ := List.splitBy_eq_iff.mp h
  refine List.splitBy_eq_iff.mpr ⟨rfl, ?_, fun run hrun => hchain run ?_, ?_⟩
  · exact fun hmem => hne (List.mem_append_right _ hmem)
  · exact List.mem_append_right _ hrun
  · exact (List.isChain_append.mp hborders).2.1

/-- `cutAt`, but the runs are given. -/
def cutRuns (operator? : List Char → Option (α × List Char)) (rs : List (List Char)) : Cut α :=
  rs.foldr
    (fun run cut => match operator? run with
      | some (op, left) => (cut.prepend left).insert op
      | none => cut.prepend run)
    ⟨[], []⟩

theorem cutAt_eq_cutRuns (cs : List Char) :
    cutAt inClass operator? cs = cutRuns operator? (runs inClass cs) := rfl

theorem cutRuns_cons_of_none {run : List Char} (h : operator? run = none)
    (rs : List (List Char)) :
    cutRuns operator? (run :: rs) = (cutRuns operator? rs).prepend run := by
  simp only [cutRuns, List.foldr_cons, h]

theorem cutRuns_cons_of_some {run left : List Char} {op : α} (h : operator? run = some (op, left))
    (rs : List (List Char)) :
    cutRuns operator? (run :: rs) = ((cutRuns operator? rs).prepend left).insert op := by
  simp only [cutRuns, List.foldr_cons, h]

/-- A cut without operators was made at no run. -/
theorem eq_flatten_of_cutRuns {rs : List (List Char)} {first : List Char}
    (h : cutRuns operator? rs = ⟨first, []⟩) :
    first = rs.flatten ∧ ∀ run ∈ rs, operator? run = none := by
  induction rs generalizing first with
  | nil =>
    cases h
    exact ⟨rfl, nofun⟩
  | cons run rs ih =>
    cases hop : operator? run with
    | some found =>
      rw [cutRuns_cons_of_some hop] at h
      cases h
    | none =>
      rw [cutRuns_cons_of_none hop] at h
      obtain ⟨hfirst, hrest⟩ : run ++ (cutRuns operator? rs).first = first ∧
          (cutRuns operator? rs).rest = [] := Cut.mk.inj h
      have hcut : cutRuns operator? rs = ⟨(cutRuns operator? rs).first, []⟩ := by rw [← hrest]
      obtain ⟨hflatten, hnone⟩ := ih hcut
      refine ⟨by rw [← hfirst, hflatten, List.flatten_cons], fun other hother => ?_⟩
      rcases List.mem_cons.mp hother with rfl | htail
      · exact hop
      · exact hnone other htail

/-- The first operator of a cut is that of the first run that has one. -/
theorem exists_run_of_cutRuns {rs : List (List Char)} {first piece : List Char} {op : α}
    {more : List (α × List Char)} (h : cutRuns operator? rs = ⟨first, (op, piece) :: more⟩) :
    ∃ before run left behind, rs = before ++ run :: behind ∧
      (∀ other ∈ before, operator? other = none) ∧ operator? run = some (op, left) ∧
      first = before.flatten ∧ (cutRuns operator? behind).prepend left = ⟨piece, more⟩ := by
  induction rs generalizing first with
  | nil => cases h
  | cons run rs ih =>
    cases hop : operator? run with
    | some found =>
      obtain ⟨op', left⟩ := found
      rw [cutRuns_cons_of_some hop] at h
      cases h
      exact ⟨[], run, left, rs, rfl, nofun, hop, rfl, rfl⟩
    | none =>
      rw [cutRuns_cons_of_none hop] at h
      obtain ⟨hfirst, hrest⟩ : run ++ (cutRuns operator? rs).first = first ∧
          (cutRuns operator? rs).rest = (op, piece) :: more := Cut.mk.inj h
      have hcut : cutRuns operator? rs = ⟨(cutRuns operator? rs).first, (op, piece) :: more⟩ := by
        rw [← hrest]
      obtain ⟨before, run', left, behind, hrs, hnone, hrun, hflatten, hbehind⟩ := ih hcut
      refine ⟨run :: before, run', left, behind, by rw [hrs]; rfl, fun other hother => ?_, hrun,
        by rw [← hfirst, hflatten, List.flatten_cons], hbehind⟩
      rcases List.mem_cons.mp hother with rfl | htail
      · exact hop
      · exact hnone other htail

theorem cutAt_append_of_none {run behind : List Char} {v : Bool} (hne : run ≠ [])
    (hrun : ∀ c ∈ run, inClass c = v) (hbehind : ∀ c ∈ behind.head?, inClass c = !v)
    (h : operator? run = none) :
    cutAt inClass operator? (run ++ behind) = (cutAt inClass operator? behind).prepend run := by
  rw [cutAt_eq_cutRuns, runs_append_of_uniform hne hrun hbehind, cutRuns_cons_of_none h]
  rfl

theorem cutAt_append_of_outside {before behind : List Char}
    (hbefore : ∀ c ∈ before, inClass c = false) (hnone : operator? before = none)
    (hhead : ∀ c ∈ behind.head?, inClass c = true) :
    cutAt inClass operator? (before ++ behind) =
      (cutAt inClass operator? behind).prepend before := by
  by_cases hempty : before = []
  · subst hempty
    rfl
  · exact cutAt_append_of_none hempty hbefore hhead hnone

theorem cutAt_of_outside {cs : List Char} (h : ∀ c ∈ cs, inClass c = false)
    (hnone : operator? cs = none) : cutAt inClass operator? cs = ⟨cs, []⟩ := by
  have hcut : cutAt inClass operator? (cs ++ []) = _ := cutAt_append_of_outside h hnone nofun
  rw [List.append_nil] at hcut
  rw [hcut]
  change (⟨cs ++ [], []⟩ : Cut α) = ⟨cs, []⟩
  rw [List.append_nil]

theorem cutAt_append_of_operator {run left behind : List Char} {op : α} (hne : run ≠ [])
    (hrun : ∀ c ∈ run, inClass c = true) (hop : operator? run = some (op, left))
    (hhead : ∀ c ∈ behind.head?, inClass c = false) :
    cutAt inClass operator? (run ++ behind) =
      ((cutAt inClass operator? behind).prepend left).insert op := by
  rw [cutAt_eq_cutRuns, runs_append_of_uniform hne hrun hhead, cutRuns_cons_of_some hop]
  rfl

/-- A text with one operator in it, and nothing else of the class, is cut there. -/
theorem cutAt_once (hnone : ∀ cs, (∀ c ∈ cs, inClass c = false) → operator? cs = none)
    {before run behind : List Char} {op : α} (hne : run ≠ []) (hrun : ∀ c ∈ run, inClass c = true)
    (hop : operator? run = some (op, [])) (hbefore : ∀ c ∈ before, inClass c = false)
    (hbehind : ∀ c ∈ behind, inClass c = false) :
    cutAt inClass operator? (before ++ (run ++ behind)) = ⟨before, [(op, behind)]⟩ := by
  have hhead : ∀ c ∈ (run ++ behind).head?, inClass c = true := by
    intro c hc
    rw [List.head?_append_of_ne_nil _ hne] at hc
    exact hrun c (List.mem_of_mem_head? hc)
  rw [cutAt_append_of_outside hbefore (hnone before hbefore) hhead,
    cutAt_append_of_operator hne hrun hop (fun c hc => hbehind c (List.mem_of_mem_head? hc)),
    cutAt_of_outside hbehind (hnone behind hbehind)]
  change (⟨before ++ [], [(op, behind)]⟩ : Cut α) = _
  rw [List.append_nil]

/-- A text that is cut once is the first piece, the run of the operator, and a rest that is not cut;
what the operator leaves of its run begins the second piece. -/
theorem exists_run_of_cutAt {cs first piece : List Char} {op : α}
    (h : cutAt inClass operator? cs = ⟨first, [(op, piece)]⟩) :
    ∃ run left behind, operator? run = some (op, left) ∧ cs = first ++ (run ++ behind) ∧
      piece = left ++ behind ∧ cutAt inClass operator? behind = ⟨behind, []⟩ := by
  rw [cutAt_eq_cutRuns] at h
  obtain ⟨before, run, left, behind, hruns, -, hrun, hfirst, hbehind⟩ := exists_run_of_cutRuns h
  obtain ⟨hpiece, hrest⟩ : left ++ (cutRuns operator? behind).first = piece ∧
      (cutRuns operator? behind).rest = [] := Cut.mk.inj hbehind
  have hcut : cutRuns operator? behind = ⟨(cutRuns operator? behind).first, []⟩ := by rw [← hrest]
  have hflatten := (eq_flatten_of_cutRuns hcut).1
  rw [hflatten] at hpiece hcut
  refine ⟨run, left, behind.flatten, hrun, ?_, hpiece.symm, ?_⟩
  · have hwhole : (runs inClass cs).flatten = cs := List.flatten_splitBy _ cs
    rw [← hwhole, hruns, List.flatten_append, List.flatten_cons, hfirst]
  · have hsuffix : runs inClass cs = (before ++ [run]) ++ behind := by simp [hruns]
    rw [cutAt_eq_cutRuns, runs_flatten_suffix hsuffix, hcut]

end DateRules.Text
