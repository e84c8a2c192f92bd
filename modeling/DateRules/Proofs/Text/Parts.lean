import Mathlib.Algebra.Ring.Parity
import DateRules.Proofs.Text.Cut

/-!
The parts of a cut text, pieces and operators in turn. Where an operator has to be a whole run, the
operators are exactly the runs that are one, and every other run lies within a piece.
-/
namespace DateRules.Text

/-- A run of characters of the class, as long as it can be with `before` and `behind` around it. -/
structure IsRun (inClass : Char → Bool) (before run behind : List Char) : Prop where
  ne_nil : run ≠ []
  inside : ∀ c ∈ run, inClass c = true
  left : ∀ c ∈ before.getLast?, inClass c = false
  right : ∀ c ∈ behind.head?, inClass c = false

/-- The parts of a text that is cut at exactly those of its runs that are operators. They are at the
odd places; any other run is within a piece, at an even place. -/
structure IsCutAtRuns (inClass : Char → Bool) (isOperator : List Char → Prop) (cs : List Char)
    (parts : List (List Char)) : Prop where
  flatten_eq : parts.flatten = cs
  odd_length : Odd parts.length
  isRun : ∀ {done part left}, parts = done ++ part :: left → Odd done.length →
    IsRun inClass done.flatten part left.flatten ∧ isOperator part
  cut : ∀ {before run behind}, cs = before ++ (run ++ behind) → IsRun inClass before run behind →
    isOperator run → ∃ done left, parts = done ++ run :: left ∧ Odd done.length ∧
      before = done.flatten ∧ behind = left.flatten
  uncut : ∀ {before run behind}, cs = before ++ (run ++ behind) → IsRun inClass before run behind →
    ¬isOperator run → ∃ done first last left, parts = done ++ (first ++ (run ++ last)) :: left ∧
      Even done.length ∧ before = done.flatten ++ first ∧ behind = last ++ left.flatten

variable {inClass : Char → Bool}

theorem exists_first_run (inClass : Char → Bool) (c : Char) (cs : List Char) : ∃ run behind,
    c :: cs = run ++ behind ∧ run ≠ [] ∧ (∀ b ∈ run, inClass b = inClass c) ∧
      ∀ b ∈ behind.head?, inClass b = !inClass c := by
  let same : Char → Bool := fun b => inClass b == inClass c
  have hsame : same c = true := beq_self_eq_true (inClass c)
  refine ⟨(c :: cs).takeWhile same, (c :: cs).dropWhile same,
    List.takeWhile_append_dropWhile.symm, ?_, fun b hb => ?_, fun b hb => ?_⟩
  · rw [List.takeWhile_cons_of_pos hsame]
    exact List.cons_ne_nil _ _
  · exact beq_iff_eq.mp (List.all_eq_true.mp List.all_takeWhile b hb)
  · have hnot := List.head?_dropWhile_not same (c :: cs)
    rw [Option.mem_def.mp hb] at hnot
    exact Bool.eq_not_of_ne (beq_eq_false_iff_ne.mp hnot)

/-- A text is built up run by run, from the back. -/
@[elab_as_elim]
theorem runs_induction (inClass : Char → Bool) {motive : List Char → Prop} (nil : motive [])
    (run : ∀ (run behind : List Char) (v : Bool), run ≠ [] → (∀ c ∈ run, inClass c = v) →
      (∀ c ∈ behind.head?, inClass c = !v) → motive behind → motive (run ++ behind))
    (cs : List Char) : motive cs := by
  induction hlength : cs.length using Nat.strongRecOn generalizing cs with
  | ind n ih =>
    cases cs with
    | nil => exact nil
    | cons c cs =>
      obtain ⟨first, behind, heq, hne, hfirst, hbehind⟩ := exists_first_run inClass c cs
      rw [heq, List.length_append] at hlength
      rw [heq]
      have hshorter : behind.length < n := by
        have := List.length_pos_of_ne_nil hne
        omega
      exact run first behind (inClass c) hne hfirst hbehind (ih _ hshorter behind rfl)

theorem IsRun.runs_eq {before run behind : List Char} (h : IsRun inClass before run behind) :
    runs inClass (before ++ (run ++ behind)) =
      runs inClass before ++ run :: runs inClass behind := by
  have hborder : ∀ a ∈ before.getLast?, ∀ b ∈ (run ++ behind).head?,
      (inClass a == inClass b) = false := by
    intro a ha b hb
    rw [List.head?_append_of_ne_nil _ h.ne_nil] at hb
    rw [h.left a ha, h.inside b (List.mem_of_mem_head? hb)]
    rfl
  rw [← runs_append_of_uniform h.ne_nil h.inside h.right]
  exact List.splitBy_append hborder

theorem isRun_of_runs {cs run : List Char} {before behind : List (List Char)}
    (h : runs inClass cs = before ++ run :: behind) (hrun : ∀ c ∈ run, inClass c = true) :
    IsRun inClass before.flatten run behind.flatten := by
  obtain ⟨-, hnil, -, hborders⟩ := List.splitBy_eq_iff.mp h
  obtain ⟨-, hbehind, hbefore⟩ := List.isChain_append.mp hborders
  have hne : ∀ other ∈ before ++ run :: behind, other ≠ [] := fun other hother heq =>
    hnil (heq ▸ hother)
  refine ⟨hne run (by simp), hrun, fun c hc => ?_, fun c hc => ?_⟩
  · rcases List.eq_nil_or_concat' before with rfl | ⟨front, last, rfl⟩
    · cases hc
    · obtain ⟨hlast, hhead, hborder⟩ := hbefore last (by simp) run rfl
      rw [List.flatten_concat, List.getLast?_append_of_ne_nil _ hlast,
        List.getLast?_eq_some_getLast hlast] at hc
      cases hc
      simpa [hrun _ (List.head_mem hhead)] using hborder
  · cases behind with
    | nil => cases hc
    | cons next behind =>
      obtain ⟨hlast, hnext, hborder⟩ := (List.isChain_cons_cons.mp hbehind).1
      rw [List.flatten_cons, List.head?_append_of_ne_nil _ hnext,
        List.head?_eq_some_head hnext] at hc
      cases hc
      simpa [hrun _ (List.getLast_mem hlast)] using hborder

def Cut.parts (symbol : α → List Char) (cut : Cut α) : List (List Char) :=
  cut.first :: cut.rest.flatMap fun (op, piece) => [symbol op, piece]

theorem exists_cons_of_odd {parts : List (List Char)} (h : Odd parts.length) :
    ∃ part more, parts = part :: more := by
  cases parts with
  | nil => exact absurd h (by decide)
  | cons part more => exact ⟨part, more, rfl⟩

section
variable {operator? : List Char → Option (α × List Char)} {symbol : α → List Char}

theorem Cut.parts_prepend (cut : Cut α) (cs : List Char) :
    (cut.prepend cs).parts symbol = (cut.parts symbol).modifyHead (cs ++ ·) := rfl

theorem Cut.odd_length_parts (cut : Cut α) : Odd (cut.parts symbol).length := by
  refine ⟨cut.rest.length, ?_⟩
  rw [Cut.parts, List.length_cons, List.length_flatMap]
  simp [Nat.mul_comm]

variable (hwhole : ∀ {run op left}, operator? run = some (op, left) → symbol op = run ∧ left = [])
include hwhole

theorem parts_cutRuns_cons_of_some {run left : List Char} {op : α}
    (h : operator? run = some (op, left)) (rs : List (List Char)) :
    (cutRuns operator? (run :: rs)).parts symbol =
      [] :: run :: (cutRuns operator? rs).parts symbol := by
  obtain ⟨rfl, rfl⟩ := hwhole h
  rw [cutRuns_cons_of_some h]
  rfl

theorem flatten_parts_cutRuns (rs : List (List Char)) :
    ((cutRuns operator? rs).parts symbol).flatten = rs.flatten := by
  induction rs with
  | nil => rfl
  | cons run rs ih =>
    cases hop : operator? run with
    | none =>
      rw [cutRuns_cons_of_none hop, Cut.parts_prepend, List.flatten_cons, ← ih, Cut.parts]
      simp
    | some found => simp [parts_cutRuns_cons_of_some hwhole hop, ih]

theorem flatten_parts_cutAt (cs : List Char) :
    ((cutAt inClass operator? cs).parts symbol).flatten = cs := by
  rw [cutAt_eq_cutRuns, flatten_parts_cutRuns hwhole]
  exact List.flatten_splitBy _ cs

/-- What is cut at an operator falls into what is cut in front of it and behind it. -/
theorem parts_cutRuns_append_of_some {run left : List Char} {op : α}
    (h : operator? run = some (op, left)) (before behind : List (List Char)) :
    (cutRuns operator? (before ++ run :: behind)).parts symbol =
      (cutRuns operator? before).parts symbol ++
        run :: (cutRuns operator? behind).parts symbol := by
  induction before with
  | nil => exact parts_cutRuns_cons_of_some hwhole h behind
  | cons other before ih =>
    rw [List.cons_append]
    cases hop : operator? other with
    | none =>
      rw [cutRuns_cons_of_none hop, cutRuns_cons_of_none hop, Cut.parts_prepend, ih]
      rfl
    | some found =>
      rw [parts_cutRuns_cons_of_some hwhole hop, parts_cutRuns_cons_of_some hwhole hop, ih]
      rfl

/-- A run that is no operator joins the pieces around it. -/
theorem parts_cutRuns_append_of_none {run : List Char} (h : operator? run = none)
    (before behind : List (List Char)) : ∃ done first last left,
      (cutRuns operator? before).parts symbol = done ++ [first] ∧
      (cutRuns operator? behind).parts symbol = last :: left ∧
      (cutRuns operator? (before ++ run :: behind)).parts symbol =
        done ++ (first ++ (run ++ last)) :: left := by
  induction before with
  | nil =>
    refine ⟨[], [], (cutRuns operator? behind).first, _, rfl, rfl, ?_⟩
    rw [List.nil_append, cutRuns_cons_of_none h]
    rfl
  | cons other before ih =>
    obtain ⟨done, first, last, left, hbefore, hbehind, hall⟩ := ih
    rw [List.cons_append]
    cases hop : operator? other with
    | none =>
      rw [cutRuns_cons_of_none hop, cutRuns_cons_of_none hop, Cut.parts_prepend, Cut.parts_prepend,
        hbefore, hall]
      cases done with
      | nil => exact ⟨[], other ++ first, last, left, rfl, hbehind, by simp⟩
      | cons piece done => exact ⟨(other ++ piece) :: done, first, last, left, rfl, hbehind, rfl⟩
    | some found =>
      rw [parts_cutRuns_cons_of_some hwhole hop, parts_cutRuns_cons_of_some hwhole hop, hbefore,
        hall]
      exact ⟨[] :: other :: done, first, last, left, rfl, hbehind, rfl⟩

/-- What is at an odd place is a run with an operator. -/
theorem exists_run_of_odd {rs done left : List (List Char)} {part : List Char}
    (h : (cutRuns operator? rs).parts symbol = done ++ part :: left) (hodd : Odd done.length) :
    ∃ before behind op, rs = before ++ part :: behind ∧ operator? part = some (op, []) ∧
      done = (cutRuns operator? before).parts symbol ∧
      left = (cutRuns operator? behind).parts symbol := by
  induction rs generalizing done with
  | nil =>
    obtain ⟨piece, done, rfl⟩ := exists_cons_of_odd hodd
    simp [cutRuns, Cut.parts] at h
  | cons run rs ih =>
    obtain ⟨piece, done, rfl⟩ := exists_cons_of_odd hodd
    cases hop : operator? run with
    | none =>
      rw [cutRuns_cons_of_none hop] at h
      obtain ⟨rfl, htail⟩ := List.cons.inj h
      have hrest := congrArg (List.cons (cutRuns operator? rs).first) htail
      obtain ⟨before, behind, op, rfl, hpart, hdone, hleft⟩ :=
        @ih ((cutRuns operator? rs).first :: done) hrest hodd
      refine ⟨run :: before, behind, op, rfl, hpart, ?_, hleft⟩
      rw [cutRuns_cons_of_none hop, Cut.parts_prepend, ← hdone]
      rfl
    | some found =>
      obtain ⟨op, rest⟩ := found
      obtain ⟨-, rfl⟩ := hwhole hop
      rw [parts_cutRuns_cons_of_some hwhole hop] at h
      obtain ⟨rfl, htail⟩ := List.cons.inj h
      cases done with
      | nil =>
        obtain ⟨rfl, rfl⟩ := List.cons.inj htail
        exact ⟨[], rs, op, rfl, hop, rfl, rfl⟩
      | cons other done =>
        obtain ⟨rfl, hrest⟩ := List.cons.inj htail
        have hdone : Odd done.length := by simpa [Nat.odd_add_one] using hodd
        obtain ⟨before, behind, op', rfl, hpart, rfl, hleft⟩ := ih hrest hdone
        refine ⟨run :: before, behind, op', rfl, hpart, ?_, hleft⟩
        rw [parts_cutRuns_cons_of_some hwhole hop]

theorem isCutAtRuns_cutAt {isOperator : List Char → Prop}
    (hoperator : ∀ {run}, isOperator run ↔ ∃ op left, operator? run = some (op, left))
    (hin : ∀ op, ∀ c ∈ symbol op, inClass c = true) (cs : List Char) :
    IsCutAtRuns inClass isOperator cs ((cutAt inClass operator? cs).parts symbol) where
  flatten_eq := flatten_parts_cutAt hwhole cs
  odd_length := Cut.odd_length_parts _
  isRun h hodd := by
    obtain ⟨before, behind, op, hruns, hpart, rfl, rfl⟩ := exists_run_of_odd hwhole h hodd
    obtain ⟨rfl, -⟩ := hwhole hpart
    rw [flatten_parts_cutRuns hwhole, flatten_parts_cutRuns hwhole]
    exact ⟨isRun_of_runs hruns (hin op), hoperator.mpr ⟨op, [], hpart⟩⟩
  cut := by
    rintro before run behind rfl hrun hop
    obtain ⟨op, left, hop⟩ := hoperator.mp hop
    rw [cutAt_eq_cutRuns, hrun.runs_eq, parts_cutRuns_append_of_some hwhole hop]
    exact ⟨_, _, rfl, Cut.odd_length_parts _, (flatten_parts_cutAt hwhole before).symm,
      (flatten_parts_cutAt hwhole behind).symm⟩
  uncut := by
    rintro before run behind rfl hrun hop
    have hnone : operator? run = none := Option.eq_none_iff_forall_ne_some.mpr fun found hfound =>
      hop (hoperator.mpr ⟨found.1, found.2, hfound⟩)
    obtain ⟨done, first, last, left, hbefore, hbehind, hall⟩ :=
      parts_cutRuns_append_of_none hwhole hnone (runs inClass before) (runs inClass behind)
    refine ⟨done, first, last, left, ?_, ?_, ?_, ?_⟩
    · rw [cutAt_eq_cutRuns, hrun.runs_eq, hall]
    · have hodd : Odd ((cutRuns operator? (runs inClass before)).parts symbol).length :=
        Cut.odd_length_parts _
      rw [hbefore, List.length_append, List.length_singleton, Nat.odd_add_one] at hodd
      exact Nat.not_odd_iff_even.mp hodd
    · rw [← List.flatten_concat, ← hbefore]
      exact (flatten_parts_cutAt hwhole before).symm
    · rw [← List.flatten_cons, ← hbehind]
      exact (flatten_parts_cutAt hwhole behind).symm

end

section
variable {isOperator : List Char → Prop} {cs first run last : List Char}
  {parts done left : List (List Char)} (h : IsCutAtRuns inClass isOperator cs parts)
  (hparts : parts = done ++ (first ++ (run ++ last)) :: left) (heven : Even done.length)
  (hrun : IsRun inClass first run last)
include h hparts heven hrun

/-- What stands alone in a piece stands alone in the text, since the piece lies between
operators. -/
theorem IsCutAtRuns.isRun_of_even :
    IsRun inClass (done.flatten ++ first) run (last ++ left.flatten) := by
  refine ⟨hrun.ne_nil, hrun.inside, fun c hc => ?_, fun c hc => ?_⟩
  · rcases List.eq_nil_or_concat' first with rfl | ⟨front, b, rfl⟩
    · rcases List.eq_nil_or_concat' done with rfl | ⟨before, op, rfl⟩
      · cases hc
      · rw [List.append_assoc] at hparts
        rw [List.length_append, List.length_singleton, Nat.even_add_one] at heven
        -- The part in front is an operator, and `run` would go on where it ends.
        have hop := (h.isRun hparts (Nat.not_even_iff_odd.mp heven)).1
        obtain ⟨b, run, rfl⟩ := List.exists_cons_of_ne_nil hrun.ne_nil
        have hb := hop.right b rfl
        rw [hrun.inside b List.mem_cons_self] at hb
        cases hb
    · rw [← List.append_assoc, List.getLast?_concat] at hc
      exact hrun.left c (by rwa [List.getLast?_concat])
  · cases last with
    | cons b last => exact hrun.right c hc
    | nil =>
      cases left with
      | nil => cases hc
      | cons op left =>
        have hbehind : parts = (done ++ [first ++ (run ++ [])]) ++ op :: left := by
          rw [hparts, List.append_assoc]
          rfl
        have hodd : Odd (done ++ [first ++ (run ++ [])]).length := by
          rw [List.length_append, List.length_singleton]
          exact heven.add_one
        have hop := (h.isRun hbehind hodd).1
        obtain ⟨front, b, rfl⟩ := (List.eq_nil_or_concat' run).resolve_left hrun.ne_nil
        have hb := hop.left b (by simp)
        rw [hrun.inside b (by simp)] at hb
        cases hb

/-- No operator stands alone in a piece. -/
theorem IsCutAtRuns.not_isOperator : ¬isOperator run := by
  intro hop
  have hcs : cs = (done.flatten ++ first) ++ (run ++ (last ++ left.flatten)) := by
    rw [← h.flatten_eq, hparts]
    simp
  obtain ⟨before, behind, hcut, hodd, hbefore, -⟩ :=
    h.cut hcs (h.isRun_of_even hparts heven hrun) hop
  have hparity : done ≠ before := fun heq => Nat.not_even_iff_odd.mpr hodd (heq ▸ heven)
  -- As a part, `run` would begin within the piece, behind `done`, where no part begins.
  rcases List.append_eq_append_iff.mp (hparts.symm.trans hcut) with
    ⟨more, rfl, htail⟩ | ⟨more, rfl, htail⟩
  · cases more with
    | nil => exact hparity (List.append_nil done).symm
    | cons part more =>
      obtain ⟨rfl, -⟩ := List.cons.inj htail
      simp [hrun.ne_nil] at hbefore
  · cases more with
    | nil => exact hparity (List.append_nil before)
    | cons part more =>
      obtain ⟨rfl, -⟩ := List.cons.inj htail
      simp [hrun.ne_nil] at hbefore

end

end DateRules.Text
