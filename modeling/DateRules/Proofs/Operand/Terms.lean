import DateRules.Proofs.Operand.Split
import DateRules.Proofs.Text.Parts

/-!
The terms of an operand. Reading the text from left to right, with a look at the character in front
and at the one behind, cuts it at exactly those of its runs of operator characters that are
operators. A date at the start is set aside before.
-/
namespace DateRules

open Text (IsCutAtRuns IsRun)

def operatorTexts : List (List Char) := ["+", "-", "*", "/", "%", "**"].map String.toList

theorem mem_operatorTexts_iff {run : List Char} :
    run ∈ operatorTexts ↔ ∃ op : Arithmetic, op.symbol.toList = run := by
  have hall : operatorTexts = Arithmetic.all.map fun op => op.symbol.toList := rfl
  rw [hall, List.mem_map]
  exact exists_congr fun op => and_iff_right (by cases op <;> decide)

theorem ne_nil_of_mem_operatorTexts {op : List Char} (h : op ∈ operatorTexts) : op ≠ [] := by
  obtain ⟨op, rfl⟩ := mem_operatorTexts_iff.mp h
  exact op.symbol_ne_nil

theorem isArithmeticChar_of_mem_operatorTexts {op : List Char} (h : op ∈ operatorTexts) :
    ∀ c ∈ op, isArithmeticChar c = true := by
  obtain ⟨op, rfl⟩ := mem_operatorTexts_iff.mp h
  exact op.isArithmeticChar_symbol

theorem mem_operatorTexts_iff_wholeArithmetic? {run : List Char} :
    run ∈ operatorTexts ↔ ∃ op left, wholeArithmetic? run = some (op, left) := by
  simp only [mem_operatorTexts_iff, wholeArithmetic?_eq_some_iff, exists_and_left, exists_eq,
    and_true]

/-- The character in front of an operator is no operator character, nor is the first one behind
it. -/
def StandsAlone (previous : Option Char) (behind : List Char) : Prop :=
  (∀ c ∈ previous, isArithmeticChar c = false) ∧ ∀ c ∈ behind.head?, isArithmeticChar c = false

/-- `cs`, with `previous` in front of it, begins with no operator that stands alone. -/
def NoneStandsAlone (previous : Option Char) (cs : List Char) : Prop :=
  ∀ op ∈ operatorTexts, ∀ behind, cs = op ++ behind → ¬StandsAlone previous behind

/-- The parts found by reading `cs`, with `previous` in front of it, place by place: an operator
that stands alone ends the piece, and any other character goes to it. -/
inductive Scans : (previous : Option Char) → (cs : List Char) → (parts : List (List Char)) → Prop
  | finished {previous : Option Char} : Scans previous [] [[]]
  | operator {previous : Option Char} {cs op behind : List Char} {parts : List (List Char)}
      (hop : op ∈ operatorTexts) (append : cs = op ++ behind) (alone : StandsAlone previous behind)
      (rest : Scans op.getLast? behind parts) : Scans previous cs ([] :: op :: parts)
  | character {previous : Option Char} {c : Char} {cs piece : List Char} {parts : List (List Char)}
      (none : NoneStandsAlone previous (c :: cs)) (rest : Scans (some c) cs (piece :: parts)) :
      Scans previous (c :: cs) ((c :: piece) :: parts)

variable {previous : Option Char} {cs run behind piece : List Char} {parts : List (List Char)}

/-- An operator that stands alone is the whole run that begins there. -/
theorem StandsAlone.eq_run {op rest : List Char} (h : StandsAlone previous rest)
    (hop : op ∈ operatorTexts) (hrun : ∀ c ∈ run, isArithmeticChar c = true)
    (hbehind : ∀ c ∈ behind.head?, isArithmeticChar c = false) (heq : run ++ behind = op ++ rest) :
    op = run ∧ rest = behind := by
  have htake := congrArg (List.takeWhile isArithmeticChar) heq
  rw [Text.takeWhile_append_of_head hrun hbehind,
    Text.takeWhile_append_of_head (isArithmeticChar_of_mem_operatorTexts hop) h.2] at htake
  subst htake
  exact ⟨rfl, (List.append_cancel_left heq).symm⟩

theorem Scans.unique {others : List (List Char)} (h : Scans previous cs parts)
    (hothers : Scans previous cs others) : others = parts := by
  induction h generalizing others with
  | finished =>
    cases hothers with
    | finished => rfl
    | operator hop append =>
      exact absurd (List.append_eq_nil_iff.mp append.symm).1 (ne_nil_of_mem_operatorTexts hop)
  | @operator previous cs op behind parts hop append alone rest ih =>
    cases hothers with
    | finished =>
      exact absurd (List.append_eq_nil_iff.mp append.symm).1 (ne_nil_of_mem_operatorTexts hop)
    | operator hop' append' alone' rest' =>
      obtain ⟨rfl, rfl⟩ := alone'.eq_run hop' (isArithmeticChar_of_mem_operatorTexts hop) alone.2
        (append.symm.trans append')
      rw [ih rest']
    | character none rest' => exact absurd alone (none op hop behind append)
  | character none rest ih =>
    cases hothers with
    | operator hop append alone rest' => exact absurd alone (none _ hop _ append)
    | character none' rest' =>
      cases ih rest'
      rfl

/-- Characters at which no operator stands alone go to the piece. -/
theorem Scans.append (hnone : ∀ before c cs, run = before ++ c :: cs →
      NoneStandsAlone (before.getLast?.or previous) (c :: cs ++ behind))
    (h : Scans (run.getLast?.or previous) behind (piece :: parts)) :
    Scans previous (run ++ behind) ((run ++ piece) :: parts) := by
  induction run generalizing previous with
  | nil => exact h
  | cons c run ih =>
    have hlast : ∀ cs : List Char, (c :: cs).getLast?.or previous = cs.getLast?.or (some c) := by
      intro cs
      rw [List.getLast?_cons, Option.or_some]
      rfl
    refine .character (hnone [] c run rfl) (ih (fun before c' cs hrun => ?_) (hlast run ▸ h))
    rw [← hlast]
    exact hnone (c :: before) c' cs (congrArg (List.cons c) hrun)

theorem noneStandsAlone_of_outside {c : Char} (hc : isArithmeticChar c = false) :
    NoneStandsAlone previous (c :: cs) := by
  intro op hop behind heq _
  obtain ⟨c', op', rfl⟩ := List.exists_cons_of_ne_nil (ne_nil_of_mem_operatorTexts hop)
  obtain ⟨rfl, -⟩ := List.cons.inj heq
  have hin := isArithmeticChar_of_mem_operatorTexts hop c List.mem_cons_self
  rw [hc] at hin
  cases hin

/-- In a run that is no operator none stands alone: not at its start, where the run is too long, and
not further in, where one of its characters is in front. -/
theorem noneStandsAlone_of_not_mem {before : List Char} {c : Char}
    (hrun : ∀ x ∈ before ++ c :: cs, isArithmeticChar x = true)
    (hbehind : ∀ x ∈ behind.head?, isArithmeticChar x = false)
    (hnot : before ++ c :: cs ∉ operatorTexts) :
    NoneStandsAlone (before.getLast?.or previous) (c :: cs ++ behind) := by
  intro op hop rest heq halone
  rcases List.eq_nil_or_concat' before with rfl | ⟨front, last, rfl⟩
  · obtain ⟨rfl, -⟩ := halone.eq_run hop hrun hbehind heq
    exact hnot hop
  · have hlast := halone.1 last (by rw [List.getLast?_concat]; rfl)
    rw [hrun last (by simp)] at hlast
    cases hlast

theorem scans_cutAt (cs : List Char) (previous : Option Char)
    (h : ∀ c ∈ cs.head?, isArithmeticChar c = true → ∀ p ∈ previous, isArithmeticChar p = false) :
    Scans previous cs
      ((Text.cutAt isArithmeticChar wholeArithmetic? cs).parts fun op => op.symbol.toList) := by
  induction cs using Text.runs_induction isArithmeticChar generalizing previous with
  | nil => exact .finished
  | run run behind inside hne hrun hbehind ih =>
    cases hop : wholeArithmetic? run with
    | some found =>
      obtain ⟨op, left⟩ := found
      obtain ⟨rfl, rfl⟩ := wholeArithmetic?_eq_some_iff.mp hop
      obtain ⟨c, more, hc⟩ := List.exists_cons_of_ne_nil op.symbol_ne_nil
      have hin : ∀ c ∈ op.symbol.toList, isArithmeticChar c = true := op.isArithmeticChar_symbol
      obtain rfl : true = inside :=
        (hin c (hc ▸ List.mem_cons_self)).symm.trans (hrun c (hc ▸ List.mem_cons_self))
      rw [Text.cutAt_append_of_operator hne hin hop hbehind]
      refine .operator (mem_operatorTexts_iff.mpr ⟨op, rfl⟩) rfl ⟨?_, hbehind⟩ (ih _ ?_)
      · exact h c (by rw [hc]; rfl) (hin c (hc ▸ List.mem_cons_self))
      · intro c hc hin'
        rw [hbehind c hc] at hin'
        cases hin'
    | none =>
      rw [Text.cutAt_append_of_none hne hrun hbehind hop]
      refine Scans.append (fun before c cs heq => ?_) (ih _ ?_)
      · cases inside with
        | false => exact noneStandsAlone_of_outside (hrun c (heq ▸ by simp))
        | true =>
          subst heq
          refine noneStandsAlone_of_not_mem hrun hbehind fun hmem => ?_
          obtain ⟨op, left, hsome⟩ := mem_operatorTexts_iff_wholeArithmetic?.mp hmem
          rw [hop] at hsome
          cases hsome
      · intro c hc hin p hp
        -- The last character of `run` is in front, and is not of the class of `c`.
        obtain ⟨front, last, rfl⟩ := (List.eq_nil_or_concat' run).resolve_left hne
        rw [List.getLast?_concat] at hp
        cases hp
        rw [hrun p (by simp)]
        have hclass := hbehind c hc
        rw [hin] at hclass
        exact (Bool.not_eq_true' _).mp hclass.symm

theorem scans_iff {cs : List Char} {parts : List (List Char)} : Scans none cs parts ↔
    parts = (Text.cutAt isArithmeticChar wholeArithmetic? cs).parts fun op => op.symbol.toList := by
  have hcut := scans_cutAt cs none fun _ _ _ => nofun
  exact ⟨hcut.unique, fun heq => heq ▸ hcut⟩

/-- `head` is the form of a date that the text begins with and `rest` is what follows, or else
`head` is empty. -/
structure HasHead (cs head rest : List Char) : Prop where
  append : cs = head ++ rest
  head : IsDateForm head ∧ EndsDate rest ∨
    head = [] ∧ ∀ form behind, cs = form ++ behind → IsDateForm form → ¬EndsDate behind

theorem leadingDate_cases (cs : List Char) :
    IsDateForm (leadingDate cs).1 ∧ EndsDate (leadingDate cs).2 ∨ leadingDate cs = ([], cs) := by
  unfold leadingDate
  rw [List.splitAt_eq]
  cases hrest : cs.drop 10 with
  | nil =>
    dsimp only
    split
    · rename_i h
      exact .inl ⟨hasIsoForm_iff.mp (Bool.and_eq_true_iff.mp h).1, nofun⟩
    · exact .inr rfl
  | cons c rest =>
    dsimp only
    split
    · rename_i h
      obtain ⟨hform, hc⟩ := Bool.and_eq_true_iff.mp h
      refine .inl ⟨hasIsoForm_iff.mp hform, ?_⟩
      rintro c ⟨⟩
      exact Bool.or_eq_true_iff.mp hc
    · exact .inr rfl

theorem hasHead_leadingDate (cs : List Char) :
    HasHead cs (leadingDate cs).1 (leadingDate cs).2 := by
  refine ⟨(leadingDate_append cs).symm, (leadingDate_cases cs).imp_right fun hnone => ⟨?_, ?_⟩⟩
  · rw [hnone]
  · rintro form behind rfl hform hends
    rw [leadingDate_of_form hform hends] at hnone
    obtain ⟨rfl, -⟩ := Prod.mk.inj hnone
    cases hform.length_eq

theorem trimmed_of_mem_operatorTexts {op : List Char} (h : op ∈ operatorTexts) :
    Text.Trimmed op where
  head c hc := not_isBlank_of_isArithmeticChar
    (isArithmeticChar_of_mem_operatorTexts h c (List.mem_of_mem_head? hc))
  last c hc := not_isBlank_of_isArithmeticChar
    (isArithmeticChar_of_mem_operatorTexts h c (List.mem_of_mem_getLast? hc))

theorem Arithmetic.trim_symbol (op : Arithmetic) : Text.trim op.symbol.toList = op.symbol.toList :=
  Text.trim_of_trimmed (trimmed_of_mem_operatorTexts (mem_operatorTexts_iff.mpr ⟨op, rfl⟩))

theorem arithmeticTerms_eq (cs : List Char) : arithmeticTerms cs =
    ((cutArithmetic cs).parts fun op => op.symbol.toList).map Text.trim := by
  simp only [arithmeticTerms, Text.Cut.parts, List.map_cons, List.map_flatMap, List.map_nil,
    Arithmetic.trim_symbol]

/-- A piece that is an operator but for blanks around it has one standing alone in it. -/
theorem exists_isRun_of_trim {piece : List Char} (h : Text.trim piece ∈ operatorTexts) :
    ∃ first run last, piece = first ++ (run ++ last) ∧ run ∈ operatorTexts ∧
      IsRun isArithmeticChar first run last := by
  obtain ⟨first, last, hfirst, hlast, heq⟩ := Text.exists_trim piece
  refine ⟨first, _, last, by rw [← List.append_assoc]; exact heq, h, ne_nil_of_mem_operatorTexts h,
    isArithmeticChar_of_mem_operatorTexts h, fun c hc => ?_, fun c hc => ?_⟩
  · exact isArithmeticChar_of_isBlank (hfirst c (List.mem_of_mem_getLast? hc))
  · exact isArithmeticChar_of_isBlank (hlast c (List.mem_of_mem_head? hc))

/-- A date does not become an operator when a piece follows it. -/
theorem trim_form_append_not_mem {head : List Char} (h : IsDateForm head) (piece : List Char) :
    Text.trim (head ++ piece) ∉ operatorTexts := by
  obtain ⟨a, b, c, d, e, f, g, i, rfl, hdigits⟩ := h
  have ha : Text.isDecimal a = true := hdigits a List.mem_cons_self
  intro hmem
  obtain ⟨before, behind, hbefore, -, heq⟩ :=
    Text.exists_trim ([a, b, c, d, '-', e, f, '-', g, i] ++ piece)
  obtain ⟨o, op, hop⟩ := List.exists_cons_of_ne_nil (ne_nil_of_mem_operatorTexts hmem)
  rw [hop] at heq
  cases before with
  | nil =>
    obtain ⟨rfl, -⟩ := List.cons.inj heq
    have hin := isArithmeticChar_of_mem_operatorTexts hmem a (hop ▸ List.mem_cons_self)
    rw [isArithmeticChar_of_isDecimal ha] at hin
    cases hin
  | cons x before =>
    obtain ⟨rfl, -⟩ := List.cons.inj heq
    have hblank := hbefore a List.mem_cons_self
    rw [Text.not_isBlank_of_isDecimal ha] at hblank
    cases hblank

theorem flatten_modifyHead_append {parts : List (List Char)} (h : parts ≠ []) (head : List Char) :
    (parts.modifyHead (head ++ ·)).flatten = head ++ parts.flatten := by
  obtain ⟨first, parts, rfl⟩ := List.exists_cons_of_ne_nil h
  rw [List.modifyHead_cons, List.flatten_cons, List.flatten_cons, List.append_assoc]

/-- The operators among the terms are those at the odd places. -/
theorem mem_operatorTexts_iff_odd {cs head rest term : List Char}
    {parts done left : List (List Char)} (hhead : HasHead cs head rest)
    (hparts : IsCutAtRuns isArithmeticChar (· ∈ operatorTexts) rest parts)
    (h : (parts.modifyHead (head ++ ·)).map Text.trim = done ++ term :: left) :
    term ∈ operatorTexts ↔ Odd done.length := by
  obtain ⟨done, others, hall, rfl, hothers⟩ := List.map_eq_append_iff.mp h
  obtain ⟨part, left, rfl, rfl, rfl⟩ := List.map_eq_cons_iff.mp hothers
  rw [List.length_map]
  cases parts with
  | nil => exact absurd hparts.odd_length (by decide)
  | cons first parts =>
    rw [List.modifyHead_cons] at hall
    cases done with
    | nil =>
      obtain ⟨rfl, rfl⟩ := List.cons.inj hall
      refine iff_of_false (fun hmem => ?_) (by decide)
      rcases hhead.head with ⟨hform, -⟩ | ⟨rfl, -⟩
      · exact trim_form_append_not_mem hform first hmem
      · obtain ⟨front, run, last, rfl, hop, hrun⟩ := exists_isRun_of_trim hmem
        have hfirst : (front ++ (run ++ last)) :: parts =
            [] ++ (front ++ (run ++ last)) :: parts := rfl
        exact hparts.not_isOperator hfirst (by decide) hrun hop
    | cons piece done =>
      obtain ⟨rfl, rfl⟩ := List.cons.inj hall
      have hsplit : first :: (done ++ part :: left) = (first :: done) ++ part :: left := rfl
      change _ ↔ Odd (first :: done).length
      constructor
      · intro hmem
        by_contra heven
        obtain ⟨front, run, last, rfl, hop, hrun⟩ := exists_isRun_of_trim hmem
        exact hparts.not_isOperator hsplit (Nat.not_odd_iff_even.mp heven) hrun hop
      · intro hodd
        have hop := (hparts.isRun hsplit hodd).2
        rwa [Text.trim_of_trimmed (trimmed_of_mem_operatorTexts hop)]

/-- The text is cut behind its leading date at exactly those runs of operator characters that are
operators, which are the operators that are found from left to right as standing alone. The terms
are the parts of that, the date in front of the first, without the blanks around them. -/
theorem terms_are_cut_at_operators_that_stand_alone (cs : List Char) : ∃ head rest parts,
    HasHead cs head rest ∧ (∀ others, Scans none rest others ↔ others = parts) ∧
    IsCutAtRuns isArithmeticChar (· ∈ operatorTexts) rest parts ∧
    arithmeticTerms cs = (parts.modifyHead (head ++ ·)).map Text.trim ∧
    (parts.modifyHead (head ++ ·)).flatten = cs ∧ Odd (arithmeticTerms cs).length ∧
    ∀ done term left, arithmeticTerms cs = done ++ term :: left →
      (term ∈ operatorTexts ↔ Odd done.length) := by
  let rest := (leadingDate cs).2
  let parts := (Text.cutAt isArithmeticChar wholeArithmetic? rest).parts fun op => op.symbol.toList
  have hhead := hasHead_leadingDate cs
  have hparts : IsCutAtRuns isArithmeticChar (· ∈ operatorTexts) rest parts :=
    Text.isCutAtRuns_cutAt (fun h => wholeArithmetic?_eq_some_iff.mp h)
      mem_operatorTexts_iff_wholeArithmetic? Arithmetic.isArithmeticChar_symbol rest
  have hne : parts ≠ [] := List.cons_ne_nil _ _
  have hterms : arithmeticTerms cs =
      (parts.modifyHead ((leadingDate cs).1 ++ ·)).map Text.trim := by
    rw [arithmeticTerms_eq]
    rfl
  refine ⟨(leadingDate cs).1, rest, parts, hhead, fun _ => scans_iff, hparts, hterms, ?_, ?_, ?_⟩
  · rw [flatten_modifyHead_append hne, hparts.flatten_eq]
    exact hhead.append.symm
  · rw [hterms, List.length_map, List.length_modifyHead]
    exact hparts.odd_length
  · intro done term left h
    exact mem_operatorTexts_iff_odd hhead hparts (hterms.symm.trans h)

example : arithmeticTerms "2022-12-19 - 3 +- Day**2".toList =
    ["2022-12-19", "-", "3 +- Day", "**", "2"].map String.toList := by decide

end DateRules
