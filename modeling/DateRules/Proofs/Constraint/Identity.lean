import DateRules.Proofs.Constraint.Reading

/-!
Constraints that are the same. Clauses that differ in the case of letters compile to the same
constraint, and constraints that are the same give the same answer on every date: what they are
compared by tells apart all that matters in the canonical text.
-/
namespace DateRules

open Text (SameLetters)

theorem isCaseless_of_isOperandMark {c : Char} (h : isOperandMark c = true) :
    Text.isCaseless c = true := by
  have hops : ['+', '-', '*', '/', '%'].all Text.isCaseless = true := rfl
  rcases isOperandMark_iff.mp h with hdecimal | hop | hblank
  · exact Text.isCaseless_iff.mpr (.inr (.inr hdecimal))
  · exact List.all_eq_true.mp hops c (List.contains_iff_mem.mp hop)
  · exact Text.isCaseless_iff.mpr (.inr (.inl hblank))

theorem isCaseless_of_isComparisonChar {c : Char} (h : isComparisonChar c = true) :
    Text.isCaseless c = true := by
  have hops : ['<', '>', '=', '!'].all Text.isCaseless = true := rfl
  exact List.all_eq_true.mp hops c (List.contains_iff_mem.mp h)

theorem Operand.isRuleChar_of_parse {t : String} {o : Operand} (h : parse t = .ok o) :
    ∀ c ∈ t.toList, Text.isRuleChar c = true := by
  intro c hc
  rcases isOperandChar_iff.mp (isOperandChar_of_parse h c hc) with hletter | hmark
  · exact Text.isRuleChar_iff.mpr (.inr hletter)
  · exact Text.isRuleChar_iff.mpr (.inl (isCaseless_of_isOperandMark hmark))

theorem Constraint.isRuleChar_of_parse {clause : String} {c : Constraint}
    (h : parse clause = .ok c) : ∀ x ∈ clause.toList, Text.isRuleChar x = true := by
  obtain ⟨left, right, hclause, hleft, hright, -⟩ := parse_eq_ok_iff.mp h
  rw [hclause, String.toList_append, String.toList_append, List.forall_mem_append,
    List.forall_mem_append]
  refine ⟨⟨Operand.isRuleChar_of_parse hleft, fun x hx => ?_⟩, Operand.isRuleChar_of_parse hright⟩
  exact Text.isRuleChar_iff.mpr
    (.inl (isCaseless_of_isComparisonChar (c.op.isComparisonChar_symbol x hx)))

theorem isoChars_of_sameLetters {d : Date} {s : List Char} (h : SameLetters d.isoChars s) :
    s = d.isoChars :=
  h.eq_of_isCaseless fun c hc => isCaseless_of_isOperandMark (isOperandMark_isoChars d c hc)

/-- The left term of an operand may be written in the case of the other text. -/
theorem IsArithmetic.sameLetters {left offset s s' : List Char} {op : Arithmetic}
    (h : IsArithmetic left op offset s) (hoffset : Text.AreDigits offset) (hs : SameLetters s s') :
    ∃ left', SameLetters left left' ∧ IsArithmetic left' op offset s' := by
  obtain ⟨tail, rfl, htail, hother⟩ := h.exists_tail hoffset
  obtain ⟨left', tail', rfl, hleft, hsame⟩ := hs.exists_append
  obtain rfl := hsame.eq_of_isCaseless fun c hc => isCaseless_of_isOperandMark (htail c hc)
  exact ⟨left', hleft, hother left'⟩

theorem OperandForm.IsWritten.sameLetters {f : OperandForm} {s s' : List Char} (h : f.IsWritten s)
    (hs : SameLetters s s') : f.IsWritten s' := by
  cases f with
  | date d =>
    subst h
    exact isoChars_of_sameLetters hs
  | integer n =>
    have hmarks := h.1.isOperandMark
    rwa [hs.eq_of_isCaseless fun c hc => isCaseless_of_isOperandMark (hmarks c hc)]
  | quantity q | weekday w => exact hs.lower_eq.symm.trans h
  | movedDate d op offset =>
    obtain ⟨harithmetic, hoffset, hmoved⟩ := h
    obtain ⟨left', hleft, harithmetic'⟩ := harithmetic.sameLetters hoffset.1 hs
    rw [isoChars_of_sameLetters hleft] at harithmetic'
    exact ⟨harithmetic', hoffset, hmoved⟩
  | movedQuantity q op offset | combined q op offset =>
    obtain ⟨⟨left, hname, harithmetic⟩, hoffset, hoperator⟩ := h
    obtain ⟨left', hleft, harithmetic'⟩ := harithmetic.sameLetters hoffset.1 hs
    exact ⟨⟨left', hleft.lower_eq.symm.trans hname, harithmetic'⟩, hoffset, hoperator⟩

/-- The case of its letters does not change what an operand stands for. -/
theorem Operand.parse_of_sameLetters {t : String} {s : List Char} (hs : SameLetters t.toList s)
    {o : Operand} (h : parse t = .ok o) : ∃ o', parse (String.ofList s) = .ok o' ∧
      o'.expression = o.expression ∧ SameLetters o.text.toList o'.text.toList := by
  obtain ⟨f, hwritten, hmeans, htext⟩ := parse_eq_ok_iff.mp h
  refine ⟨⟨String.ofList (Text.trim s), o.expression⟩, parse_eq_ok_iff.mpr ?_, rfl, ?_⟩
  · rw [String.toList_ofList]
    exact ⟨f, hwritten.sameLetters hs.trim, hmeans, rfl⟩
  · rw [htext, String.toList_ofList, String.toList_ofList]
    exact hs.trim

namespace Constraint

/-- The case of its letters does not change what a clause compiles to, but for the text. -/
theorem parse_of_sameLetters {a b : String} (hab : SameLetters a.toList b.toList) {c : Constraint}
    (h : parse a = .ok c) : ∃ c', parse b = .ok c' ∧ c'.op = c.op ∧
      c'.left.expression = c.left.expression ∧ c'.right.expression = c.right.expression ∧
      SameLetters c.text.toList c'.text.toList := by
  obtain ⟨left, right, rfl, hleft, hright, hcategory, hoperator⟩ := parse_eq_ok_iff.mp h
  rw [String.toList_append, String.toList_append] at hab
  obtain ⟨first, right', hb, hfirst, hsameRight⟩ := hab.exists_append
  obtain ⟨left', symbol, rfl, hsameLeft, hsymbol⟩ := hfirst.exists_append
  obtain rfl := hsymbol.eq_of_isCaseless fun x hx =>
    isCaseless_of_isComparisonChar (c.op.isComparisonChar_symbol x hx)
  obtain ⟨l, hl, hlexpression, hltext⟩ := Operand.parse_of_sameLetters hsameLeft hleft
  obtain ⟨r, hr, hrexpression, hrtext⟩ := Operand.parse_of_sameLetters hsameRight hright
  refine ⟨⟨l, c.op, r⟩, parse_eq_ok_iff.mpr ⟨_, _, ?_, hl, hr, ?_, ?_⟩, rfl, hlexpression,
    hrexpression, ?_⟩
  · rw [← String.toList_inj, hb]
    simp
  · rw [Operand.category, hlexpression, Operand.category, hrexpression]
    exact hcategory
  · rw [Operand.category, hlexpression]
    exact hoperator
  · simp only [text, String.toList_append]
    exact (hltext.append hsymbol).append hrtext

/-- The canonical text compiles to the constraint that it was taken from. -/
theorem parse_text {clause : String} {c : Constraint} (h : parse clause = .ok c) :
    parse c.text = .ok c := by
  obtain ⟨left, right, -, hleft, hright, hcategory, hoperator⟩ := parse_eq_ok_iff.mp h
  exact parse_eq_ok_iff.mpr ⟨c.left.text, c.right.text, rfl, Operand.parse_text hleft,
    Operand.parse_text hright, hcategory, hoperator⟩

theorem beq_iff {c c' : Constraint} :
    (c == c') = true ↔ Text.caseFold c.text.toList = Text.caseFold c'.text.toList := by
  change (c.key == c'.key) = true ↔ _
  rw [beq_iff_eq, key, key, String.ofList_inj]

theorem eval_congr {c c' : Constraint} (hop : c.op = c'.op)
    (hleft : c.left.expression = c'.left.expression)
    (hright : c.right.expression = c'.right.expression) (d : Date) : c.eval d = c'.eval d := by
  simp only [eval, Operand.eval, hop, hleft, hright]

/-- Equal constraints have one outcome: their texts differ in letter case alone. -/
theorem eval_eq_of_beq {clause clause' : String} {c c' : Constraint} (h : parse clause = .ok c)
    (h' : parse clause' = .ok c') (heq : (c == c') = true) (d : Date) : c.eval d = c'.eval d := by
  have htext := parse_text h
  have htext' := parse_text h'
  have hsame := SameLetters.of_caseFold (isRuleChar_of_parse htext) (isRuleChar_of_parse htext')
    (beq_iff.mp heq)
  obtain ⟨c'', hc'', hop, hleft, hright, -⟩ := parse_of_sameLetters hsame htext
  cases htext'.symm.trans hc''
  exact eval_congr hop.symm hleft.symm hright.symm d

/-- Clauses with the same lower case compile both or not at all, and to constraints that are the
same. Constraints that are the same have the same outcome on every date. -/
theorem equal_constraints_differ_in_case_alone :
    (∀ a b : String, Text.lower a.toList = Text.lower b.toList →
      ((∃ c, parse a = .ok c) ↔ ∃ c, parse b = .ok c) ∧
      ∀ c c', parse a = .ok c → parse b = .ok c' → (c == c') = true) ∧
    ∀ (a b : String) (c c' : Constraint), parse a = .ok c → parse b = .ok c' → (c == c') = true →
      ∀ d : Date, c.eval d = c'.eval d := by
  have hcompiles : ∀ (a b : String) (c : Constraint), Text.lower a.toList = Text.lower b.toList →
      parse a = .ok c → ∃ c', parse b = .ok c' ∧ (c == c') = true := by
    intro a b c hab hc
    have hsame := SameLetters.of_lower (isRuleChar_of_parse hc) hab
    obtain ⟨c', hc', -, -, -, htext⟩ := parse_of_sameLetters hsame hc
    exact ⟨c', hc', beq_iff.mpr htext.caseFold_eq⟩
  refine ⟨fun a b hab => ⟨⟨?_, ?_⟩, ?_⟩, ?_⟩
  · rintro ⟨c, hc⟩
    obtain ⟨c', hc', -⟩ := hcompiles a b c hab hc
    exact ⟨c', hc'⟩
  · rintro ⟨c, hc⟩
    obtain ⟨c', hc', -⟩ := hcompiles b a c hab.symm hc
    exact ⟨c', hc'⟩
  · intro c c' hc hc'
    obtain ⟨c'', hc'', heq⟩ := hcompiles a b c hab hc
    cases hc'.symm.trans hc''
    exact heq
  · intro a b c c' hc hc' heq d
    have htext := parse_text hc
    have htext' := parse_text hc'
    have hsame := SameLetters.of_caseFold (isRuleChar_of_parse htext) (isRuleChar_of_parse htext')
      (beq_iff.mp heq)
    obtain ⟨c'', hc'', hop, hleft, hright, -⟩ := parse_of_sameLetters hsame htext
    cases htext'.symm.trans hc''
    exact eval_congr hop.symm hleft.symm hright.symm d

/-- The sign of the kelvin is a capital k, and its lower case is the small letter. -/
example : (match parse "DayOfWee\u212A == Monday", parse "dayofweek==MONDAY" with
    | .ok c, .ok c' => c == c'
    | _, _ => false) = true := by decide +kernel

end Constraint
end DateRules
