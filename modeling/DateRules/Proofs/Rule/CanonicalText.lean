import DateRules.Proofs.Constraint.Identity
import DateRules.Proofs.Rule.Identity
import DateRules.Proofs.Soundness

/-!
The text of a compiled rule. Its clauses are the texts of the constraints, which hold no semicolon
and have no blank at their ends, and each of these is read as the constraint that it was taken from.
So the text compiles to the rule itself, and what a constraint is compared by compiles to an equal
constraint.
-/
namespace DateRules

namespace Constraint

variable {clause : String} {c : Constraint}

theorem not_mem_semicolon_of_parse (h : parse clause = .ok c) : ';' ∉ clause.toList := by
  obtain ⟨left, right, hclause, hleft, hright, -⟩ := parse_eq_ok_iff.mp h
  have hno : isOperandChar ';' = false := by decide +kernel
  rw [hclause, String.toList_append, String.toList_append, List.mem_append, List.mem_append]
  rintro ((hin | hin) | hin)
  · exact Bool.eq_false_iff.mp hno (Operand.isOperandChar_of_parse hleft _ hin)
  · exact absurd (c.op.isComparisonChar_symbol _ hin) (by decide)
  · exact Bool.eq_false_iff.mp hno (Operand.isOperandChar_of_parse hright _ hin)

theorem toList_text (c : Constraint) :
    c.text.toList = c.left.text.toList ++ c.op.symbol.toList ++ c.right.text.toList := by
  rw [text, String.toList_append, String.toList_append]

theorem text_ne_nil (c : Constraint) : c.text.toList ≠ [] := by
  rw [toList_text]
  intro hnil
  simp only [List.append_eq_nil_iff] at hnil
  exact c.op.symbol_ne_nil hnil.1.2

theorem not_isBlank_of_isComparisonChar {x : Char} (h : isComparisonChar x = true) :
    Text.isBlank x = false := by
  have hops : (['<', '>', '=', '!'].all fun x => !Text.isBlank x) = true := rfl
  simpa using List.all_eq_true.mp hops x (List.contains_iff_mem.mp h)

theorem trimmed_text (h : parse clause = .ok c) : Text.Trimmed c.text.toList := by
  obtain ⟨left, right, -, hleft, hright, -⟩ := parse_eq_ok_iff.mp h
  have hsymbol : ∀ x ∈ c.op.symbol.toList, Text.isBlank x = false := fun x hx =>
    not_isBlank_of_isComparisonChar (c.op.isComparisonChar_symbol x hx)
  rw [toList_text, Operand.text_of_parse hleft, Operand.text_of_parse hright, String.toList_ofList,
    String.toList_ofList]
  exact (Text.trimmed_trim _).around (Text.trimmed_trim _) c.op.symbol_ne_nil hsymbol

/-- What a constraint is compared by is its text in another case. -/
theorem parse_key (h : parse clause = .ok c) : ∃ c', parse c.key = .ok c' ∧ (c' == c) = true ∧
    ∀ d : Date, c'.eval d = c.eval d := by
  have htext := parse_text h
  have hsame : Text.SameLetters c.text.toList c.key.toList := by
    rw [key, String.toList_ofList]
    exact .caseFold_self (isRuleChar_of_parse htext)
  obtain ⟨c', hc', hop, hleft, hright, hletters⟩ := parse_of_sameLetters hsame htext
  exact ⟨c', hc', beq_iff.mpr hletters.caseFold_eq.symm, eval_congr hop hleft hright⟩

end Constraint

/-- Texts that are clauses as they stand are read back from between semicolons. -/
theorem clauses_intercalate {texts : List String}
    (h : ∀ t ∈ texts, t.toList ≠ [] ∧ Text.Trimmed t.toList ∧ ';' ∉ t.toList) :
    clauses (";".intercalate texts) = texts := by
  cases texts with
  | nil => rfl
  | cons t ts =>
    have hsplit : (";".intercalate (t :: ts)).toList.splitOn ';' = (t :: ts).map String.toList := by
      rw [String.toList_intercalate]
      exact List.splitOn_intercalate ';' (List.forall_mem_map.mpr fun t ht => (h t ht).2.2)
        (by simp)
    have htrim : ((t :: ts).map String.toList).map Text.trim = (t :: ts).map String.toList := by
      rw [List.map_map]
      exact List.map_congr_left fun t ht => Text.trim_of_trimmed (h t ht).2.1
    have hfull : ((t :: ts).map String.toList).filter (!·.isEmpty) =
        (t :: ts).map String.toList := by
      rw [List.filter_eq_self]
      refine List.forall_mem_map.mpr fun t ht => ?_
      simpa using (h t ht).1
    rw [clauses, hsplit, htrim, hfull, List.map_map]
    simp [Function.comp_def]

namespace Rule

variable {text name : String} {negate : Bool} {r : Rule}

theorem distinct_of_parse (h : Rule.parse text negate name = .ok r) : Distinct r.constraints := by
  obtain ⟨constraints, -, hr⟩ := bind_eq_ok_iff.mp h
  cases hr
  exact distinct_eraseDups constraints

theorem clauses_text (h : r.IsCompiled) : clauses r.text = r.constraints.map Constraint.text := by
  refine clauses_intercalate (List.forall_mem_map.mpr fun c hc => ?_)
  obtain ⟨clause, hclause⟩ := h c hc
  exact ⟨c.text_ne_nil, Constraint.trimmed_text hclause,
    Constraint.not_mem_semicolon_of_parse (Constraint.parse_text hclause)⟩

theorem parse_text (hcompiled : r.IsCompiled) (hdistinct : Distinct r.constraints) :
    Rule.parse r.text r.negate r.name = .ok r := by
  have hall : Constraint.parseAll r.text = .ok r.constraints := by
    rw [Constraint.parseAll, clauses_text hcompiled]
    refine mapM_map_eq_ok fun c hc => ?_
    obtain ⟨clause, hclause⟩ := hcompiled c hc
    exact Constraint.parse_text hclause
  rw [Rule.parse, hall]
  change Except.ok (ofConstraints r.constraints r.negate r.name) = _
  rw [ofConstraints, eraseDups_of_distinct hdistinct]

/-- The text of a rule compiles to that very rule, with the same texts in the same order and the
same outcome on every date. The text of a constraint compiles to that very constraint, and what
constraints are compared by to one that is equal and has the same outcome. -/
theorem text_compiles_to_the_rule (h : Rule.parse text negate name = .ok r) :
    Rule.parse r.text r.negate r.name = .ok r ∧ (r == r) = true ∧
    ∀ c ∈ r.constraints, Constraint.parse c.text = .ok c ∧
      ∃ c', Constraint.parse c.key = .ok c' ∧ (c' == c) = true ∧
        ∀ d : Date, c'.eval d = c.eval d := by
  have hcompiled := isCompiled_of_parse h
  refine ⟨parse_text hcompiled (distinct_of_parse h), BEq.refl r, fun c hc => ?_⟩
  obtain ⟨clause, hclause⟩ := hcompiled c hc
  exact ⟨Constraint.parse_text hclause, Constraint.parse_key hclause⟩

/-- A sign right behind the operator, an Arabic digit, a clause that is repeated in another case,
and the sign of the kelvin in a name. -/
theorem text_of_an_even_day_that_is_no_friday :
    ∃ r, Rule.parse " Day % 2 <= +\u0660 ;; DAY % 2<=+\u0660; DayOfWee\u212A != Friday"
        true "even" = .ok r ∧
      r.constraints.length = 2 ∧ Rule.parse r.text r.negate r.name = .ok r ∧ (r == r) = true ∧
      ∀ c ∈ r.constraints, Constraint.parse c.text = .ok c ∧
        ∃ c', Constraint.parse c.key = .ok c' ∧ (c' == c) = true ∧
          ∀ d : Date, c'.eval d = c.eval d := by
  obtain ⟨r, hr, hlength⟩ :
      ∃ r, Rule.parse " Day % 2 <= +\u0660 ;; DAY % 2<=+\u0660; DayOfWee\u212A != Friday"
          true "even" = .ok r ∧ (r.constraints.length == 2) = true :=
    exists_ok_of_any (by decide +kernel)
  exact ⟨r, hr, eq_of_beq hlength, text_compiles_to_the_rule hr⟩

end Rule
end DateRules
