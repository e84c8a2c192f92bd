import DateRules.Constraint.Parser
import DateRules.Proofs.Operand.Characters
import DateRules.Proofs.Operand.Meaning

/-!
A clause compiles exactly when it is an operand, an operator and an operand, and it is that in one
way only: no operand holds a character of an operator.
-/
namespace DateRules

theorem isComparisonChar_of_isOperandChar {c : Char} (h : isOperandChar c = true) :
    isComparisonChar c = false := by
  have hnone : ['<', '>', '=', '!'].any isOperandChar = false := by decide +kernel
  rw [Bool.eq_false_iff]
  intro hc
  exact List.any_eq_false.mp hnone c (List.contains_iff_mem.mp hc) h

theorem Operand.isComparisonChar_of_parse {t : String} {o : Operand} (h : parse t = .ok o) :
    ∀ c ∈ t.toList, isComparisonChar c = false :=
  fun c hc => isComparisonChar_of_isOperandChar (isOperandChar_of_parse h c hc)

namespace Comparison

theorem symbol_ne_nil (op : Comparison) : op.symbol.toList ≠ [] := by
  cases op <;> decide

theorem isComparisonChar_symbol (op : Comparison) :
    ∀ c ∈ op.symbol.toList, isComparisonChar c = true := by
  rw [← List.all_eq_true]
  cases op <;> decide

end Comparison

theorem leadingComparison?_symbol (op : Comparison) :
    leadingComparison? op.symbol.toList = some (op, []) := by
  cases op <;> rfl

/-- The run begins with the operator that is found. -/
theorem eq_symbol_append_of_leadingComparison? {run left : List Char} {op : Comparison}
    (h : leadingComparison? run = some (op, left)) : run = op.symbol.toList ++ left := by
  unfold leadingComparison? at h
  obtain ⟨found, hfound, heq⟩ := Option.map_eq_some_iff.mp h
  cases heq
  rw [Comparison.ofSymbol?_eq_some_iff.mp hfound, List.append_assoc,
    List.takeWhile_append_dropWhile, List.take_append_drop]

theorem leadingComparison?_eq_none {run : List Char} (h : ∀ c ∈ run, isComparisonChar c = false) :
    leadingComparison? run = none := by
  rw [Option.eq_none_iff_forall_ne_some]
  rintro ⟨op, left⟩ hrun
  obtain ⟨c, hc⟩ := List.exists_mem_of_ne_nil _ op.symbol_ne_nil
  have hin := op.isComparisonChar_symbol c hc
  rw [h c] at hin
  · cases hin
  · rw [eq_symbol_append_of_leadingComparison? hrun]
    exact List.mem_append_left _ hc

theorem cutComparison_symbol {left right : List Char} (op : Comparison)
    (hleft : ∀ c ∈ left, isComparisonChar c = false)
    (hright : ∀ c ∈ right, isComparisonChar c = false) :
    cutComparison (left ++ (op.symbol.toList ++ right)) = ⟨left, [(op, right)]⟩ :=
  Text.cutAt_once (fun _ => leadingComparison?_eq_none) op.symbol_ne_nil op.isComparisonChar_symbol
    (leadingComparison?_symbol op) hleft hright

theorem eq_append_of_cutComparison {clause left right : List Char} {op : Comparison}
    (h : cutComparison clause = ⟨left, [(op, right)]⟩) :
    clause = left ++ (op.symbol.toList ++ right) := by
  obtain ⟨run, rest, behind, hrun, happend, hright, -⟩ := Text.exists_run_of_cutAt h
  rw [happend, eq_symbol_append_of_leadingComparison? hrun, hright, List.append_assoc]

namespace Operand

@[simp] theorem parse_ofList (cs : List Char) : parse (String.ofList cs) = ofChars cs := by
  rw [parse, String.toList_ofList]

theorem text_of_parse {t : String} {o : Operand} (h : parse t = .ok o) :
    o.text = String.ofList (Text.trim t.toList) := by
  obtain ⟨f, -, -, htext⟩ := parse_eq_ok_iff.mp h
  exact htext

theorem parse_text {t : String} {o : Operand} (h : parse t = .ok o) : parse o.text = .ok o := by
  obtain ⟨f, hwritten, hmeans, htext⟩ := parse_eq_ok_iff.mp h
  rw [parse_eq_ok_iff, htext, String.toList_ofList, Text.trim_trim]
  exact ⟨f, hwritten, hmeans, rfl⟩

/-- The blanks around an operand are trimmed once more. -/
theorem ofChars_trim_eq_ok_iff {cs : List Char} {o : Operand} :
    ofChars (Text.trim cs) = .ok o ↔ ofChars cs = .ok o := by
  rw [← parse_ofList, ← parse_ofList, parse_eq_ok_iff, parse_eq_ok_iff]
  simp

theorem eval_category {t : String} {o : Operand} (h : parse t = .ok o) {d : Date} {v : Value}
    (hv : o.eval d = .ok v) : v.category = o.category := by
  obtain ⟨f, hwritten, hmeans, -⟩ := parse_eq_ok_iff.mp h
  have hvalue := (hwritten.eval_eq_ok_iff hmeans).mp hv
  rw [hvalue.category hwritten]
  exact hmeans.category_eq.symm

end Operand

/-- The clause is `left op right`, both sides are operands, and the operator is defined for their
category. -/
structure IsComparison (clause left : String) (op : Comparison) (right : String) (l r : Operand) :
    Prop where
  clause_eq : clause = left ++ op.symbol ++ right
  left_eq : Operand.parse left = .ok l
  right_eq : Operand.parse right = .ok r
  category_eq : l.category = r.category
  operator : l.category = .weekday → op = .eq ∨ op = .ne

theorem IsComparison.cutComparison {clause left right : String} {op : Comparison} {l r : Operand}
    (h : IsComparison clause left op right l r) :
    cutComparison clause.toList = ⟨left.toList, [(op, right.toList)]⟩ := by
  rw [h.clause_eq, String.toList_append, String.toList_append, List.append_assoc]
  exact cutComparison_symbol op (Operand.isComparisonChar_of_parse h.left_eq)
    (Operand.isComparisonChar_of_parse h.right_eq)

namespace Constraint

theorem ofSides_eq_ok_iff {left right : List Char} {op : Comparison} {c : Constraint} :
    ofSides left op right = .ok c ↔ c.op = op ∧ Operand.ofChars left = .ok c.left ∧
      Operand.ofChars right = .ok c.right ∧ c.left.category = c.right.category ∧
      (c.left.category = .weekday → op = .eq ∨ op = .ne) := by
  unfold ofSides
  simp only [bind_eq_ok_iff, mapError_eq_ok_iff, Operand.ofChars_trim_eq_ok_iff]
  constructor
  · rintro ⟨l, hl, r, hr, h⟩
    split at h
    · cases h
    · rename_i hcategory
      obtain ⟨_, hdefined, hdone⟩ := bind_eq_ok_iff.mp h
      cases hdone
      exact ⟨rfl, hl, hr, not_not.mp hcategory,
        Comparison.checkFor_eq_ok_iff.mp (mapError_eq_ok_iff.mp hdefined)⟩
  · rintro ⟨rfl, hl, hr, hcategory, hdefined⟩
    refine ⟨c.left, hl, c.right, hr, ?_⟩
    rw [if_neg (not_not.mpr hcategory)]
    exact bind_eq_ok_iff.mpr
      ⟨(), mapError_eq_ok_iff.mpr (Comparison.checkFor_eq_ok_iff.mpr hdefined), rfl⟩

theorem parse_eq_ok_iff {clause : String} {c : Constraint} : parse clause = .ok c ↔
    ∃ left right, IsComparison clause left c.op right c.left c.right := by
  rw [parse, mapError_eq_ok_iff, ofChars]
  constructor
  · intro h
    split at h
    · rename_i left op right hcut
      obtain ⟨rfl, hleft, hright, hcategory, hdefined⟩ := ofSides_eq_ok_iff.mp h
      refine ⟨String.ofList left, String.ofList right, ?_, ?_, ?_, hcategory, hdefined⟩
      · rw [← String.toList_inj, eq_append_of_cutComparison hcut]
        simp
      · rwa [Operand.parse_ofList]
      · rwa [Operand.parse_ofList]
    · cases h
  · rintro ⟨left, right, h⟩
    rw [h.cutComparison]
    exact ofSides_eq_ok_iff.mpr ⟨rfl, h.left_eq, h.right_eq, h.category_eq, h.operator⟩

end Constraint

/-- A clause is a comparison in one way only. -/
theorem IsComparison.unique {clause left left' right right' : String} {op op' : Comparison}
    {l l' r r' : Operand} (h : IsComparison clause left op right l r)
    (h' : IsComparison clause left' op' right' l' r') :
    left = left' ∧ op = op' ∧ right = right' ∧ l = l' ∧ r = r' := by
  have hcut := h.cutComparison
  rw [h'.cutComparison, Text.Cut.mk.injEq, List.cons.injEq, Prod.mk.injEq] at hcut
  obtain ⟨hleft, ⟨rfl, hright⟩, -⟩ := hcut
  obtain rfl := String.toList_inj.mp hleft
  obtain rfl := String.toList_inj.mp hright
  exact ⟨rfl, rfl, rfl, Except.ok.inj (h.left_eq.symm.trans h'.left_eq),
    Except.ok.inj (h.right_eq.symm.trans h'.right_eq)⟩

namespace Constraint

section
variable {c : Constraint} {clause : String} (h : parse clause = .ok c) {d : Date}
include h

/-- Both sides have values of one category, which are in an order for which the operator is
defined. -/
theorem exists_order_of_parse {v w : Value} (hv : c.left.eval d = .ok v)
    (hw : c.right.eval d = .ok w) :
    ∃ o, v.order w = .ok o ∧ (c.op.holds o = true ↔ c.op.Relates v w) := by
  obtain ⟨left, right, hreads⟩ := parse_eq_ok_iff.mp h
  have hcategory := Operand.eval_category hreads.left_eq hv
  have hcategory' := Operand.eval_category hreads.right_eq hw
  obtain ⟨o, ho⟩ := Value.exists_order (hcategory.trans (hreads.category_eq.trans hcategory'.symm))
  refine ⟨o, ho, Comparison.holds_iff ho ?_⟩
  rw [hcategory]
  exact hreads.operator

theorem eval_eq_ok_iff {b : Bool} : c.eval d = .ok b ↔
    ∃ v w, c.left.eval d = .ok v ∧ c.right.eval d = .ok w ∧ (b = true ↔ c.op.Relates v w) := by
  simp only [eval, bind_eq_ok_iff, map_eq_ok_iff]
  constructor
  · rintro ⟨v, hv, w, hw, o, ho, rfl⟩
    obtain ⟨o', ho', hholds⟩ := exists_order_of_parse h hv hw
    cases ho.symm.trans ho'
    exact ⟨v, w, hv, hw, hholds⟩
  · rintro ⟨v, w, hv, hw, hb⟩
    obtain ⟨o, ho, hholds⟩ := exists_order_of_parse h hv hw
    exact ⟨v, hv, w, hw, o, ho, Bool.eq_iff_iff.mpr (hb.trans hholds.symm)⟩

theorem eval_eq_error_iff {e : EvalError} : c.eval d = .error e ↔
    c.left.eval d = .error e ∨ ∃ v, c.left.eval d = .ok v ∧ c.right.eval d = .error e := by
  simp only [eval, bind_eq_error_iff, map_eq_error_iff]
  refine or_congr Iff.rfl (exists_congr fun v => and_congr_right fun hv => ?_)
  refine or_iff_left ?_
  rintro ⟨w, hw, horder⟩
  obtain ⟨o, ho, -⟩ := exists_order_of_parse h hv hw
  cases ho.symm.trans horder

end

/-- A clause compiles exactly when it is a comparison of two operands, which it is in one way only.
The canonical text is that without the blanks around the operands. On every date the operands are
evaluated from left to right, and the answer is what the operator says of their values. -/
theorem parse_accepts_exactly_the_comparisons (clause : String) :
    ((∃ c, parse clause = .ok c) ↔ ∃ left op right l r, IsComparison clause left op right l r) ∧
    (∀ left op right l r left' op' right' l' r', IsComparison clause left op right l r →
      IsComparison clause left' op' right' l' r' → left = left' ∧ op = op' ∧ right = right') ∧
    ∀ c left op right l r, parse clause = .ok c → IsComparison clause left op right l r →
      c.text = String.ofList (Text.trim left.toList) ++ op.symbol ++
        String.ofList (Text.trim right.toList) ∧
      ∀ d : Date,
        (∀ b, c.eval d = .ok b ↔ ∃ v w, l.eval d = .ok v ∧ r.eval d = .ok w ∧
          (b = true ↔ op.Relates v w)) ∧
        ∀ e, c.eval d = .error e ↔ l.eval d = .error e ∨
          ∃ v, l.eval d = .ok v ∧ r.eval d = .error e := by
  refine ⟨⟨?_, ?_⟩, ?_, ?_⟩
  · rintro ⟨c, hc⟩
    obtain ⟨left, right, h⟩ := parse_eq_ok_iff.mp hc
    exact ⟨_, _, _, _, _, h⟩
  · rintro ⟨left, op, right, l, r, h⟩
    exact ⟨⟨l, op, r⟩, parse_eq_ok_iff.mpr ⟨left, right, h⟩⟩
  · intro left op right l r left' op' right' l' r' h h'
    obtain ⟨hleft, hop, hright, -⟩ := h.unique h'
    exact ⟨hleft, hop, hright⟩
  · intro c left op right l r hc h
    obtain ⟨left', right', h'⟩ := parse_eq_ok_iff.mp hc
    obtain ⟨rfl, rfl, rfl, rfl, rfl⟩ := h.unique h'
    refine ⟨?_, fun d => ⟨fun b => eval_eq_ok_iff hc, fun e => eval_eq_error_iff hc⟩⟩
    rw [text, Operand.text_of_parse h.left_eq, Operand.text_of_parse h.right_eq]

/-- A run of operator characters is cut at its start only, and `!= 3` is no operand. -/
example : (parse "day <!= 3").isOk = false := by decide +kernel

end Constraint
end DateRules
