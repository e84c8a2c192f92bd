import DateRules.Proofs.Rule.CanonicalText
import DateRules.Proofs.Rule.Failure

/-!
The six operators between the same two sides. Either none of the clauses has an answer on a date, or
all of them tell of one and the same order of the two values, as do the clauses with the sides
swapped. So a negation of a rule with a single clause can be written into its operator.
-/
namespace DateRules

namespace Comparison

/-- The operator that denies what `op` says. -/
def complement : Comparison → Comparison
  | eq => ne | ne => eq | lt => ge | le => gt | gt => le | ge => lt

/-- The operator that says the same with the sides swapped. -/
def mirror : Comparison → Comparison
  | eq => eq | ne => ne | lt => gt | le => ge | gt => lt | ge => le

theorem holds_complement (op : Comparison) (o : Ordering) :
    op.complement.holds o = !op.holds o := by
  cases op <;> cases o <;> rfl

theorem holds_mirror (op : Comparison) (o : Ordering) : op.mirror.holds o.swap = op.holds o := by
  cases op <;> cases o <;> rfl

theorem complement_eq_or_ne {op : Comparison} (h : op = .eq ∨ op = .ne) :
    op.complement = .eq ∨ op.complement = .ne := by
  rcases h with rfl | rfl
  · exact .inr rfl
  · exact .inl rfl

theorem isOrdering_of_ne {op : Comparison} (h : op ≠ .eq ∧ op ≠ .ne) : op.isOrdering = true := by
  cases op with
  | eq => exact absurd rfl h.1
  | ne => exact absurd rfl h.2
  | _ => rfl

/-- Exactly one of less, equal and greater holds, and so does one of an operator and its
complement. -/
structure TellsOrder (answer : Comparison → Bool) : Prop where
  exactly_one : [answer .lt, answer .eq, answer .gt].count true = 1
  complement (op : Comparison) : answer op.complement = !answer op

theorem tellsOrder_holds (o : Ordering) : TellsOrder fun op => op.holds o :=
  ⟨by cases o <;> rfl, fun op => op.holds_complement o⟩

end Comparison

theorem Date.compare_swap (d e : Date) : (compare d e).swap = compare e d := by
  have hcompare : ∀ d e : Date, compare d e = (compare d.year e.year).then
      ((compare d.month e.month).then (compare d.day e.day)) := fun _ _ => rfl
  rw [hcompare, hcompare, Ordering.swap_then, Ordering.swap_then, Nat.compare_swap,
    Nat.compare_swap, Nat.compare_swap]

theorem Value.order_swap {v w : Value} {o : Ordering} (h : v.order w = .ok o) :
    w.order v = .ok o.swap := by
  cases v with
  | date d =>
    cases w <;> cases h
    exact congrArg Except.ok (d.compare_swap _).symm
  | integer a =>
    cases w <;> cases h
    exact congrArg Except.ok (Int.compare_swap a _).symm
  | weekday x =>
    cases w <;> cases h
    exact congrArg Except.ok (Nat.compare_swap x.index _).symm

/-- The clause with the operator between two sides. Blanks around an operand belong to its side. -/
abbrev clauseOf (left : String) (op : Comparison) (right : String) : String :=
  left ++ op.symbol ++ right

section
variable {left right : String} {l r : Operand} (hleft : Operand.parse left = .ok l)
  (hright : Operand.parse right = .ok r) (hcategory : l.category = r.category)
include hleft hright hcategory

theorem Constraint.parse_clauseOf {op : Comparison}
    (hop : l.category = .weekday → op = .eq ∨ op = .ne) :
    parse (clauseOf left op right) = .ok ⟨l, op, r⟩ :=
  parse_eq_ok_iff.mpr ⟨left, right, rfl, hleft, hright, hcategory, hop⟩

theorem Constraint.parse_clauseOf_weekdays {op : Comparison} (hweekday : l.category = .weekday)
    (hop : op ≠ .eq ∧ op ≠ .ne) : parse (clauseOf left op right) =
      .error ⟨clauseOf left op right, .operator (.weekdayOrdering op)⟩ := by
  have hcut : IsCutAt (clauseOf left op right) (Text.trim left.toList) op
      (Text.trim right.toList) := by
    refine ⟨left.toList, right.toList, ?_, rfl, rfl⟩
    rw [String.toList_append, String.toList_append, List.append_assoc]
    exact cutComparison_symbol op (Operand.isComparisonChar_of_parse hleft)
      (Operand.isComparisonChar_of_parse hright)
  exact parse_eq_error_iff.mpr ⟨rfl, .ordering hcut (Operand.ofChars_trim_eq_ok_iff.mpr hleft)
    (Operand.ofChars_trim_eq_ok_iff.mpr hright) ⟨hweekday, hcategory ▸ hweekday⟩
    (Comparison.isOrdering_of_ne hop)⟩

theorem Constraint.eq_of_parse_clauseOf {op : Comparison} {c : Constraint}
    (h : parse (clauseOf left op right) = .ok c) : c = ⟨l, op, r⟩ := by
  by_cases hop : l.category = .weekday → op = .eq ∨ op = .ne
  · exact Except.ok.inj (h.symm.trans (parse_clauseOf hleft hright hcategory hop))
  · obtain ⟨hweekday, hneither⟩ := Classical.not_imp.mp hop
    rw [parse_clauseOf_weekdays hleft hright hcategory hweekday (not_or.mp hneither)] at h
    cases h

/-- The values of the sides and the order of these do not depend on the operator. -/
theorem Constraint.eval_between (d : Date) :
    (∃ e, ∀ op, eval ⟨l, op, r⟩ d = .error e) ∨
      ∃ o : Ordering, (∀ op, eval ⟨l, op, r⟩ d = .ok (op.holds o)) ∧
        ∀ op, eval ⟨r, op, l⟩ d = .ok (op.holds o.swap) := by
  cases hv : l.eval d with
  | error e => exact .inl ⟨e, fun op => by simp only [eval, hv, bind, Except.bind]⟩
  | ok v =>
    cases hw : r.eval d with
    | error e => exact .inl ⟨e, fun op => by simp only [eval, hv, hw, bind, Except.bind]⟩
    | ok w =>
      have hsame : v.category = w.category := by
        rw [Operand.eval_category hleft hv, Operand.eval_category hright hw, hcategory]
      obtain ⟨o, ho⟩ := Value.exists_order hsame
      refine .inr ⟨o, fun op => ?_, fun op => ?_⟩
      · simp only [eval, hv, hw, ho, bind, Except.bind, Functor.map, Except.map]
      · simp only [eval, hv, hw, Value.order_swap ho, bind, Except.bind, Functor.map, Except.map]

end

namespace Constraint

variable {clause : String} {c : Constraint} (h : parse clause = .ok c)
include h

/-- Blanks around a clause belong to its sides. -/
theorem parse_trim : parse (String.ofList (Text.trim clause.toList)) = .ok c := by
  obtain ⟨left, right, hclause, hleft, hright, hcategory, hop⟩ := parse_eq_ok_iff.mp h
  have hblank : ∀ x ∈ c.op.symbol.toList, Text.isBlank x = false := fun x hx =>
    not_isBlank_of_isComparisonChar (c.op.isComparisonChar_symbol x hx)
  have htrim : Text.trim clause.toList = Text.trimLeft left.toList ++ c.op.symbol.toList ++
      Text.trimRight right.toList := by
    rw [hclause, String.toList_append, String.toList_append, Text.trim, List.append_assoc,
      Text.trimLeft_append_of_head, ← List.append_assoc, Text.trimRight_append_of_last]
    · rw [List.getLast?_append_of_ne_nil _ c.op.symbol_ne_nil]
      exact fun x hx => hblank x (List.mem_of_mem_getLast? hx)
    · rw [List.head?_append_of_ne_nil _ c.op.symbol_ne_nil]
      exact fun x hx => hblank x (List.mem_of_mem_head? hx)
  refine parse_eq_ok_iff.mpr ⟨String.ofList (Text.trimLeft left.toList),
    String.ofList (Text.trimRight right.toList), ?_, ?_, ?_, hcategory, hop⟩
  · rw [htrim, ← String.toList_inj]
    simp
  · rwa [Operand.parse_ofList, ← Operand.ofChars_trim_eq_ok_iff, Text.trim_trimLeft,
      Operand.ofChars_trim_eq_ok_iff]
  · rwa [Operand.parse_ofList, ← Operand.ofChars_trim_eq_ok_iff, Text.trim_trimRight,
      Operand.ofChars_trim_eq_ok_iff]

theorem clauses_of_parse : clauses clause = [String.ofList (Text.trim clause.toList)] := by
  have hsplit : clause.toList.splitOn ';' = [clause.toList] := by
    have hjoined := List.splitOn_intercalate ';'
      (List.forall_mem_singleton.mpr (not_mem_semicolon_of_parse h)) (by simp)
    rwa [List.intercalate_singleton] at hjoined
  have hne : Text.trim clause.toList ≠ [] := by
    intro hnil
    have htrim := parse_trim h
    rw [hnil] at htrim
    cases htrim
  rw [clauses, hsplit]
  simp [hne]

end Constraint

namespace Rule

theorem parse_of_clause {clause : String} {c : Constraint} (h : Constraint.parse clause = .ok c)
    (negate : Bool) (name : String) : parse clause negate name = .ok ⟨[c], negate, name⟩ := by
  rw [parse, Constraint.parseAll, Constraint.clauses_of_parse h, List.mapM_cons,
    Constraint.parse_trim h]
  rfl

theorem matches_single (c : Constraint) (negate : Bool) (name : String) (d : Date) :
    matches? ⟨[c], negate, name⟩ d = (· ^^ negate) <$> c.eval d := by
  unfold matches? allHold
  cases hc : c.eval d with
  | error e => rfl
  | ok b => cases b <;> rfl

end Rule

/-- How the clauses between two sides of a category go together. -/
structure OrdersSides (left right : String) (category : Category) : Prop where
  compiles (op : Comparison) (hop : category = .weekday → op = .eq ∨ op = .ne) :
    ∃ c, Constraint.parse (clauseOf left op right) = .ok c
  refused (op : Comparison) (hweekday : category = .weekday) (hop : op ≠ .eq ∧ op ≠ .ne) :
    Constraint.parse (clauseOf left op right) =
      .error ⟨clauseOf left op right, .operator (.weekdayOrdering op)⟩
  answers (d : Date) :
    (∃ e, ∀ op c, Constraint.parse (clauseOf left op right) = .ok c → c.eval d = .error e) ∨
      ∃ answer, Comparison.TellsOrder answer ∧
        (∀ op c, Constraint.parse (clauseOf left op right) = .ok c → c.eval d = .ok (answer op)) ∧
        ∀ op c, Constraint.parse (clauseOf right op.mirror left) = .ok c →
          c.eval d = .ok (answer op)
  negated (op : Comparison) (hop : category = .weekday → op = .eq ∨ op = .ne) (name : String) :
    ∃ r s, Rule.parse (clauseOf left op right) true name = .ok r ∧
      Rule.parse (clauseOf left op.complement right) false name = .ok s ∧
      ∀ d : Date, r.matches? d = s.matches? d

/-- Operands of one category are compared by all operators, days of the week by equality alone. On
any date the answers to all clauses, with the sides as they are or swapped, tell of one order, or
none of the clauses has an answer. A negated rule is the rule with the complementary operator. -/
theorem operators_tell_of_one_order {left right : String} {l r : Operand}
    (hleft : Operand.parse left = .ok l) (hright : Operand.parse right = .ok r)
    (hcategory : l.category = r.category) : OrdersSides left right l.category where
  compiles op hop := ⟨_, Constraint.parse_clauseOf hleft hright hcategory hop⟩
  refused op := Constraint.parse_clauseOf_weekdays hleft hright hcategory
  answers d := by
    rcases Constraint.eval_between hleft hright hcategory d with ⟨e, he⟩ | ⟨o, ho, hswapped⟩
    · refine .inl ⟨e, fun op c hc => ?_⟩
      rw [Constraint.eq_of_parse_clauseOf hleft hright hcategory hc]
      exact he op
    · refine .inr ⟨fun op => op.holds o, Comparison.tellsOrder_holds o, fun op c hc => ?_,
        fun op c hc => ?_⟩
      · rw [Constraint.eq_of_parse_clauseOf hleft hright hcategory hc]
        exact ho op
      · rw [Constraint.eq_of_parse_clauseOf hright hleft hcategory.symm hc, hswapped]
        exact congrArg Except.ok (op.holds_mirror o)
  negated op hop name := by
    have hclause := Constraint.parse_clauseOf hleft hright hcategory hop
    have hcomplement := Constraint.parse_clauseOf hleft hright hcategory fun hweekday =>
      Comparison.complement_eq_or_ne (hop hweekday)
    refine ⟨_, _, Rule.parse_of_clause hclause true name,
      Rule.parse_of_clause hcomplement false name, fun d => ?_⟩
    rw [Rule.matches_single, Rule.matches_single]
    rcases Constraint.eval_between hleft hright hcategory d with ⟨e, he⟩ | ⟨o, ho, -⟩
    · rw [he, he]
      rfl
    · rw [ho, ho, op.holds_complement]
      cases op.holds o <;> rfl

/-- Both sides are dates, the first of which is out of the calendar on its first day. -/
theorem order_of_yesterday_and_Easter :
    ∃ l r, Operand.parse "Date - 1 " = .ok l ∧ Operand.parse "\tEASTER+0" = .ok r ∧
      l.category = r.category ∧ OrdersSides "Date - 1 " "\tEASTER+0" l.category := by
  obtain ⟨l, hl, hleft⟩ : ∃ l, Operand.parse "Date - 1 " = .ok l ∧ (l.category == .date) = true :=
    exists_ok_of_any (by decide +kernel)
  obtain ⟨r, hr, hright⟩ : ∃ r, Operand.parse "\tEASTER+0" = .ok r ∧ (r.category == .date) = true :=
    exists_ok_of_any (by decide +kernel)
  have hcategory : l.category = r.category := (eq_of_beq hleft).trans (eq_of_beq hright).symm
  exact ⟨l, r, hl, hr, hcategory, operators_tell_of_one_order hl hr hcategory⟩

end DateRules
