import DateRules.Proofs.Operand.Compile

/-!
An operand compiles exactly when its text, without the blanks around it, is of one of the seven
forms. A number with a sign of its own is an operand, but never an offset.
-/
namespace DateRules

open Text (AllBlank AreDigits IsWord Trimmed)

/-- An operator and then a number with a sign of its own. -/
def HasSignedOffset (s : List Char) : Prop :=
  ∃ (left : List Char) (op : Arithmetic) (gap : List Char) (sign : Char) (digits : List Char),
    s = left ++ op.symbol.toList ++ gap ++ sign :: digits ∧ AllBlank gap ∧
      (sign = '+' ∨ sign = '-') ∧ AreDigits digits

/-- The text in front of the digits at its end, backwards. -/
def beforeDigits (s : List Char) : List Char := s.reverse.dropWhile Text.isDecimal

theorem beforeDigits_append {cs digits : List Char}
    (hdigits : ∀ c ∈ digits, Text.isDecimal c = true)
    (hlast : ∀ c ∈ cs.getLast?, Text.isDecimal c = false) :
    beforeDigits (cs ++ digits) = cs.reverse := by
  unfold beforeDigits
  rw [List.reverse_append, List.dropWhile_append_of_pos, Text.dropWhile_of_head]
  · rw [List.head?_reverse]
    exact hlast
  · exact fun c hc => hdigits c (List.mem_reverse.mp hc)

theorem Arithmetic.exists_symbol_eq (op : Arithmetic) :
    ∃ before c, op.symbol.toList = before ++ [c] ∧ isArithmeticChar c = true ∧
      (c = '+' ∨ c = '-' → before = []) := by
  cases op with
  | power => exact ⟨['*'], '*', rfl, by decide, by decide⟩
  | add => exact ⟨[], '+', rfl, by decide, fun _ => rfl⟩
  | subtract => exact ⟨[], '-', rfl, by decide, fun _ => rfl⟩
  | multiply => exact ⟨[], '*', rfl, by decide, fun _ => rfl⟩
  | divide => exact ⟨[], '/', rfl, by decide, fun _ => rfl⟩
  | modulo => exact ⟨[], '%', rfl, by decide, fun _ => rfl⟩

/-- Backwards, the digits are followed by a sign, blanks and an operator. -/
theorem HasSignedOffset.beforeDigits_eq {s : List Char} (h : HasSignedOffset s) :
    ∃ sign gap op left, beforeDigits s = sign :: (gap ++ op :: left) ∧ AllBlank gap ∧
      isArithmeticChar op = true ∧ (sign = '+' ∨ sign = '-') := by
  obtain ⟨left, op, gap, sign, digits, rfl, hgap, hsign, hdigits⟩ := h
  obtain ⟨symbol, c, hsymbol, hc, -⟩ := op.exists_symbol_eq
  refine ⟨sign, gap.reverse, c, (left ++ symbol).reverse, ?_, fun b hb => ?_, hc, hsign⟩
  · have hsplit : left ++ op.symbol.toList ++ gap ++ sign :: digits =
        (left ++ op.symbol.toList ++ gap ++ [sign]) ++ digits := by simp
    rw [hsplit, beforeDigits_append hdigits.2, hsymbol]
    · simp
    · rw [List.getLast?_concat]
      rintro c ⟨⟩
      rcases hsign with rfl | rfl <;> decide
  · exact hgap b (List.mem_reverse.mp hb)

theorem HasSignedOffset.exists_sign {s : List Char} (h : HasSignedOffset s) :
    ∃ sign ∈ s.tail, sign = '+' ∨ sign = '-' := by
  obtain ⟨left, op, gap, sign, digits, rfl, -, hsign, -⟩ := h
  refine ⟨sign, ?_, hsign⟩
  rw [List.tail_append_of_ne_nil (by simp [op.symbol_ne_nil])]
  simp

theorem dropWhile_isBlank_append {blanks cs : List Char} (hblanks : AllBlank blanks)
    (hhead : ∀ c ∈ cs.head?, Text.isBlank c = false) :
    (blanks ++ cs).dropWhile Text.isBlank = cs := by
  rw [List.dropWhile_append_of_pos hblanks, Text.dropWhile_of_head hhead]

theorem IsTerm.last {left : List Char} (h : IsTerm left) :
    ∀ c ∈ left.getLast?, isArithmeticChar c = false := by
  rcases h with ⟨d, rfl⟩ | hword
  · rintro c ⟨⟩
    exact isArithmeticChar_of_isDecimal (isDecimal_lastDigit _)
  · exact fun c hc => not_isArithmeticChar_of_isWord hword c (List.mem_of_mem_getLast? hc)

theorem IsArithmetic.not_hasSignedOffset {left offset s : List Char} {op : Arithmetic}
    (hleft : IsTerm left) (hoffset : AreDigits offset) (h : IsArithmetic left op offset s) :
    ¬HasSignedOffset s := by
  intro hsigned
  obtain ⟨sign, gap, c, rest, heq, hgap, hc, hsign⟩ := hsigned.beforeDigits_eq
  obtain ⟨before, behind, hbefore, hbehind, rfl⟩ := h
  obtain ⟨symbol, c', hsymbol, hc', hshort⟩ := op.exists_symbol_eq
  have hlast : ∀ x ∈ (left ++ before ++ op.symbol.toList ++ behind).getLast?,
      Text.isDecimal x = false := by
    intro x hx
    rcases List.eq_nil_or_concat behind with rfl | ⟨blanks, b, rfl⟩
    · rw [List.append_nil, hsymbol, ← List.append_assoc, List.getLast?_concat] at hx
      cases hx
      rw [Bool.eq_false_iff]
      intro hdecimal
      rw [isArithmeticChar_of_isDecimal hdecimal] at hc'
      cases hc'
    · rw [List.concat_eq_append, ← List.append_assoc, List.getLast?_concat] at hx
      cases hx
      exact Text.not_isDecimal_of_isBlank (hbehind x (by simp))
  rw [beforeDigits_append hoffset.2 hlast, hsymbol] at heq
  simp only [List.reverse_append, List.reverse_cons, List.nil_append, List.append_assoc,
    List.cons_append] at heq
  cases hbehind' : behind.reverse with
  | cons b bs =>
    -- The sign would be one of the blanks in front of the offset.
    rw [hbehind'] at heq
    obtain ⟨rfl, -⟩ := List.cons.inj heq
    have hblank := hbehind b (List.mem_reverse.mp (hbehind' ▸ List.mem_cons_self))
    rcases hsign with rfl | rfl <;> exact absurd hblank (by decide)
  | nil =>
    -- The sign is the operator, so another operator ends the term on the left.
    rw [hbehind'] at heq
    obtain ⟨rfl, htail⟩ := List.cons.inj heq
    rw [hshort hsign] at htail
    have hblanks : AllBlank before.reverse := fun b hb => hbefore b (List.mem_reverse.mp hb)
    have hhead : ∀ x ∈ left.reverse.head?, Text.isBlank x = false := by
      rw [List.head?_reverse]
      exact hleft.trimmed.last
    have hop : ∀ x ∈ (c :: rest).head?, Text.isBlank x = false := by
      rintro x ⟨⟩
      exact not_isBlank_of_isArithmeticChar hc
    have hreverse : left.reverse = c :: rest := by
      rw [← dropWhile_isBlank_append hblanks hhead, ← dropWhile_isBlank_append hgap hop]
      exact congrArg (List.dropWhile Text.isBlank) htail
    have hfalse := hleft.last c (by rw [← List.head?_reverse, hreverse]; rfl)
    rw [hc] at hfalse
    cases hfalse

theorem not_hasSignedOffset_isoChars (d : Date) : ¬HasSignedOffset d.isoChars := by
  intro hsigned
  obtain ⟨sign, gap, c, rest, heq, hgap, hc, -⟩ := hsigned.beforeDigits_eq
  have hdash : ∀ y : List Char,
      beforeDigits (y ++ ['-'] ++ [lastDigit (d.day / 10), lastDigit d.day]) =
        (y ++ ['-']).reverse := by
    intro y
    apply beforeDigits_append
    · simp
    · rw [List.getLast?_concat]
      rintro x ⟨⟩
      decide
  have hmonth : beforeDigits d.isoChars =
      '-' :: lastDigit d.month :: lastDigit (d.month / 10) :: _ :=
    hdash [lastDigit (d.year / 1000), lastDigit (d.year / 100), lastDigit (d.year / 10),
      lastDigit d.year, '-', lastDigit (d.month / 10), lastDigit d.month]
  rw [hmonth] at heq
  obtain ⟨-, htail⟩ := List.cons.inj heq
  have hdecimal := isDecimal_lastDigit d.month
  cases gap with
  | nil =>
    obtain ⟨rfl, -⟩ := List.cons.inj htail
    rw [isArithmeticChar_of_isDecimal hdecimal] at hc
    cases hc
  | cons b gap =>
    obtain ⟨rfl, -⟩ := List.cons.inj htail
    rw [Text.not_isDecimal_of_isBlank (hgap _ List.mem_cons_self)] at hdecimal
    cases hdecimal

theorem OperandForm.IsWritten.not_hasSignedOffset {f : OperandForm} {s : List Char}
    (h : f.IsWritten s) : ¬HasSignedOffset s := by
  have hletter : ∀ cs, IsWord cs → ¬HasSignedOffset cs := by
    intro cs hword hsigned
    obtain ⟨sign, hmem, hsign⟩ := hsigned.exists_sign
    apply hword.2 sign (List.mem_of_mem_tail hmem)
    rcases hsign with rfl | rfl <;> exact Text.isNoLetter_of_lt (by decide)
  cases f with
  | date d =>
    subst h
    exact not_hasSignedOffset_isoChars d
  | integer n =>
    intro hsigned
    obtain ⟨sign, hmem, hsign⟩ := hsigned.exists_sign
    have hdecimal := h.1.tail sign hmem
    rcases hsign with rfl | rfl <;> exact absurd hdecimal (by decide)
  | quantity q => exact hletter s (Quantity.isWord h)
  | weekday w => exact hletter s (Weekday.isWord h)
  | movedDate d op offset => exact h.1.not_hasSignedOffset (.inl ⟨d, rfl⟩) h.2.1.1
  | movedQuantity q op offset | combined q op offset =>
    obtain ⟨⟨left, hname, harithmetic⟩, hoffset, -⟩ := h
    exact harithmetic.not_hasSignedOffset (.inr (Quantity.isWord hname)) hoffset.1

/-- A text compiles exactly when it is of one of the forms, of which it has no two; the operand has
the form's category and the text without the blanks around it. A text of no form, such as one with a
signed offset, is refused. -/
theorem Operand.parse_accepts_exactly_the_forms (t : String) :
    ((∃ o, parse t = .ok o) ↔ ∃ f : OperandForm, f.IsWritten (Text.trim t.toList)) ∧
    (∀ f g : OperandForm, f.IsWritten (Text.trim t.toList) → g.IsWritten (Text.trim t.toList) →
      f = g) ∧
    (∀ o, parse t = .ok o → o.text = String.ofList (Text.trim t.toList) ∧
      ∀ f : OperandForm, f.IsWritten (Text.trim t.toList) → o.category = f.category) ∧
    ((∀ f : OperandForm, ¬f.IsWritten (Text.trim t.toList)) → ∃ fault, parse t = .error fault) ∧
    (HasSignedOffset (Text.trim t.toList) → ∃ fault, parse t = .error fault) := by
  have haccepted : (∃ o, parse t = .ok o) ↔
      ∃ f : OperandForm, f.IsWritten (Text.trim t.toList) := by
    constructor
    · rintro ⟨o, ho⟩
      obtain ⟨f, hwritten, -⟩ := parse_eq_ok_iff.mp ho
      exact ⟨f, hwritten⟩
    · rintro ⟨f, hwritten⟩
      obtain ⟨e, hmeans⟩ := exists_means_of_isWritten hwritten
      exact ⟨⟨_, e⟩, parse_eq_ok_iff.mpr ⟨f, hwritten, hmeans, rfl⟩⟩
  have hrefused : (∀ f : OperandForm, ¬f.IsWritten (Text.trim t.toList)) →
      ∃ fault, parse t = .error fault := by
    intro hnone
    cases hparse : parse t with
    | error fault => exact ⟨fault, rfl⟩
    | ok o =>
      obtain ⟨f, hwritten⟩ := haccepted.mp ⟨o, hparse⟩
      exact absurd hwritten (hnone f)
  refine ⟨haccepted, fun f g hf hg => hf.unique hg, fun o ho => ?_, hrefused, fun hsigned => ?_⟩
  · obtain ⟨f, hwritten, hmeans, htext⟩ := parse_eq_ok_iff.mp ho
    refine ⟨htext, fun g hg => ?_⟩
    rw [hg.unique hwritten]
    exact hmeans.category_eq
  · exact hrefused fun f hwritten => hwritten.not_hasSignedOffset hsigned

end DateRules
