import DateRules.Proofs.Operand.Reading
import DateRules.Proofs.Value

/-! The steps of compiling an operand, and that they lead to the expression of its form. -/
namespace DateRules

open Text (AllBlank AreDigits IsWord Trimmed)
open Text.Numeral (magnitude)

theorem value?_eq_some_iff {n : Text.Numeral} {z : Int} : n.value? = some z ↔
    n.digits.length ≤ Text.Numeral.maxDigits ∧
      z = if n.negative then -(magnitude n.digits : Int) else magnitude n.digits := by
  unfold Text.Numeral.value?
  split
  · rename_i hlength
    rw [Option.some_inj, eq_comm]
    exact (and_iff_right hlength).symm
  · rename_i hlength
    exact ⟨nofun, fun h => absurd h.1 hlength⟩

namespace Operand

theorem numeralValue_eq_ok_iff {n : Text.Numeral} {z : Int} :
    numeralValue n = .ok z ↔ n.value? = some z := by
  unfold numeralValue
  split <;> simp_all

theorem changedDate_eq_ok_iff {text : String} {d : Date} {op : Arithmetic} {days : Nat}
    {e : Expression} : changedDate text d op days = .ok e ↔
      ∃ d', IsMoved op days d d' ∧ e = .constant (.date d') := by
  unfold changedDate
  simp only [bind_eq_ok_iff, mapError_eq_ok_iff, Arithmetic.change_eq_ok_iff]
  constructor
  · rintro ⟨c, hc, h⟩
    split at h
    · rename_i v hv
      cases h
      rcases hc with ⟨-, rfl, rfl⟩ | ⟨-, rfl, rfl⟩ | ⟨hcategory, -⟩
      · obtain ⟨d', hd', rfl⟩ := move_apply_eq_ok_iff.mp hv
        exact ⟨d', by simp only [IsMoved]; omega, rfl⟩
      · obtain ⟨d', hd', rfl⟩ := move_apply_eq_ok_iff.mp hv
        exact ⟨d', by simp only [IsMoved]; omega, rfl⟩
      · cases hcategory
    · cases h
  · rintro ⟨d', hmoved, rfl⟩
    cases op with
    | add =>
      simp only [IsMoved] at hmoved
      have hv : (Change.move days).apply (.date d) = .ok (.date d') :=
        move_apply_eq_ok_iff.mpr ⟨d', by omega, rfl⟩
      exact ⟨_, .inl ⟨trivial, rfl, rfl⟩, by rw [hv]⟩
    | subtract =>
      simp only [IsMoved] at hmoved
      have hv : (Change.move (-(days : Int))).apply (.date d) = .ok (.date d') :=
        move_apply_eq_ok_iff.mpr ⟨d', by omega, rfl⟩
      exact ⟨_, .inr (.inl ⟨trivial, rfl, rfl⟩), by rw [hv]⟩
    | _ => exact absurd hmoved id

theorem changedName_eq_ok_iff {text : String} {left : List Char} {op : Arithmetic} {right : Int}
    {e : Expression} : changedName text left op right = .ok e ↔
      ∃ q c, Quantity.ofName? left = some q ∧ op.change q.category right = .ok c ∧
        e = .changed q c := by
  unfold changedName
  cases hname : Quantity.ofName? left with
  | none => simp
  | some q => simp [map_eq_ok_iff, mapError_eq_ok_iff]

theorem ofArithmetic_eq_ok_iff {text : String} {left right : List Char} {op : Arithmetic}
    {e : Expression} : ofArithmetic text left op right = .ok e ↔
    namesWeekday left = false ∧ namesWeekday right = false ∧
    ∃ n z, Text.Numeral.ofChars? right = some n ∧ n.value? = some z ∧
      ((∃ d, IsoReading.ofChars left = .date d ∧ changedDate text d op z = .ok e) ∨
        IsoReading.ofChars left = .otherForm ∧ changedName text left op z = .ok e) := by
  unfold ofArithmetic
  cases hleft : namesWeekday left with
  | true => simp
  | false =>
    cases hright : namesWeekday right with
    | true => simp
    | false =>
      cases hn : Text.Numeral.ofChars? right with
      | none => simp
      | some n =>
        cases hiso : IsoReading.ofChars left <;> simp [bind_eq_ok_iff, numeralValue_eq_ok_iff]

theorem ofName_eq_ok_iff {term : List Char} {e : Expression} : ofName term = .ok e ↔
    (∃ q, Quantity.ofName? term = some q ∧ e = .quantity q) ∨
      Quantity.ofName? term = none ∧ ∃ w, Weekday.ofName? term = some w ∧
        e = .constant (.weekday w) := by
  unfold ofName
  cases Quantity.ofName? term <;> cases Weekday.ofName? term <;> simp [eq_comm]

theorem readExpression_of_isNoLiteral {s : List Char} (h : IsNoLiteral s) :
    readExpression s = ofTerms s := by
  unfold readExpression
  rw [h.1, h.2]

theorem ofTerms_of_rest_nil {s : List Char} (h : (cutArithmetic s).rest = []) :
    ofTerms s = ofName s := by
  unfold ofTerms
  cases hcut : cutArithmetic s with
  | mk first rest =>
    rw [hcut] at h
    subst h
    rfl

theorem ofTerms_of_isCutInTwo {s left right : List Char} {op : Arithmetic}
    (h : IsCutInTwo s left op right) (hleft : left ≠ []) (hright : right ≠ []) :
    ofTerms s = ofArithmetic (String.ofList s) left op right := by
  obtain ⟨first, piece, hcut, rfl, rfl⟩ := h
  unfold ofTerms
  rw [hcut]
  simp [hleft, hright]

theorem namesWeekday_eq_false_of_none {cs : List Char}
    (h : Quantity.ofName? cs = none ∧ Weekday.ofName? cs = none) : namesWeekday cs = false := by
  simp [namesWeekday, h]

theorem namesWeekday_eq_false_of_quantity {cs : List Char} {q : Quantity}
    (h : Quantity.ofName? cs = some q) (hq : q.category ≠ .weekday) : namesWeekday cs = false := by
  have hne : q ≠ .weekday := by
    rintro rfl
    exact hq rfl
  simp [namesWeekday, h, Weekday.ofName?_eq_none_of_quantity h, hne]

theorem namesWeekday_offset {offset : List Char} (h : IsOffset offset) :
    namesWeekday offset = false := by
  obtain ⟨c, hc⟩ := List.exists_mem_of_ne_nil _ h.1.1
  exact namesWeekday_eq_false_of_none (ofName?_eq_none_of_mem (trimmed_of_areDigits h.1) hc
    (Text.isNoLetter_of_isDecimal (h.1.2 c hc)))

theorem value?_offset {offset : List Char} (h : IsOffset offset) :
    (Text.Numeral.mk false offset).value? = some (magnitude offset : Int) :=
  value?_eq_some_iff.mpr ⟨h.2, rfl⟩

theorem readExpression_of_change {s left offset : List Char} {q : Quantity} {op : Arithmetic}
    {c : Change} (hliteral : IsNoLiteral s) (hname : Quantity.ofName? left = some q)
    (hcut : IsCutInTwo s left op offset) (hoffset : IsOffset offset)
    (hchange : op.change q.category (magnitude offset) = .ok c) :
    readExpression s = .ok (.changed q c) := by
  have hlower := Quantity.ofName?_eq_some_iff.mp hname
  rw [nameKey, hcut.trim_left] at hlower
  have hword := Quantity.isWord hlower
  have hcategory : q.category ≠ .weekday := by
    intro hq
    rw [hq] at hchange
    cases hchange
  rw [readExpression_of_isNoLiteral hliteral, ofTerms_of_isCutInTwo hcut hword.1 hoffset.1.1,
    ofArithmetic_eq_ok_iff]
  exact ⟨namesWeekday_eq_false_of_quantity hname hcategory, namesWeekday_offset hoffset,
    _, _, hoffset.ofChars?, value?_offset hoffset,
    .inr ⟨(isNoLiteral_of_isWord hword).1, changedName_eq_ok_iff.mpr ⟨q, c, hname, hchange, rfl⟩⟩⟩

theorem readExpression_of_isRead {f : OperandForm} {s : List Char} {e : Expression}
    (h : f.IsRead s) (he : f.Means e) : readExpression s = .ok e := by
  cases f with
  | date d =>
    subst he
    unfold readExpression
    rw [h]
  | integer n =>
    obtain ⟨z, hz, rfl⟩ := he
    unfold readExpression
    rw [h.1, h.2.1]
    exact map_eq_ok_iff.mpr ⟨z, numeralValue_eq_ok_iff.mpr hz, rfl⟩
  | quantity q =>
    subst he
    rw [readExpression_of_isNoLiteral h.1, ofTerms_of_rest_nil h.2.1, ofName_eq_ok_iff]
    exact .inl ⟨q, h.2.2, rfl⟩
  | weekday w =>
    subst he
    rw [readExpression_of_isNoLiteral h.1, ofTerms_of_rest_nil h.2.1, ofName_eq_ok_iff]
    exact .inr ⟨h.2.2.1, w, h.2.2.2, rfl⟩
  | movedDate d op offset =>
    obtain ⟨hliteral, hcut, hoffset, -⟩ := h
    obtain ⟨d', hmoved, rfl⟩ := he
    rw [readExpression_of_isNoLiteral hliteral,
      ofTerms_of_isCutInTwo hcut (by simp [Date.isoChars]) hoffset.1.1, ofArithmetic_eq_ok_iff]
    refine ⟨namesWeekday_eq_false_of_none (ofName?_isoChars d), namesWeekday_offset hoffset,
      _, _, hoffset.ofChars?, value?_offset hoffset, .inl ⟨d, ?_, ?_⟩⟩
    · exact IsoReading.ofChars_eq_date_iff.mpr rfl
    · exact changedDate_eq_ok_iff.mpr ⟨d', hmoved, rfl⟩
  | movedQuantity q op offset =>
    obtain ⟨hliteral, ⟨left, hname, hcut⟩, hoffset, hcategory, hop⟩ := h
    subst he
    apply readExpression_of_change hliteral hname hcut hoffset
    rw [Arithmetic.change_eq_ok_iff, hcategory]
    rcases hop with rfl | rfl
    · exact .inl ⟨rfl, rfl, rfl⟩
    · exact .inr (.inl ⟨rfl, rfl, rfl⟩)
  | combined q op offset =>
    obtain ⟨hliteral, ⟨left, hname, hcut⟩, hoffset, hcategory, hdivisor⟩ := h
    subst he
    apply readExpression_of_change hliteral hname hcut hoffset
    rw [Arithmetic.change_eq_ok_iff, hcategory]
    exact .inr (.inr ⟨rfl, fun hop => by exact_mod_cast hdivisor hop, rfl⟩)

theorem exists_isRead_of_ofArithmetic {s left right : List Char} {op : Arithmetic}
    {e : Expression} (hs : Trimmed s) (hliteral : IsNoLiteral s)
    (hcut : IsCutInTwo s left op right)
    (h : ofArithmetic (String.ofList s) left op right = .ok e) :
    ∃ f : OperandForm, f.IsRead s ∧ f.Means e := by
  obtain ⟨-, -, n, z, hn, hz, hleft⟩ := ofArithmetic_eq_ok_iff.mp h
  obtain ⟨-, hdigits, rfl⟩ := hcut.isArithmetic hs hn
  have hoffset : IsOffset right := ⟨hdigits, (value?_eq_some_iff.mp hz).1⟩
  obtain rfl := Option.some.inj ((value?_offset hoffset).symm.trans hz)
  rcases hleft with ⟨d, hd, hchanged⟩ | ⟨-, hchanged⟩
  · obtain rfl := IsoReading.ofChars_eq_date_iff.mp hd
    have hmoved := changedDate_eq_ok_iff.mp hchanged
    obtain ⟨d', hd', -⟩ := id hmoved
    exact ⟨.movedDate d op right, ⟨hliteral, hcut, hoffset, d', hd'⟩, hmoved⟩
  · obtain ⟨q, c, hname, hchange, rfl⟩ := changedName_eq_ok_iff.mp hchanged
    rcases Arithmetic.change_eq_ok_iff.mp hchange with
      ⟨hcategory, rfl, rfl⟩ | ⟨hcategory, rfl, rfl⟩ | ⟨hcategory, hdivisor, rfl⟩
    · exact ⟨.movedQuantity q .add right,
        ⟨hliteral, ⟨left, hname, hcut⟩, hoffset, hcategory, .inl rfl⟩, rfl⟩
    · exact ⟨.movedQuantity q .subtract right,
        ⟨hliteral, ⟨left, hname, hcut⟩, hoffset, hcategory, .inr rfl⟩, rfl⟩
    · exact ⟨.combined q op right, ⟨hliteral, ⟨left, hname, hcut⟩, hoffset, hcategory,
        fun hop => by exact_mod_cast hdivisor hop⟩, rfl⟩

theorem exists_isRead_of_readExpression {s : List Char} {e : Expression} (hs : Trimmed s)
    (h : readExpression s = .ok e) : ∃ f : OperandForm, f.IsRead s ∧ f.Means e := by
  cases hiso : IsoReading.ofChars s with
  | noSuchDay => simp [readExpression, hiso] at h
  | date d =>
    simp only [readExpression, hiso, Except.ok.injEq] at h
    exact ⟨.date d, hiso, h.symm⟩
  | otherForm =>
    cases hnumeral : Text.Numeral.ofChars? s with
    | some n =>
      simp only [readExpression, hiso, hnumeral, map_eq_ok_iff, numeralValue_eq_ok_iff] at h
      obtain ⟨z, hz, he⟩ := h
      exact ⟨.integer n, ⟨hiso, hnumeral, (value?_eq_some_iff.mp hz).1⟩, z, hz, he⟩
    | none =>
      have hliteral : IsNoLiteral s := ⟨hiso, hnumeral⟩
      rw [readExpression_of_isNoLiteral hliteral] at h
      cases hcut : cutArithmetic s with
      | mk first rest =>
        match rest with
        | [] =>
          have hrest : (cutArithmetic s).rest = [] := by rw [hcut]
          rw [ofTerms_of_rest_nil hrest, ofName_eq_ok_iff] at h
          rcases h with ⟨q, hq, rfl⟩ | ⟨hq, w, hw, rfl⟩
          · exact ⟨.quantity q, ⟨hliteral, hrest, hq⟩, rfl⟩
          · exact ⟨.weekday w, ⟨hliteral, hrest, hq, hw⟩, rfl⟩
        | [(op, piece)] =>
          simp only [ofTerms, hcut] at h
          split at h
          · cases h
          · exact exists_isRead_of_ofArithmetic hs hliteral ⟨first, piece, hcut, rfl, rfl⟩ h
        | _ :: _ :: _ => simp [ofTerms, hcut] at h

theorem readExpression_eq_ok_iff {s : List Char} {e : Expression} (hs : Trimmed s) :
    readExpression s = .ok e ↔ ∃ f : OperandForm, f.IsWritten s ∧ f.Means e := by
  constructor
  · intro h
    obtain ⟨f, hread, hmeans⟩ := exists_isRead_of_readExpression hs h
    exact ⟨f, hread.isWritten hs, hmeans⟩
  · rintro ⟨f, hwritten, hmeans⟩
    exact readExpression_of_isRead hwritten.isRead hmeans

theorem exists_means_of_isWritten {f : OperandForm} {s : List Char} (h : f.IsWritten s) :
    ∃ e, f.Means e := by
  cases f with
  | integer n =>
    obtain ⟨z, hz⟩ : ∃ z, n.value? = some z := ⟨_, value?_eq_some_iff.mpr ⟨h.2, rfl⟩⟩
    exact ⟨_, z, hz, rfl⟩
  | movedDate d op offset =>
    obtain ⟨-, -, d', hmoved⟩ := h
    exact ⟨_, d', hmoved, rfl⟩
  | _ => exact ⟨_, rfl⟩

theorem parse_eq_ok_iff {t : String} {o : Operand} : parse t = .ok o ↔
    ∃ f : OperandForm, f.IsWritten (Text.trim t.toList) ∧ f.Means o.expression ∧
      o.text = String.ofList (Text.trim t.toList) := by
  have hparse : parse t = .ok o ↔ readExpression (Text.trim t.toList) = .ok o.expression ∧
      o.text = String.ofList (Text.trim t.toList) := by
    unfold parse ofChars
    by_cases hempty : Text.trim t.toList = []
    · have hnothing : readExpression [] =
          .error (.unknownName (String.ofList []) (String.ofList [])) := rfl
      simp [hempty, hnothing, bind, Except.bind, throw, throwThe, MonadExceptOf.throw]
    · obtain ⟨text, expression⟩ := o
      simp [hempty, bind_eq_ok_iff, pure, Except.pure]
      exact fun _ => eq_comm
  rw [hparse, readExpression_eq_ok_iff (Text.trimmed_trim _)]
  constructor
  · rintro ⟨⟨f, hwritten, hmeans⟩, htext⟩
    exact ⟨f, hwritten, hmeans, htext⟩
  · rintro ⟨f, hwritten, hmeans, htext⟩
    exact ⟨⟨f, hwritten, hmeans⟩, htext⟩

end Operand

end DateRules
