import DateRules.Proofs.Operand.Split

/-!
What the readers of dates, numerals and names, and the cut at operators, find in a text of each
form. They find it in the texts of that form only, and no text is of two forms.
-/
namespace DateRules

open Text (AllBlank AreDigits IsWord Trimmed)

def IsNoLiteral (s : List Char) : Prop :=
  IsoReading.ofChars s = .otherForm ∧ Text.Numeral.ofChars? s = none

theorem isNoLiteral_of_isWord_append {left : List Char} (h : IsWord left) (rest : List Char) :
    IsNoLiteral (left ++ rest) := by
  obtain ⟨c, left, rfl⟩ := List.exists_cons_of_ne_nil h.1
  have hletter := h.2 c List.mem_cons_self
  constructor
  · rw [IsoReading.ofChars_eq_otherForm_iff]
    apply hasIsoForm_eq_false_of_head
    intro c' hc'
    obtain rfl : c = c' := Option.some.inj hc'
    exact not_isDecimal_of_isWord h c List.mem_cons_self
  · rw [Option.eq_none_iff_forall_ne_some]
    intro n hn
    rcases (Text.Numeral.ofChars?_eq_some_iff.mp hn).head c rfl with hdecimal | rfl | rfl
    · exact hletter (Text.isNoLetter_of_isDecimal hdecimal)
    · exact hletter (Text.isNoLetter_of_lt (by decide))
    · exact hletter (Text.isNoLetter_of_lt (by decide))

theorem isNoLiteral_of_isWord {s : List Char} (h : IsWord s) : IsNoLiteral s := by
  have hliteral := isNoLiteral_of_isWord_append h []
  rwa [List.append_nil] at hliteral

theorem isNoLiteral_of_isoChars_append (d : Date) {rest : List Char} (h : rest ≠ []) :
    IsNoLiteral (d.isoChars ++ rest) := by
  constructor
  · rw [IsoReading.ofChars_eq_otherForm_iff, Bool.eq_false_iff]
    intro hform
    obtain ⟨_, _, _, _, _, _, _, _, heq, -⟩ := hasIsoForm_iff.mp hform
    have hlength := congrArg List.length heq
    rw [List.length_append, d.length_isoChars] at hlength
    exact h (List.length_eq_zero_iff.mp (by simpa using hlength))
  · rw [Option.eq_none_iff_forall_ne_some]
    intro n hn
    have hdash := (Text.Numeral.ofChars?_eq_some_iff.mp hn).tail '-' (by simp [Date.isoChars])
    exact absurd hdash (by decide)

theorem IsArithmetic.isNoLiteral {left offset s : List Char} {op : Arithmetic}
    (hleft : IsTerm left) (h : IsArithmetic left op offset s) : IsNoLiteral s := by
  obtain ⟨before, behind, -, -, rfl⟩ := h
  simp only [List.append_assoc]
  rcases hleft with ⟨d, rfl⟩ | hword
  · exact isNoLiteral_of_isoChars_append d (by simp [op.symbol_ne_nil])
  · exact isNoLiteral_of_isWord_append hword _

theorem otherForm_of_isSpelled {n : Text.Numeral} {s : List Char} (h : n.IsSpelled s) :
    IsoReading.ofChars s = .otherForm := by
  rw [IsoReading.ofChars_eq_otherForm_iff, Bool.eq_false_iff]
  intro hform
  obtain ⟨_, _, _, _, _, _, _, _, rfl, -⟩ := hasIsoForm_iff.mp hform
  exact absurd (h.tail '-' (by simp)) (by decide)

namespace OperandForm

/-- The readers find the form in the text. -/
def IsRead (f : OperandForm) (s : List Char) : Prop :=
  match f with
  | date d => IsoReading.ofChars s = .date d
  | integer n => IsoReading.ofChars s = .otherForm ∧ Text.Numeral.ofChars? s = some n ∧
      n.digits.length ≤ Text.Numeral.maxDigits
  | quantity q => IsNoLiteral s ∧ (cutArithmetic s).rest = [] ∧ Quantity.ofName? s = some q
  | weekday w => IsNoLiteral s ∧ (cutArithmetic s).rest = [] ∧ Quantity.ofName? s = none ∧
      Weekday.ofName? s = some w
  | movedDate d op offset => IsNoLiteral s ∧ IsCutInTwo s d.isoChars op offset ∧
      IsOffset offset ∧ ∃ e, IsMoved op (Text.Numeral.magnitude offset) d e
  | movedQuantity q op offset => IsNoLiteral s ∧
      (∃ left, Quantity.ofName? left = some q ∧ IsCutInTwo s left op offset) ∧ IsOffset offset ∧
      q.category = .date ∧ (op = .add ∨ op = .subtract)
  | combined q op offset => IsNoLiteral s ∧
      (∃ left, Quantity.ofName? left = some q ∧ IsCutInTwo s left op offset) ∧ IsOffset offset ∧
      q.category = .integer ∧ (op = .divide ∨ op = .modulo → Text.Numeral.magnitude offset ≠ 0)

end OperandForm

theorem IsCutInTwo.unique {s left left' right right' : List Char} {op op' : Arithmetic}
    (h : IsCutInTwo s left op right) (h' : IsCutInTwo s left' op' right') :
    left = left' ∧ op = op' ∧ right = right' := by
  obtain ⟨first, piece, hcut, rfl, rfl⟩ := h
  obtain ⟨first', piece', hcut', rfl, rfl⟩ := h'
  rw [hcut] at hcut'
  cases hcut'
  exact ⟨rfl, rfl, rfl⟩

theorem IsCutInTwo.rest_ne_nil {s left right : List Char} {op : Arithmetic}
    (h : IsCutInTwo s left op right) : (cutArithmetic s).rest ≠ [] := by
  obtain ⟨first, piece, hcut, -, -⟩ := h
  rw [hcut]
  exact List.cons_ne_nil _ _

theorem ofName?_isoChars (d : Date) :
    Quantity.ofName? d.isoChars = none ∧ Weekday.ofName? d.isoChars = none :=
  ofName?_eq_none_of_mem (trimmed_isoChars d) (show '-' ∈ d.isoChars by simp [Date.isoChars])
    (Text.isNoLetter_of_lt (by decide))

namespace OperandForm.IsRead

variable {s : List Char}

/-- A text that is neither a literal nor cut can be a name only. -/
theorem named {g : OperandForm} (hliteral : IsNoLiteral s) (hrest : (cutArithmetic s).rest = [])
    (hg : g.IsRead s) : (∃ q, g = quantity q ∧ Quantity.ofName? s = some q) ∨
      ∃ w, g = weekday w ∧ Quantity.ofName? s = none ∧ Weekday.ofName? s = some w := by
  cases g with
  | date d => exact absurd (hliteral.1.symm.trans hg) (by simp)
  | integer n => exact absurd (hliteral.2.symm.trans hg.2.1) (by simp)
  | quantity q => exact .inl ⟨q, rfl, hg.2.2⟩
  | weekday w => exact .inr ⟨w, rfl, hg.2.2⟩
  | movedDate d op offset => exact absurd hrest hg.2.1.rest_ne_nil
  | movedQuantity r op offset | combined r op offset =>
    obtain ⟨-, ⟨left, -, hcut⟩, -⟩ := hg
    exact absurd hrest hcut.rest_ne_nil

theorem quantity_unique {q : Quantity} {g : OperandForm} (h : (quantity q).IsRead s)
    (hg : g.IsRead s) : g = quantity q := by
  rcases named h.1 h.2.1 hg with ⟨r, rfl, hname⟩ | ⟨w, rfl, hname, -⟩
  · rw [Option.some.inj (hname.symm.trans h.2.2)]
  · exact absurd (hname.symm.trans h.2.2) (by simp)

theorem weekday_unique {w : Weekday} {g : OperandForm} (h : (weekday w).IsRead s)
    (hg : g.IsRead s) : g = weekday w := by
  rcases named h.1 h.2.1 hg with ⟨q, rfl, hname⟩ | ⟨x, rfl, -, hname⟩
  · exact absurd (hname.symm.trans h.2.2.1) (by simp)
  · rw [Option.some.inj (hname.symm.trans h.2.2.2)]

theorem unique {f g : OperandForm} (hf : f.IsRead s) (hg : g.IsRead s) : f = g := by
  cases f with
  | date d => cases g <;> simp_all [IsRead, IsNoLiteral]
  | integer n => cases g <;> simp_all [IsRead, IsNoLiteral]
  | quantity q => exact (quantity_unique hf hg).symm
  | weekday w => exact (weekday_unique hf hg).symm
  | movedDate d op offset =>
    cases g with
    | date e => simp_all [IsRead, IsNoLiteral]
    | integer n => simp_all [IsRead, IsNoLiteral]
    | quantity q => exact quantity_unique hg hf
    | weekday w => exact weekday_unique hg hf
    | movedDate e op' offset' =>
      obtain ⟨hleft, rfl, rfl⟩ := hf.2.1.unique hg.2.1
      rw [Date.isoChars_injective hleft]
    | movedQuantity r op' offset' | combined r op' offset' =>
      obtain ⟨-, ⟨left, hname, hcut⟩, -⟩ := hg
      obtain ⟨rfl, -, -⟩ := hf.2.1.unique hcut
      rw [(ofName?_isoChars _).1] at hname
      cases hname
  | movedQuantity q op offset | combined q op offset =>
    obtain ⟨hliteral, ⟨left, hname, hcut⟩, hoffset, hcategory, hop⟩ := id hf
    cases g with
    | date e => simp_all [IsRead, IsNoLiteral]
    | integer n => simp_all [IsRead, IsNoLiteral]
    | quantity q => exact quantity_unique hg hf
    | weekday w => exact weekday_unique hg hf
    | movedDate e op' offset' =>
      obtain ⟨rfl, -, -⟩ := hcut.unique hg.2.1
      rw [(ofName?_isoChars _).1] at hname
      cases hname
    | movedQuantity r op' offset' | combined r op' offset' =>
      obtain ⟨-, ⟨left', hname', hcut'⟩, -, hcategory', -⟩ := hg
      obtain ⟨rfl, rfl, rfl⟩ := hcut.unique hcut'
      simp_all

end OperandForm.IsRead

theorem IsOffset.ofChars? {offset : List Char} (h : IsOffset offset) :
    Text.Numeral.ofChars? offset = some ⟨false, offset⟩ :=
  Text.Numeral.ofChars?_eq_some_iff.mpr ⟨h.1, [], List.mem_cons_self, rfl⟩

theorem IsCutInTwo.trim_left {s left right : List Char} {op : Arithmetic}
    (h : IsCutInTwo s left op right) : Text.trim left = left := by
  obtain ⟨first, piece, -, rfl, -⟩ := h
  exact Text.trim_trim first

namespace OperandForm

variable {f : OperandForm} {s : List Char}

theorem IsRead.isWritten (hs : Trimmed s) (h : f.IsRead s) : f.IsWritten s := by
  cases f with
  | date d => exact IsoReading.ofChars_eq_date_iff.mp h
  | integer n => exact ⟨Text.Numeral.ofChars?_eq_some_iff.mp h.2.1, h.2.2⟩
  | quantity q =>
    have hname := Quantity.ofName?_eq_some_iff.mp h.2.2
    rwa [nameKey, Text.trim_of_trimmed hs] at hname
  | weekday w =>
    have hname := Weekday.ofName?_eq_some_iff.mp h.2.2.2
    rwa [nameKey, Text.trim_of_trimmed hs] at hname
  | movedDate d op offset =>
    obtain ⟨-, hcut, hoffset, hmoved⟩ := h
    exact ⟨(hcut.isArithmetic hs hoffset.ofChars?).1, hoffset, hmoved⟩
  | movedQuantity q op offset | combined q op offset =>
    obtain ⟨-, ⟨left, hname, hcut⟩, hoffset, hoperator⟩ := h
    rw [Quantity.ofName?_eq_some_iff, nameKey, hcut.trim_left] at hname
    exact ⟨⟨left, hname, (hcut.isArithmetic hs hoffset.ofChars?).1⟩, hoffset, hoperator⟩

theorem ofName?_eq_some {cs : List Char} {q : Quantity} (h : Text.lower cs = q.name.toList) :
    Quantity.ofName? cs = some q := by
  rw [Quantity.ofName?_eq_some_iff, nameKey, Text.trim_of_trimmed (Quantity.isWord h).trimmed, h]

theorem IsWritten.isRead (h : f.IsWritten s) : f.IsRead s := by
  cases f with
  | date d => exact IsoReading.ofChars_eq_date_iff.mpr h
  | integer n =>
    exact ⟨otherForm_of_isSpelled h.1, Text.Numeral.ofChars?_eq_some_iff.mpr h.1, h.2⟩
  | quantity q =>
    have hword := Quantity.isWord h
    exact ⟨isNoLiteral_of_isWord hword, by rw [cutArithmetic_of_isWord hword], ofName?_eq_some h⟩
  | weekday w =>
    have hword := Weekday.isWord h
    have hkey : nameKey s = w.name.toList := by rw [nameKey, Text.trim_of_trimmed hword.trimmed, h]
    refine ⟨isNoLiteral_of_isWord hword, by rw [cutArithmetic_of_isWord hword], ?_,
      Weekday.ofName?_eq_some_iff.mpr hkey⟩
    rw [Option.eq_none_iff_forall_ne_some]
    intro q hq
    rw [Quantity.ofName?_eq_some_iff, hkey] at hq
    exact q.name_ne_weekday w hq.symm
  | movedDate d op offset =>
    obtain ⟨harithmetic, hoffset, hmoved⟩ := h
    have hterm : IsTerm d.isoChars := .inl ⟨d, rfl⟩
    exact ⟨harithmetic.isNoLiteral hterm, harithmetic.isCutInTwo hterm hoffset.1, hoffset, hmoved⟩
  | movedQuantity q op offset | combined q op offset =>
    obtain ⟨⟨left, hname, harithmetic⟩, hoffset, hoperator⟩ := h
    have hterm : IsTerm left := .inr (Quantity.isWord hname)
    exact ⟨harithmetic.isNoLiteral hterm,
      ⟨left, ofName?_eq_some hname, harithmetic.isCutInTwo hterm hoffset.1⟩, hoffset, hoperator⟩

/-- No text is of two forms. -/
theorem IsWritten.unique {g : OperandForm} (hf : f.IsWritten s) (hg : g.IsWritten s) : f = g :=
  hf.isRead.unique hg.isRead

end OperandForm
end DateRules
