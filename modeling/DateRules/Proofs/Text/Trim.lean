import DateRules.Text.Blank

/-!
Trimming: a text is some blanks, what is left of it, and more blanks, and nothing else can be left.
-/
namespace DateRules.Text

def AllBlank (cs : List Char) : Prop := ∀ c ∈ cs, isBlank c = true

structure Trimmed (cs : List Char) : Prop where
  head : ∀ c ∈ cs.head?, isBlank c = false
  last : ∀ c ∈ cs.getLast?, isBlank c = false

theorem dropWhile_of_head {p : Char → Bool} {cs : List Char} (h : ∀ c ∈ cs.head?, p c = false) :
    cs.dropWhile p = cs := by
  cases cs with
  | nil => rfl
  | cons c cs =>
    rw [List.dropWhile_cons_of_neg]
    simp [h c rfl]

theorem takeWhile_append_of_head {p : Char → Bool} {cs behind : List Char}
    (h : ∀ c ∈ cs, p c = true) (hhead : ∀ c ∈ behind.head?, p c = false) :
    (cs ++ behind).takeWhile p = cs := by
  rw [List.takeWhile_append_of_pos h]
  cases behind with
  | nil => exact List.append_nil cs
  | cons c behind => rw [List.takeWhile_cons_of_neg (by simp [hhead c rfl]), List.append_nil]

theorem head_dropWhile_isBlank (cs : List Char) :
    ∀ c ∈ (cs.dropWhile isBlank).head?, isBlank c = false := by
  intro c hc
  have hnot := List.head?_dropWhile_not isBlank cs
  rw [Option.mem_def.mp hc] at hnot
  exact hnot

theorem trimLeft_append {blanks : List Char} (h : AllBlank blanks) (cs : List Char) :
    trimLeft (blanks ++ cs) = trimLeft cs :=
  List.dropWhile_append_of_pos h

theorem trimRight_append {blanks : List Char} (h : AllBlank blanks) (cs : List Char) :
    trimRight (cs ++ blanks) = trimRight cs := by
  unfold trimRight
  rw [List.reverse_append, List.dropWhile_append_of_pos]
  intro c hc
  exact h c (List.mem_reverse.mp hc)

theorem Trimmed.trimRight_eq {cs : List Char} (h : Trimmed cs) : trimRight cs = cs := by
  unfold trimRight
  rw [dropWhile_of_head, List.reverse_reverse]
  rw [List.head?_reverse]
  exact h.last

/-- What stands between blanks is what is left. -/
theorem trim_append {before core behind : List Char} (hbefore : AllBlank before)
    (hcore : Trimmed core) (hbehind : AllBlank behind) :
    trim (before ++ core ++ behind) = core := by
  have hleft : trimLeft (before ++ core ++ behind) = core ++ trimLeft behind ∨
      trimLeft (before ++ core ++ behind) = core ++ behind := by
    rw [List.append_assoc, trimLeft_append hbefore]
    cases core with
    | nil => exact .inl rfl
    | cons c cs => exact .inr (dropWhile_of_head hcore.head)
  have hnothing : trimLeft behind = [] := by
    have := trimLeft_append hbehind []
    rwa [List.append_nil] at this
  unfold trim
  rcases hleft with heq | heq
  · rw [heq, hnothing, List.append_nil, hcore.trimRight_eq]
  · rw [heq, trimRight_append hbehind, hcore.trimRight_eq]

theorem trim_of_trimmed {cs : List Char} (h : Trimmed cs) : trim cs = cs := by
  have hblank : AllBlank [] := nofun
  have := trim_append hblank h hblank
  rwa [List.nil_append, List.append_nil] at this

theorem exists_trimLeft (cs : List Char) : ∃ before, AllBlank before ∧ cs = before ++ trimLeft cs :=
  ⟨cs.takeWhile isBlank, List.all_eq_true.mp List.all_takeWhile,
    List.takeWhile_append_dropWhile.symm⟩

theorem exists_trimRight (cs : List Char) :
    ∃ behind, AllBlank behind ∧ cs = trimRight cs ++ behind := by
  obtain ⟨before, hbefore, heq⟩ := exists_trimLeft cs.reverse
  refine ⟨before.reverse, fun c hc => hbefore c (List.mem_reverse.mp hc), ?_⟩
  have := congrArg List.reverse heq
  rwa [List.reverse_reverse, List.reverse_append] at this

theorem exists_trim (cs : List Char) :
    ∃ before behind, AllBlank before ∧ AllBlank behind ∧ cs = before ++ trim cs ++ behind := by
  obtain ⟨before, hbefore, hleft⟩ := exists_trimLeft cs
  obtain ⟨behind, hbehind, hright⟩ := exists_trimRight (trimLeft cs)
  refine ⟨before, behind, hbefore, hbehind, ?_⟩
  rw [List.append_assoc]
  change cs = before ++ (trimRight (trimLeft cs) ++ behind)
  rw [← hright]
  exact hleft

theorem isInfix_trim (cs : List Char) : trim cs <:+: cs := by
  obtain ⟨before, behind, -, -, heq⟩ := exists_trim cs
  exact ⟨before, behind, heq.symm⟩

theorem head?_trimRight (cs : List Char) : ∀ c ∈ (trimRight cs).head?, c ∈ cs.head? := by
  intro c hc
  obtain ⟨behind, -, heq⟩ := exists_trimRight cs
  rw [heq]
  cases htrim : trimRight cs with
  | nil => simp [htrim] at hc
  | cons a as => simpa [htrim] using hc

theorem trimmed_trim (cs : List Char) : Trimmed (trim cs) where
  head c hc := head_dropWhile_isBlank cs c (head?_trimRight _ c hc)
  last c hc := by
    unfold trim trimRight at hc
    rw [List.getLast?_reverse] at hc
    exact head_dropWhile_isBlank _ c hc

theorem Trimmed.around {left middle right : List Char} (hleft : Trimmed left)
    (hright : Trimmed right) (hmiddle : middle ≠ []) (hblank : ∀ c ∈ middle, isBlank c = false) :
    Trimmed (left ++ middle ++ right) where
  head c hc := by
    rw [List.append_assoc, List.head?_append, List.head?_append, Option.mem_def,
      Option.or_eq_some_iff, Option.or_eq_some_iff] at hc
    rcases hc with hfirst | ⟨-, hfirst | ⟨hnone, -⟩⟩
    · exact hleft.head c hfirst
    · exact hblank c (List.mem_of_mem_head? hfirst)
    · exact absurd (List.head?_eq_none_iff.mp hnone) hmiddle
  last c hc := by
    rw [List.getLast?_append, List.getLast?_append, Option.mem_def, Option.or_eq_some_iff,
      Option.or_eq_some_iff] at hc
    rcases hc with hfinal | ⟨-, hfinal | ⟨hnone, -⟩⟩
    · exact hright.last c hfinal
    · exact hblank c (List.mem_of_mem_getLast? hfinal)
    · exact absurd (List.getLast?_eq_none_iff.mp hnone) hmiddle

@[simp] theorem trim_trim (cs : List Char) : trim (trim cs) = trim cs :=
  trim_of_trimmed (trimmed_trim cs)

theorem trimLeft_append_of_head (cs : List Char) {ds : List Char}
    (h : ∀ c ∈ ds.head?, isBlank c = false) : trimLeft (cs ++ ds) = trimLeft cs ++ ds := by
  unfold trimLeft
  rw [List.dropWhile_append]
  split
  · rename_i hnil
    rw [List.isEmpty_iff.mp hnil, dropWhile_of_head h, List.nil_append]
  · rfl

theorem trimRight_append_of_last {cs : List Char} (ds : List Char)
    (h : ∀ c ∈ cs.getLast?, isBlank c = false) : trimRight (cs ++ ds) = cs ++ trimRight ds := by
  have hleft := @trimLeft_append_of_head ds.reverse cs.reverse (by rwa [List.head?_reverse])
  unfold trimLeft at hleft
  unfold trimRight
  rw [List.reverse_append, hleft, List.reverse_append, List.reverse_reverse]

@[simp] theorem trim_trimLeft (cs : List Char) : trim (trimLeft cs) = trim cs := by
  have htwice : trimLeft (trimLeft cs) = trimLeft cs :=
    dropWhile_of_head (head_dropWhile_isBlank cs)
  unfold trim
  rw [htwice]

@[simp] theorem trim_trimRight (cs : List Char) : trim (trimRight cs) = trim cs := by
  obtain ⟨before, behind, hbefore, hbehind, heq⟩ := exists_trim (trimRight cs)
  obtain ⟨blanks, hblanks, hcs⟩ := exists_trimRight cs
  have hall : AllBlank (behind ++ blanks) := List.forall_mem_append.mpr ⟨hbehind, hblanks⟩
  have htrim := trim_append hbefore (trimmed_trim (trimRight cs)) hall
  rw [← List.append_assoc, ← heq, ← hcs] at htrim
  exact htrim.symm

/-- Blanks in front of a piece of a trimmed text stand inside the text. -/
theorem exists_trim_of_append {first behind : List Char} (h : Trimmed (first ++ behind)) :
    ∃ blanks, AllBlank blanks ∧ first = trim first ++ blanks := by
  obtain ⟨before, blanks, hbefore, hblanks, heq⟩ := exists_trim first
  refine ⟨blanks, hblanks, ?_⟩
  cases before with
  | nil => exact heq
  | cons c before =>
    have hhead : isBlank c = false := by
      apply h.head
      rw [heq]
      rfl
    rw [hbefore c List.mem_cons_self] at hhead
    cases hhead

theorem exists_trim_of_append_right {before last : List Char} (h : Trimmed (before ++ last)) :
    ∃ blanks, AllBlank blanks ∧ last = blanks ++ trim last := by
  obtain ⟨blanks, behind, hblanks, hbehind, heq⟩ := exists_trim last
  refine ⟨blanks, hblanks, ?_⟩
  rcases List.eq_nil_or_concat behind with rfl | ⟨behind, c, rfl⟩
  · rwa [List.append_nil] at heq
  · have hlast : isBlank c = false := by
      apply h.last
      rw [heq]
      simp
    rw [hbehind c (by simp)] at hlast
    cases hlast

end DateRules.Text
