/-! What it takes for a composed computation to succeed, and to fail. -/
namespace DateRules

variable {ε ε' α β : Type}

theorem ok_eq_ok_iff {a b : α} : (.ok a : Except ε α) = .ok b ↔ b = a := by
  rw [Except.ok.injEq, eq_comm]

theorem bind_eq_ok_iff {x : Except ε α} {f : α → Except ε β} {b : β} :
    (x >>= f) = .ok b ↔ ∃ a, x = .ok a ∧ f a = .ok b := by
  cases x with
  | error e => simp [bind, Except.bind]
  | ok a => simp [bind, Except.bind]

theorem bind_eq_error_iff {x : Except ε α} {f : α → Except ε β} {e : ε} :
    (x >>= f) = .error e ↔ x = .error e ∨ ∃ a, x = .ok a ∧ f a = .error e := by
  cases x with
  | error e => simp [bind, Except.bind]
  | ok a => simp [bind, Except.bind]

theorem map_eq_ok_iff {x : Except ε α} {f : α → β} {b : β} :
    f <$> x = .ok b ↔ ∃ a, x = .ok a ∧ b = f a := by
  cases x with
  | error e => simp [Functor.map, Except.map]
  | ok a => simp [Functor.map, Except.map, eq_comm]

theorem map_eq_error_iff {x : Except ε α} {f : α → β} {e : ε} :
    f <$> x = .error e ↔ x = .error e := by
  cases x with
  | error e => simp [Functor.map, Except.map]
  | ok a => simp [Functor.map, Except.map]

theorem mapError_eq_ok_iff {x : Except ε α} {f : ε → ε'} {a : α} :
    x.mapError f = .ok a ↔ x = .ok a := by
  cases x with
  | error e => exact ⟨nofun, nofun⟩
  | ok a =>
    constructor
    · rintro ⟨⟩
      rfl
    · rintro ⟨⟩
      rfl

theorem mapError_eq_error_iff {x : Except ε α} {f : ε → ε'} {e' : ε'} :
    x.mapError f = .error e' ↔ ∃ e, x = .error e ∧ e' = f e := by
  cases x with
  | error e =>
    constructor
    · rintro ⟨⟩
      exact ⟨e, rfl, rfl⟩
    · rintro ⟨_, ⟨⟩, rfl⟩
      rfl
  | ok a => exact ⟨nofun, nofun⟩

theorem mapM_map_eq_ok {f : β → Except ε α} {g : α → β} {as : List α}
    (h : ∀ a ∈ as, f (g a) = .ok a) : (as.map g).mapM f = .ok as := by
  induction as with
  | nil => rfl
  | cons a as ih =>
    obtain ⟨ha, has⟩ := List.forall_mem_cons.mp h
    rw [List.map_cons, List.mapM_cons, ha, ih has]
    rfl

/-- All that a list gives comes from its elements. -/
theorem exists_mem_of_mapM_eq_ok {f : α → Except ε β} {as : List α} {bs : List β}
    (h : as.mapM f = .ok bs) : ∀ b ∈ bs, ∃ a ∈ as, f a = .ok b := by
  induction as generalizing bs with
  | nil =>
    cases h
    exact nofun
  | cons a as ih =>
    simp only [List.mapM_cons, bind_eq_ok_iff] at h
    obtain ⟨b, hb, bs', hbs', h⟩ := h
    cases h
    intro c hc
    rcases List.mem_cons.mp hc with rfl | htail
    · exact ⟨a, List.mem_cons_self, hb⟩
    · obtain ⟨a', hmem, ha'⟩ := ih hbs' c htail
      exact ⟨a', List.mem_cons_of_mem _ hmem, ha'⟩

/-- Each element of a list that gives something has a share in it. -/
theorem exists_eq_ok_of_mapM_eq_ok {f : α → Except ε β} {as : List α} {bs : List β}
    (h : as.mapM f = .ok bs) : ∀ a ∈ as, ∃ b ∈ bs, f a = .ok b := by
  induction as generalizing bs with
  | nil => exact nofun
  | cons a as ih =>
    simp only [List.mapM_cons, bind_eq_ok_iff] at h
    obtain ⟨b, hb, bs', hbs', h⟩ := h
    cases h
    refine List.forall_mem_cons.mpr ⟨⟨b, List.mem_cons_self, hb⟩, fun a' hmem => ?_⟩
    obtain ⟨b', hb', ha'⟩ := ih hbs' a' hmem
    exact ⟨b', List.mem_cons_of_mem _ hb', ha'⟩

theorem exists_mapM_eq_ok {f : α → Except ε β} {P : β → Prop} {as : List α}
    (h : ∀ a ∈ as, ∃ b, f a = .ok b ∧ P b) : ∃ bs, as.mapM f = .ok bs ∧ ∀ b ∈ bs, P b := by
  induction as with
  | nil => exact ⟨[], rfl, nofun⟩
  | cons a as ih =>
    obtain ⟨⟨b, hb, hPb⟩, has⟩ := List.forall_mem_cons.mp h
    obtain ⟨bs, hbs, hPbs⟩ := ih has
    refine ⟨b :: bs, ?_, List.forall_mem_cons.mpr ⟨hPb, hPbs⟩⟩
    rw [List.mapM_cons, hb, hbs]
    rfl

theorem exists_mapM_eq_ok_iff {f : α → Except ε β} {as : List α} :
    (∃ bs, as.mapM f = .ok bs) ↔ ∀ a ∈ as, ∃ b, f a = .ok b := by
  constructor
  · rintro ⟨bs, hbs⟩ a ha
    obtain ⟨b, -, hb⟩ := exists_eq_ok_of_mapM_eq_ok hbs a ha
    exact ⟨b, hb⟩
  · intro h
    have hall : ∀ a ∈ as, ∃ b, f a = .ok b ∧ True := by simpa using h
    obtain ⟨bs, hbs, -⟩ := exists_mapM_eq_ok hall
    exact ⟨bs, hbs⟩

/-- A list fails as its first element that fails. -/
theorem mapM_eq_error_iff {f : α → Except ε β} {as : List α} {e : ε} :
    as.mapM f = .error e ↔ ∃ before a behind, as = before ++ a :: behind ∧
      (∀ b ∈ before, ∃ c, f b = .ok c) ∧ f a = .error e := by
  induction as with
  | nil => simp [pure, Except.pure]
  | cons a as ih =>
    have hcons : (a :: as).mapM f = .error e ↔
        f a = .error e ∨ (∃ b, f a = .ok b) ∧ as.mapM f = .error e := by
      simp [List.mapM_cons, bind_eq_error_iff, pure, Except.pure]
    rw [hcons, ih]
    constructor
    · rintro (ha | ⟨hok, before, a', behind, rfl, hbefore, ha'⟩)
      · exact ⟨[], a, as, rfl, nofun, ha⟩
      · exact ⟨a :: before, a', behind, rfl, List.forall_mem_cons.mpr ⟨hok, hbefore⟩, ha'⟩
    · rintro ⟨before, a', behind, heq, hbefore, ha'⟩
      cases before with
      | nil =>
        obtain ⟨rfl, rfl⟩ := List.cons.inj heq
        exact .inl ha'
      | cons b before =>
        obtain ⟨rfl, rfl⟩ := List.cons.inj heq
        obtain ⟨hok, hrest⟩ := List.forall_mem_cons.mp hbefore
        exact .inr ⟨hok, before, a', behind, rfl, hrest, ha'⟩

end DateRules
