/-! Where the result of a computation comes from. One that succeeds has succeeded in its first step
and in what follows; an error is that of the first step or of what follows, and under `mapError`
it comes from an error of the computation inside. What a list of computations gives is given by them
one by one. -/
namespace RulePipeline

variable {ε δ α β : Type}

theorem bind_eq_ok {x : Except ε α} {f : α → Except ε β} {b : β} :
    (x >>= f) = .ok b ↔ ∃ a, x = .ok a ∧ f a = .ok b := by
  cases x with
  | error cause => simp [bind, Except.bind]
  | ok a => simp [bind, Except.bind]

theorem bind_pure_eq_ok {x : Except ε α} {f : α → β} {b : β} :
    (x >>= fun a => pure (f a)) = .ok b ↔ ∃ a, x = .ok a ∧ f a = b := by
  cases x with
  | error cause => simp [bind, Except.bind]
  | ok a => simp [bind, Except.bind, pure, Except.pure]

theorem pure_eq_ok {a b : α} : (pure a : Except ε α) = .ok b ↔ a = b := by
  simp [pure, Except.pure]

theorem map_eq_ok {x : Except ε α} {f : α → β} {b : β} :
    f <$> x = .ok b ↔ ∃ a, x = .ok a ∧ f a = b := by
  cases x with
  | error cause => simp [Functor.map, Except.map]
  | ok a => simp [Functor.map, Except.map]

theorem bind_eq_error {x : Except ε α} {f : α → Except ε β} {e : ε} :
    (x >>= f) = .error e ↔ x = .error e ∨ ∃ a, x = .ok a ∧ f a = .error e := by
  cases x with
  | error cause => simp [bind, Except.bind]
  | ok a => simp [bind, Except.bind]

theorem bind_pure_eq_error {x : Except ε α} {f : α → β} {e : ε} :
    (x >>= fun a => pure (f a)) = .error e ↔ x = .error e := by
  cases x with
  | error cause => simp [bind, Except.bind]
  | ok a => simp [bind, Except.bind, pure, Except.pure]

@[simp]
theorem mapError_error (f : ε → δ) (e : ε) : (.error e : Except ε α).mapError f = .error (f e) :=
  rfl

@[simp]
theorem mapError_ok (f : ε → δ) (a : α) : (.ok a : Except ε α).mapError f = .ok a := rfl

theorem mapError_eq_error {x : Except ε α} {f : ε → δ} {e : δ} :
    x.mapError f = .error e ↔ ∃ cause, x = .error cause ∧ f cause = e := by
  cases x with
  | error cause => simp
  | ok a => simp

theorem mapError_eq_ok {x : Except ε α} {f : ε → δ} {a : α} : x.mapError f = .ok a ↔ x = .ok a := by
  cases x with
  | error e => simp
  | ok b => simp

@[simp]
theorem toOption_ok (a : α) : (.ok a : Except ε α).toOption = some a := rfl

theorem toOption_eq_some {x : Except ε α} {a : α} : x.toOption = some a ↔ x = .ok a := by
  cases x with
  | error e => simp [Except.toOption]
  | ok b => simp [Except.toOption]

theorem mem_of_mapM_ok {f : α → Except ε β} {items : List α} {found : List β}
    (read : items.mapM f = .ok found) : ∀ b ∈ found, ∃ a ∈ items, f a = .ok b := by
  induction items generalizing found with
  | nil =>
    cases read
    exact nofun
  | cons a rest ih =>
    rw [List.mapM_cons] at read
    obtain ⟨b, here, read⟩ := bind_eq_ok.mp read
    obtain ⟨later, there, rfl⟩ := bind_pure_eq_ok.mp read
    refine List.forall_mem_cons.mpr ⟨⟨a, List.mem_cons_self, here⟩, fun b member => ?_⟩
    obtain ⟨a, below, same⟩ := ih there b member
    exact ⟨a, List.mem_cons_of_mem _ below, same⟩

theorem mem_of_mapM_some {f : α → Option β} {items : List α} {found : List β}
    (read : items.mapM f = some found) : ∀ b ∈ found, ∃ a ∈ items, f a = some b := by
  induction items generalizing found with
  | nil =>
    cases read
    exact nofun
  | cons a rest ih =>
    rw [List.mapM_cons] at read
    obtain ⟨b, here, read⟩ := Option.bind_eq_some_iff.mp read
    obtain ⟨later, there, read⟩ := Option.bind_eq_some_iff.mp read
    cases read
    refine List.forall_mem_cons.mpr ⟨⟨a, List.mem_cons_self, here⟩, fun b member => ?_⟩
    obtain ⟨a, below, same⟩ := ih there b member
    exact ⟨a, List.mem_cons_of_mem _ below, same⟩

theorem mapM_map_pure {m : Type → Type} [Monad m] [LawfulMonad m] {f : β → m α} {g : α → β}
    {items : List α} (each : ∀ a ∈ items, f (g a) = pure a) :
    (items.map g).mapM f = pure items := by
  induction items with
  | nil => simp
  | cons a rest ih =>
    have ⟨here, later⟩ := List.forall_mem_cons.mp each
    rw [List.map_cons, List.mapM_cons, here, ih later]
    simp

end RulePipeline
