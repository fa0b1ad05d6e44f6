import AdSearch.Log.Logged

/-!
# Outcomes of computations

When a sequence of steps has a result, each step has one.  Two sequences agree when their steps do.
-/

namespace AdSearch.Proofs.Outcome

open AdSearch.Log

variable {ε ε' α β : Type}

/-! ## Sequences of steps -/

theorem ok_bind (a : α) (f : α → Except ε β) : (Except.ok a >>= f) = f a := rfl

theorem error_bind (e : ε) (f : α → Except ε β) : (Except.error e >>= f) = .error e := rfl

theorem bind_eq_ok {x : Except ε α} {f : α → Except ε β} {b : β} :
    (x >>= f) = .ok b ↔ ∃ a, x = .ok a ∧ f a = .ok b := by
  cases x with
  | error e => simp [bind, Except.bind]
  | ok a => simp [bind, Except.bind]

theorem exists_eq_ok_iff {x : Except ε α} : (∃ a, x = .ok a) ↔ ∀ e, x ≠ .error e := by
  cases x with
  | error e => simp
  | ok a => simp

theorem map_eq_ok {x : Except ε α} {f : α → β} {b : β} :
    x.map f = .ok b ↔ ∃ a, x = .ok a ∧ f a = b := by
  cases x with
  | ok a =>
    change Except.ok (f a) = Except.ok b ↔ _
    simp
  | error e =>
    change Except.error e = Except.ok b ↔ _
    simp

theorem mapError_eq_ok {x : Except ε α} {f : ε → ε'} {a : α} :
    x.mapError f = .ok a ↔ x = .ok a := by
  cases x with
  | ok b =>
    change Except.ok b = Except.ok a ↔ _
    rw [Except.ok.injEq, Except.ok.injEq]
  | error e =>
    change Except.error (f e) = Except.ok a ↔ _
    simp

/-! ## Computations that fail in one way -/

/-- A computation fails exactly under a condition, and always with the same error. -/
structure FailsIff (p : Prop) (e : ε) (x : Except ε α) : Prop where
  fails : p → x = .error e
  gives : ¬p → ∃ a, x = .ok a

section FailsIff

variable {p q : Prop} {e : ε} {x : Except ε α}

theorem failsIff_ok (h : ¬p) (a : α) : FailsIff p e (.ok a) :=
  ⟨fun hp => absurd hp h, fun _ => ⟨a, rfl⟩⟩

theorem failsIff_error (h : p) : FailsIff p e (.error e : Except ε α) :=
  ⟨fun _ => rfl, fun hp => absurd h hp⟩

theorem FailsIff.congr (h : FailsIff p e x) (hpq : q ↔ p) : FailsIff q e x :=
  ⟨fun hq => h.fails (hpq.mp hq), fun hq => h.gives (mt hpq.mpr hq)⟩

theorem FailsIff.map (h : FailsIff p e x) (f : α → β) : FailsIff p e (x.map f) := by
  constructor
  · intro hp
    rw [h.fails hp]
    rfl
  · intro hp
    obtain ⟨a, rfl⟩ := h.gives hp
    exact ⟨f a, rfl⟩

/-- A sequence fails if its first step does, or what comes after. -/
theorem FailsIff.bind {f : α → Except ε β} (h : FailsIff p e x) (hrest : ∀ a, FailsIff q e (f a)) :
    FailsIff (p ∨ q) e (x >>= f) := by
  by_cases hp : p
  · rw [h.fails hp]
    exact failsIff_error (Or.inl hp)
  · obtain ⟨a, rfl⟩ := h.gives hp
    exact (hrest a).congr (by simp [hp])

theorem FailsIff.bind_ok (h : FailsIff p e x) (f : α → β) :
    FailsIff p e (x >>= fun a => .ok (f a)) :=
  (h.bind fun a => failsIff_ok id (f a)).congr (by simp)

theorem FailsIff.eq_error_iff (h : FailsIff p e x) (e' : ε) : x = .error e' ↔ p ∧ e' = e := by
  by_cases hp : p
  · rw [h.fails hp, Except.error.injEq]
    simp [hp, eq_comm]
  · obtain ⟨a, rfl⟩ := h.gives hp
    simp [hp]

end FailsIff

/-! ## Steps that log -/

theorem pure_bind_eq (a : α) (f : α → Logged ε β) : (pure a >>= f) = f a := rfl

/-- The result of a sequence of steps does not depend on what they log. -/
theorem result_bind (x : Logged ε α) (f : α → Logged ε β) :
    (x >>= f).result = x.result >>= fun a => (f a).result := by
  change (x.bind f).result = _
  cases h : x.result with
  | error e => rw [Logged.bind_of_error h]; rfl
  | ok a => rw [Logged.bind_of_ok h]; rfl

theorem result_bind_eq_ok {x : Logged ε α} {f : α → Logged ε β} {b : β} :
    (x >>= f).result = .ok b ↔ ∃ a, x.result = .ok a ∧ (f a).result = .ok b := by
  rw [result_bind, bind_eq_ok]

@[simp] theorem result_pure (a : α) : (pure a : Logged ε α).result = .ok a := rfl

@[simp] theorem result_write (line : Line) : (Logged.write line : Logged ε Unit).result = .ok () :=
  rfl

/-! ## Computations that agree -/

/-- Two computations agree when they fail with the same error, or have related values. -/
inductive Agrees (R : α → β → Prop) : Except ε α → Except ε β → Prop
  | ok {a : α} {b : β} : R a b → Agrees R (.ok a) (.ok b)
  | error (e : ε) : Agrees R (.error e) (.error e)

/-- Computations agree if their first steps do, and the rest does on related values. -/
theorem Agrees.bind {γ δ : Type} {R : α → β → Prop} {S : γ → δ → Prop} {x : Except ε α}
    {y : Except ε β} (h : Agrees R x y) {f : α → Except ε γ} {g : β → Except ε δ}
    (hrest : ∀ a b, x = .ok a → R a b → Agrees S (f a) (g b)) : Agrees S (x >>= f) (y >>= g) := by
  cases h with
  | ok hab => exact hrest _ _ rfl hab
  | error e => exact .error e

/-- Computations with the same first step agree if the rest does on each of its values. -/
theorem agrees_bind {γ δ : Type} {S : γ → δ → Prop} {x : Except ε α} {f : α → Except ε γ}
    {g : α → Except ε δ} (hrest : ∀ a, x = .ok a → Agrees S (f a) (g a)) :
    Agrees S (x >>= f) (x >>= g) := by
  cases x with
  | ok a => exact hrest a rfl
  | error e => exact .error e

end AdSearch.Proofs.Outcome
