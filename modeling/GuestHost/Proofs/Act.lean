import GuestHost.Act

/-! Actions one after another. A relation between two states and what came out between them holds
of a run when it holds of the parts. -/
namespace GuestHost.Act

variable {ε ε' σ τ α β : Type} {x : Act ε σ α} {f : α → Act ε σ β}

theorem eq_of_result {s : σ} {r : Except ε α} (h : (x s).result = r) :
    x s = ⟨r, (x s).state, (x s).trace⟩ := by
  rw [← h]

theorem bind_of_ok {s s' : σ} {a : α} {t : List Output} (h : x s = ⟨.ok a, s', t⟩) :
    (x >>= f) s = ⟨(f a s').result, (f a s').state, t ++ (f a s').trace⟩ := by
  change Act.bind x f s = _
  rw [Act.bind, h]

theorem bind_of_error {s s' : σ} {e : ε} {t : List Output} (h : x s = ⟨.error e, s', t⟩) :
    (x >>= f) s = ⟨.error e, s', t⟩ := by
  change Act.bind x f s = _
  rw [Act.bind, h]

/-- A part that says nothing leaves no mark on the trace. -/
theorem bind_of_silent {s s' : σ} {a : α} (h : x s = ⟨.ok a, s', []⟩) :
    (x >>= f) s = f a s' :=
  bind_of_ok h

/-- Two continuations agree if they do where the first part leads. -/
theorem bind_congr {g : α → Act ε σ β} {s : σ}
    (h : ∀ {a s' t}, x s = ⟨.ok a, s', t⟩ → f a s' = g a s') : (x >>= f) s = (x >>= g) s := by
  rcases hx : x s with ⟨e | a, s', t⟩
  · rw [bind_of_error hx, bind_of_error hx]
  · rw [bind_of_ok hx, bind_of_ok hx, h hx]

/-- Where the second part leads from where the first one ended. -/
theorem bind_reaches {s s' s'' : σ} {a : α} {r : Except ε β} {t : List Output}
    (h : x s = ⟨.ok a, s', t⟩) (hf : ∃ t', f a s' = ⟨r, s'', t'⟩) :
    ∃ t', (x >>= f) s = ⟨r, s'', t'⟩ := by
  obtain ⟨t', ht'⟩ := hf
  exact ⟨t ++ t', by rw [bind_of_ok h, ht']⟩

/-- What succeeded as a whole succeeded in both parts. -/
theorem parts_of_bind {b : β} {s s'' : σ} {t'' : List Output}
    (h : (x >>= f) s = ⟨.ok b, s'', t''⟩) :
    ∃ a s' t t', x s = ⟨.ok a, s', t⟩ ∧ f a s' = ⟨.ok b, s'', t'⟩ ∧ t'' = t ++ t' := by
  rcases hx : x s with ⟨e | a, s', t⟩
  · rw [bind_of_error hx] at h
    cases h
  · rw [bind_of_ok hx] at h
    rcases hf : f a s' with ⟨r, s₁, t'⟩
    rw [hf] at h
    cases h
    exact ⟨a, s', t, t', rfl, hf, rfl⟩

/-- The same where the trace does not matter. -/
theorem ok_of_bind {b : β} {s : σ} (h : ((x >>= f) s).result = .ok b) :
    ∃ a s' t, x s = ⟨.ok a, s', t⟩ ∧ (f a s').result = .ok b ∧
      ((x >>= f) s).state = (f a s').state := by
  obtain ⟨a, s', t, t', hx, hf, -⟩ := parts_of_bind (eq_of_result h)
  exact ⟨a, s', t, hx, congrArg Outcome.result hf, (congrArg Outcome.state hf).symm⟩

/-- What failed as a whole failed in the first part, or in the second one behind it. -/
theorem error_of_bind {e : ε} {s s'' : σ} {t'' : List Output}
    (h : (x >>= f) s = ⟨.error e, s'', t''⟩) :
    x s = ⟨.error e, s'', t''⟩ ∨
      ∃ a s' t t', x s = ⟨.ok a, s', t⟩ ∧ f a s' = ⟨.error e, s'', t'⟩ ∧ t'' = t ++ t' := by
  rcases hx : x s with ⟨e' | a, s', t⟩
  · rw [bind_of_error hx] at h
    cases h
    exact .inl rfl
  · rw [bind_of_ok hx] at h
    rcases hf : f a s' with ⟨r, s₁, t'⟩
    rw [hf] at h
    cases h
    exact .inr ⟨a, s', t, t', rfl, hf, rfl⟩

theorem bind_pure_apply (x : Act ε σ α) (g : α → β) (s : σ) :
    (x >>= fun a => pure (g a)) s = ⟨(x s).result.map g, (x s).state, (x s).trace⟩ := by
  rcases hx : x s with ⟨e | a, s', t⟩
  · exact bind_of_error hx
  · rw [bind_of_ok hx]
    change (⟨_, _, t ++ []⟩ : Outcome _ _ _) = _
    rw [List.append_nil]
    rfl

theorem map_apply (g : α → β) (x : Act ε σ α) (s : σ) :
    (g <$> x) s = ⟨(x s).result.map g, (x s).state, (x s).trace⟩ :=
  bind_pure_apply x g s

@[simp] theorem get_bind (f : σ → Act ε σ β) (s : σ) : (get >>= f) s = f s s := rfl

@[simp] theorem modify_bind (g : σ → σ) (f : Unit → Act ε σ β) (s : σ) :
    (modify g >>= f) s = f () (g s) := rfl

@[simp] theorem note_bind (n : Notice) (f : Unit → Act ε σ β) (s : σ) :
    (note n >>= f) s = ⟨(f () s).result, (f () s).state, .note n :: (f () s).trace⟩ := rfl

@[simp] theorem ofExcept_ok_bind (a : α) : (ofExcept (.ok a) >>= f) = f a := rfl

@[simp] theorem ofExcept_error_bind (e : ε) : (ofExcept (.error e) >>= f) = fail e := rfl

@[simp] theorem fail_bind (e : ε) : (fail e >>= f) = fail e := rfl

/-- Kept by doing nothing, and by one run after another. -/
structure Law (R : σ → List Output → σ → Prop) : Prop where
  refl : ∀ s, R s [] s
  trans : ∀ {s t s' t' s''}, R s t s' → R s' t' s'' → R s (t ++ t') s''

/-- The same of a larger state, a part of which is looked at. -/
theorem Law.comap {R : σ → List Output → σ → Prop} (hR : Law R) (part : τ → σ) :
    Law fun s t s' => R (part s) t (part s') where
  refl s := hR.refl (part s)
  trans := hR.trans

/-- However the action ends. -/
def Keeps (R : σ → List Output → σ → Prop) (x : Act ε σ α) : Prop :=
  ∀ s, R s (x s).trace (x s).state

namespace Keeps

variable {R : σ → List Output → σ → Prop}

theorem pure (hR : Law R) (a : α) : Keeps R (Pure.pure a : Act ε σ α) :=
  hR.refl

theorem fail (hR : Law R) (e : ε) : Keeps R (fail e : Act ε σ α) :=
  hR.refl

theorem get (hR : Law R) : Keeps R (get : Act ε σ σ) :=
  hR.refl

theorem ofExcept (hR : Law R) (r : Except ε α) : Keeps R (ofExcept r : Act ε σ α) := by
  cases r with
  | ok a => exact hR.refl
  | error e => exact hR.refl

/-- The relation may reach back to where the first action did not start. -/
theorem bind_at (hR : Law R) {s₀ s : σ} (hx : R s₀ (x s).trace (x s).state)
    (hf : ∀ a, Keeps R (f a)) : R s₀ ((x >>= f) s).trace ((x >>= f) s).state := by
  rcases hxs : x s with ⟨_ | a, s', t⟩ <;> rw [hxs] at hx
  · rwa [bind_of_error hxs]
  · rw [bind_of_ok hxs]
    exact hR.trans hx (hf a s')

theorem bind (hR : Law R) (hx : Keeps R x) (hf : ∀ a, Keeps R (f a)) : Keeps R (x >>= f) :=
  fun s => bind_at hR (hx s) hf

theorem map (hR : Law R) (g : α → β) (hx : Keeps R x) : Keeps R (g <$> x) :=
  bind hR hx fun _ => hR.refl

theorem attempt (hx : Keeps R x) : Keeps R (attempt x : Act ε' σ (Except ε α)) :=
  hx

theorem ite {c : Prop} [Decidable c] {y : Act ε σ α} (hx : Keeps R x) (hy : Keeps R y) :
    Keeps R (if c then x else y) := by
  split
  · exact hx
  · exact hy

theorem on {R' : τ → List Output → τ → Prop} {part : τ → σ} {put : σ → τ → τ} (hx : Keeps R x)
    (hR : ∀ {s t s'}, R (part s) t s' → R' s t (put s' s)) : Keeps R' (on part put x) :=
  fun s => hR (hx (part s))

theorem mono {R' : σ → List Output → σ → Prop} (h : ∀ {s t s'}, R s t s' → R' s t s')
    (hx : Keeps R x) : Keeps R' x :=
  fun s => h (hx s)

end Keeps

/-- Holds of doing nothing, and of one action after another that has succeeded. -/
structure Flow (R : σ → List Output → Except ε Unit → σ → Prop) : Prop where
  refl : ∀ s, R s [] (.ok ()) s
  trans : ∀ {s t s' t' r s''}, R s t (.ok ()) s' → R s' t' r s'' → R s (t ++ t') r s''

theorem Flow.comap {R : σ → List Output → Except ε Unit → σ → Prop} (hR : Flow R) (part : τ → σ) :
    Flow fun s t r s' => R (part s) t r (part s') where
  refl s := hR.refl (part s)
  trans := hR.trans

@[simp] theorem map_unit (r : Except ε Unit) : (r.map fun _ => ()) = r := by
  cases r <;> rfl

/-- Like `Keeps`, with an eye on how the action ends. -/
def Follows (R : σ → List Output → Except ε Unit → σ → Prop) (x : Act ε σ α) : Prop :=
  ∀ s, R s (x s).trace ((x s).result.map fun _ => ()) (x s).state

namespace Follows

variable {R : σ → List Output → Except ε Unit → σ → Prop}

theorem pure (hR : Flow R) (a : α) : Follows R (Pure.pure a : Act ε σ α) :=
  hR.refl

theorem get (hR : Flow R) : Follows R (get : Act ε σ σ) :=
  hR.refl

theorem bind_at (hR : Flow R) {s₀ s : σ} (hx : R s₀ (x s).trace ((x s).result.map fun _ => ())
    (x s).state) (hf : ∀ a, Follows R (f a)) :
    R s₀ ((x >>= f) s).trace (((x >>= f) s).result.map fun _ => ()) ((x >>= f) s).state := by
  rcases hxs : x s with ⟨_ | a, s', t⟩ <;> rw [hxs] at hx
  · rw [bind_of_error hxs]
    exact hx
  · rw [bind_of_ok hxs]
    exact hR.trans hx (hf a s')

theorem bind (hR : Flow R) (hx : Follows R x) (hf : ∀ a, Follows R (f a)) :
    Follows R (x >>= f) :=
  fun s => bind_at hR (hx s) hf

theorem ite {c : Prop} [Decidable c] {y : Act ε σ α} (hx : Follows R x) (hy : Follows R y) :
    Follows R (if c then x else y) := by
  split
  · exact hx
  · exact hy

theorem on {R' : τ → List Output → Except ε Unit → τ → Prop} {part : τ → σ} {put : σ → τ → τ}
    (hx : Follows R x) (hR : ∀ {s t r s'}, R (part s) t r s' → R' s t r (put s' s)) :
    Follows R' (on part put x) :=
  fun s => hR (hx (part s))

end Follows

end GuestHost.Act
