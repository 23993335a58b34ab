namespace PathQuery

variable {ε δ α β : Type} {good : α → Prop} {good' : β → Prop} {bad : ε → Prop}

theorem bind_eq_ok {x : Except ε α} {f : α → Except ε β} {b : β} :
    x >>= f = .ok b ↔ ∃ a, x = .ok a ∧ f a = .ok b := by
  cases x with
  | error e => exact ⟨nofun, nofun⟩
  | ok a => exact ⟨fun h => ⟨a, rfl, h⟩, fun ⟨_, ha, h⟩ => Except.ok.inj ha ▸ h⟩

theorem bind_eq_error {x : Except ε α} {f : α → Except ε β} {e : ε} :
    x >>= f = .error e ↔ x = .error e ∨ ∃ a, x = .ok a ∧ f a = .error e := by
  cases x <;> simp [Bind.bind, Except.bind]

theorem mapError_eq_error {x : Except ε α} {f : ε → δ} {d : δ} :
    x.mapError f = .error d ↔ ∃ e, x = .error e ∧ d = f e := by
  constructor
  · intro h
    cases x with
    | error e => cases h; exact ⟨e, rfl, rfl⟩
    | ok a => cases h
  · rintro ⟨e, rfl, rfl⟩
    rfl

theorem map_eq_error {x : Except ε α} {f : α → β} {e : ε} : x.map f = .error e ↔ x = .error e := by
  cases x <;> simp [Except.map]

theorem ok_bind (a : α) (f : α → Except ε β) : Except.ok a >>= f = f a := rfl

theorem pure_eq_ok {a b : α} : (pure a : Except ε α) = .ok b ↔ a = b :=
  ⟨Except.ok.inj, congrArg _⟩

def Gives (good : α → Prop) (bad : ε → Prop) : Except ε α → Prop
  | .ok a => good a
  | .error e => bad e

namespace Gives

theorem of_cases {x : Except ε α} (hok : ∀ a, x = .ok a → good a)
    (herror : ∀ e, x = .error e → bad e) : Gives good bad x := by
  cases x with
  | ok a => exact hok a rfl
  | error e => exact herror e rfl

theorem mono {x : Except ε α} {more : α → Prop} (h : Gives good bad x)
    (hmore : ∀ a, good a → more a) : Gives more bad x := by
  cases x with
  | ok a => exact hmore a h
  | error e => exact h

theorem bind {x : Except ε α} {f : α → Except ε β} (h : Gives good bad x)
    (hf : ∀ a, good a → Gives good' bad (f a)) : Gives good' bad (x >>= f) := by
  cases x with
  | ok a => exact hf a h
  | error e => exact h

theorem map {x : Except ε α} {f : α → β} (h : Gives good bad x)
    (hf : ∀ a, good a → good' (f a)) : Gives good' bad (x.map f) := by
  cases x with
  | ok a => exact hf a h
  | error e => exact h

theorem mapError {x : Except ε α} {f : ε → δ} {bad' : δ → Prop} (h : Gives good bad x)
    (hf : ∀ e, bad e → bad' (f e)) : Gives good bad' (x.mapError f) := by
  cases x with
  | ok a => exact h
  | error e => exact hf e h

theorem any (x : Except ε α) : Gives (fun _ => True) (fun _ => True) x := by
  cases x <;> trivial

theorem mapM {γ : Type} {xs : List γ} {f : γ → Except ε α} (h : ∀ x ∈ xs, Gives good bad (f x)) :
    Gives (∀ a ∈ ·, good a) bad (xs.mapM f) := by
  induction xs with
  | nil => exact nofun
  | cons x xs ih =>
    obtain ⟨hx, hxs⟩ := List.forall_mem_cons.mp h
    rw [List.mapM_cons]
    exact hx.bind fun a ha => (ih hxs).bind fun as has => List.forall_mem_cons.mpr ⟨ha, has⟩

end Gives

abbrev Fails (bad : ε → Prop) (x : Except ε α) : Prop := Gives (fun _ => True) bad x

namespace Fails

theorem bind {x : Except ε α} {f : α → Except ε β} (h : Fails bad x) (hf : ∀ a, Fails bad (f a)) :
    Fails bad (x >>= f) := Gives.bind h fun a _ => hf a

theorem map {x : Except ε α} (h : Fails bad x) (f : α → β) : Fails bad (x.map f) :=
  Gives.map h fun _ _ => trivial

theorem of_error {x : Except ε α} {e : ε} (h : Fails bad x) (he : x = .error e) : bad e := by
  subst he
  exact h

end Fails

end PathQuery
