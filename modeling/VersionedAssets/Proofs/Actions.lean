/-! # Actions that keep what they did when they fail

An action takes a state to an outcome and a state, which is there also after a fault. Each equation
says what one building block of actions does to the state, so that a program of actions is run step
by step.
-/

namespace VersionedAssets.Actions

variable {ε σ α β : Type}

@[simp] theorem pure_apply (a : α) (state : σ) :
    (pure a : ExceptT ε (StateM σ) α) state = (.ok a, state) := rfl

@[simp] theorem throw_apply (fault : ε) (state : σ) :
    (throw fault : ExceptT ε (StateM σ) α) state = (.error fault, state) := rfl

@[simp] theorem get_apply (state : σ) :
    (get : ExceptT ε (StateM σ) σ) state = (.ok state, state) := rfl

@[simp] theorem modify_apply (change : σ → σ) (state : σ) :
    (modify change : ExceptT ε (StateM σ) PUnit) state = (.ok ⟨⟩, change state) := rfl

/-- The second action runs where the first one ended, unless that one failed. -/
theorem bind_apply (first : ExceptT ε (StateM σ) α) (next : α → ExceptT ε (StateM σ) β)
    (state : σ) :
    (first >>= next) state = match first state with
      | (.ok a, after) => next a after
      | (.error fault, after) => (.error fault, after) := by
  change ExceptT.bind first next state = _
  simp only [ExceptT.bind, ExceptT.mk, bind, StateT.bind]
  rcases first state with ⟨outcome, after⟩
  cases outcome <;> rfl

theorem bind_of_ok {first : ExceptT ε (StateM σ) α} {next : α → ExceptT ε (StateM σ) β}
    {state after : σ} {a : α} (hfirst : first state = (.ok a, after)) :
    (first >>= next) state = next a after := by
  rw [bind_apply, hfirst]

theorem bind_of_error {first : ExceptT ε (StateM σ) α} {next : α → ExceptT ε (StateM σ) β}
    {state after : σ} {fault : ε} (hfirst : first state = (.error fault, after)) :
    (first >>= next) state = (.error fault, after) := by
  rw [bind_apply, hfirst]

/-- What follows an action and leaves the state alone does not show in the state. -/
theorem bind_snd_of_inert (first : ExceptT ε (StateM σ) α)
    {next : α → ExceptT ε (StateM σ) β} (hinert : ∀ a state, (next a state).2 = state)
    (state : σ) : ((first >>= next) state).2 = (first state).2 := by
  rw [bind_apply]
  rcases first state with ⟨outcome, after⟩
  cases outcome with
  | error fault => rfl
  | ok a => exact hinert a after

/-- A handler of faults runs where the action failed. -/
theorem tryCatch_apply (action : ExceptT ε (StateM σ) α) (recover : ε → ExceptT ε (StateM σ) α)
    (state : σ) :
    (tryCatch action recover) state = match action state with
      | (.ok a, after) => (.ok a, after)
      | (.error fault, after) => recover fault after := by
  change ExceptT.tryCatch action recover state = _
  simp only [ExceptT.tryCatch, ExceptT.mk, bind, StateT.bind]
  rcases action state with ⟨outcome, after⟩
  cases outcome <;> rfl

theorem tryCatch_of_ok {action : ExceptT ε (StateM σ) α} {recover : ε → ExceptT ε (StateM σ) α}
    {state after : σ} {a : α} (haction : action state = (.ok a, after)) :
    (tryCatch action recover) state = (.ok a, after) := by
  rw [tryCatch_apply, haction]

theorem tryCatch_of_error {action : ExceptT ε (StateM σ) α}
    {recover : ε → ExceptT ε (StateM σ) α} {state after : σ} {fault : ε}
    (haction : action state = (.error fault, after)) :
    (tryCatch action recover) state = recover fault after := by
  rw [tryCatch_apply, haction]

/-! ## What holds wherever an action ends -/

/-- Begun where `P` holds, the action ends where `Q` holds, also when it fails. -/
def Leads (P Q : σ → Prop) (action : ExceptT ε (StateM σ) α) : Prop :=
  ∀ state, P state → Q (action state).2

variable {P Q : σ → Prop}

theorem leads_pure (a : α) : Leads P P (pure a : ExceptT ε (StateM σ) α) := fun _ => id

theorem leads_throw (fault : ε) : Leads P P (throw fault : ExceptT ε (StateM σ) α) := fun _ => id

theorem Leads.bind {first : ExceptT ε (StateM σ) α} {next : α → ExceptT ε (StateM σ) β}
    (hfirst : Leads P Q first) (hnext : ∀ a, Leads Q Q (next a)) : Leads P Q (first >>= next) := by
  intro state hstate
  have hmiddle := hfirst state hstate
  rw [bind_apply]
  rcases hrun : first state with ⟨outcome, after⟩
  rw [hrun] at hmiddle
  cases outcome with
  | error fault => exact hmiddle
  | ok a => exact hnext a after hmiddle

theorem Leads.tryCatch {action : ExceptT ε (StateM σ) α}
    {recover : ε → ExceptT ε (StateM σ) α} (haction : Leads P Q action)
    (hrecover : ∀ fault, Leads Q Q (recover fault)) : Leads P Q (tryCatch action recover) := by
  intro state hstate
  have hmiddle := haction state hstate
  rw [tryCatch_apply]
  rcases hrun : action state with ⟨outcome, after⟩
  rw [hrun] at hmiddle
  cases outcome with
  | error fault => exact hrecover fault after hmiddle
  | ok a => exact hmiddle

end VersionedAssets.Actions
