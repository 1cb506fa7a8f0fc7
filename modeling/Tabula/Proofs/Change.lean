import Tabula.Change

/-!
# Running changes

What each way of building a change does to the state it is run on.
-/

namespace Tabula
namespace Change

variable {ε σ τ α β : Type}

@[simp] theorem run_pure (a : α) (s : σ) :
    (pure a : Change ε σ α).run.run s = (.ok a, s) := rfl

@[simp] theorem run_throw (e : ε) (s : σ) :
    (throw e : Change ε σ α).run.run s = (.error e, s) := rfl

@[simp] theorem run_get (s : σ) :
    (get : Change ε σ σ).run.run s = (.ok s, s) := rfl

@[simp] theorem run_modify (f : σ -> σ) (s : σ) :
    (modify f : Change ε σ Unit).run.run s = (.ok (), f s) := rfl

@[simp] theorem run_lift (result : Except ε α) (s : σ) :
    (liftM result : Change ε σ α).run.run s = (result, s) := rfl

theorem run_bind (first : Change ε σ α) (next : α -> Change ε σ β) (s : σ) :
    (first >>= next).run.run s =
      match first.run.run s with
      | (.ok a, s') => (next a).run.run s'
      | (.error e, s') => (.error e, s') := by
  rw [ExceptT.run_bind, StateT.run_bind]
  rcases first.run.run s with ⟨result, s'⟩
  cases result with
  | ok a => rfl
  | error e => rfl

theorem run_bind_eq_ok_iff {first : Change ε σ α} {next : α -> Change ε σ β} {s s' : σ} {b : β} :
    (first >>= next).run.run s = (.ok b, s') <->
      exists a between, first.run.run s = (.ok a, between) ∧
        (next a).run.run between = (.ok b, s') := by
  rw [run_bind]
  rcases first.run.run s with ⟨result, between⟩
  constructor
  · intro h
    cases result with
    | ok a => exact ⟨a, between, rfl, h⟩
    | error e => cases h
  · intro h
    rcases h with ⟨a, s'', hfirst, hnext⟩
    cases hfirst
    exact hnext

theorem run_get_bind (next : σ -> Change ε σ α) (s : σ) :
    (get >>= next).run.run s = (next s).run.run s := rfl

theorem run_lift_bind_eq_ok_iff {result : Except ε α} {next : α -> Change ε σ β} {s s' : σ}
    {b : β} :
    ((liftM result : Change ε σ α) >>= next).run.run s = (.ok b, s') <->
      exists a, result = .ok a ∧ (next a).run.run s = (.ok b, s') := by
  rw [run_bind, run_lift]
  cases result with
  | ok a => simp
  | error e =>
      constructor
      · intro h
        cases h
      · intro h
        rcases h with ⟨a, hresult, _⟩
        cases hresult

@[simp] theorem run_within (change : Change ε τ α) (part : τ) (replace : τ -> σ -> σ) (s : σ) :
    (change.within part replace).run.run s =
      ((change.run.run part).1, replace (change.run.run part).2 s) := rfl

/-- A list of changes each of which succeeds leaves what the changes make of the state in turn. -/
theorem run_forM_ok {change : α -> Change ε σ Unit} {after : σ -> α -> σ}
    (h : forall a s, (change a).run.run s = (.ok (), after s a)) (items : List α) (s : σ) :
    (items.forM change).run.run s = (.ok (), items.foldl after s) := by
  induction items generalizing s with
  | nil => rfl
  | cons a rest ih =>
      show (change a >>= fun _ => rest.forM change).run.run s = _
      rw [run_bind, h]
      exact ih (after s a)

/-!
# Changes seen through a view
-/

/-- What a change makes of a state agrees with a step of what a view shows of the state.  Both fail
alike and the state stays as it was, or both succeed alike and the state keeps a property. -/
inductive Follows (view : σ -> τ) (keeps : σ -> Prop) (s : σ) :
    Except ε α × σ -> Except ε (α × τ) -> Prop where
  | failed (e : ε) : Follows view keeps s (.error e, s) (.error e)
  | done (a : α) (s' : σ) (h : keeps s') : Follows view keeps s (.ok a, s') (.ok (a, view s'))

variable {view : σ -> τ} {keeps : σ -> Prop} {s : σ}

theorem Follows.done_of_eq (a : α) {s' : σ} (h : keeps s') {t : τ} (ht : view s' = t) :
    Follows view keeps s ((.ok a : Except ε α), s') (.ok (a, t)) :=
  ht ▸ .done a s' h

theorem Follows.imp {keeps' : σ -> Prop} {result : Except ε α × σ} {expected : Except ε (α × τ)}
    (h : Follows view keeps s result expected)
    (hkeeps : forall a s', expected = .ok (a, view s') -> keeps s' -> keeps' s') :
    Follows view keeps' s result expected := by
  cases h with
  | failed e => exact .failed e
  | done a s' hs' => exact .done a s' (hkeeps a s' rfl hs')

theorem Follows.result_eq {result : Except ε α × σ} {expected : Except ε (α × τ)}
    (h : Follows view keeps s result expected) {a : α} {t : τ} (hok : expected = .ok (a, t)) :
    exists s', result = (.ok a, s') ∧ view s' = t := by
  cases h with
  | failed e => cases hok
  | done b s' hs' =>
      cases hok
      exact ⟨s', rfl, rfl⟩

theorem Follows.expected_eq {result : Except ε α × σ} {expected : Except ε (α × τ)}
    (h : Follows view keeps s result expected) {a : α} (hok : result.1 = .ok a) :
    expected = .ok (a, view result.2) := by
  cases h with
  | failed e => cases hok
  | done b s' hs' =>
      cases hok
      rfl

theorem Follows.error_eq {result : Except ε α × σ} {expected : Except ε (α × τ)}
    (h : Follows view keeps s result expected) {e : ε} (herror : expected = .error e) :
    result = (.error e, s) := by
  cases h with
  | failed e' =>
      cases herror
      rfl
  | done a s' hs' => cases herror

/-- A change that fails leaves the state as it was. -/
theorem Follows.eq_of_error {result : Except ε α × σ} {expected : Except ε (α × τ)}
    (h : Follows view keeps s result expected) {e : ε} (herror : result.1 = .error e) :
    result.2 = s := by
  cases h with
  | failed e' => rfl
  | done a s' hs' => cases herror

/-- What a view shows after a change has a property that the view had before and that the step keeps. -/
theorem Follows.viewed {result : Except ε α × σ} {expected : Except ε (α × τ)}
    (h : Follows view keeps s result expected) (property : τ -> Prop) (hs : property (view s))
    (hstep : forall a t, expected = .ok (a, t) -> property t) : property (view result.2) := by
  cases h with
  | failed e => exact hs
  | done a s' hkeeps => exact hstep a (view s') rfl

theorem Follows.state {result : Except ε α × σ} {expected : Except ε (α × τ)}
    (h : Follows view keeps s result expected) (hs : keeps s) : keeps result.2 := by
  cases h with
  | failed e => exact hs
  | done a s' hkeeps => exact hkeeps

end Change
end Tabula
