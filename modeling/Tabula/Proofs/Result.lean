import Mathlib.Data.List.Forall2

/-!
# Results that may be errors

When a chain of fallible steps succeeds, each of its steps does.
-/

namespace Tabula
namespace Result

variable {ε α β : Type}

@[simp] theorem ok_bind (a : α) (next : α -> Except ε β) : (Except.ok a >>= next) = next a := rfl

@[simp] theorem error_bind (e : ε) (next : α -> Except ε β) :
    (Except.error e >>= next) = Except.error e := rfl

@[simp] theorem pure_eq_ok (a : α) : (pure a : Except ε α) = Except.ok a := rfl

@[simp] theorem throw_eq_error (e : ε) : (throw e : Except ε α) = Except.error e := rfl

theorem bind_eq_ok_iff {first : Except ε α} {next : α -> Except ε β} {b : β} :
    first >>= next = .ok b <-> exists a, first = .ok a ∧ next a = .ok b := by
  cases first with
  | error e => simp
  | ok a => simp

theorem mapError_eq_ok_iff {ε' : Type} {f : ε -> ε'} {result : Except ε α} {a : α} :
    result.mapError f = .ok a <-> result = .ok a := by
  cases result with
  | error e =>
      constructor
      · intro h
        cases h
      · intro h
        cases h
  | ok b =>
      show (Except.ok b : Except ε' α) = .ok a <-> (Except.ok b : Except ε α) = .ok a
      rw [Except.ok.injEq, Except.ok.injEq]

theorem bind_eq_error_iff {first : Except ε α} {next : α -> Except ε β} {e : ε} :
    first >>= next = .error e <-> first = .error e ∨ exists a, first = .ok a ∧ next a = .error e := by
  cases first with
  | error e' => simp
  | ok a => simp

/-- A chain fails if its next step fails on whatever the first step gives. -/
theorem exists_error_bind {first : Except ε α} {next : α -> Except ε β}
    (h : forall a, first = .ok a -> exists e, next a = .error e) :
    exists e, first >>= next = .error e := by
  cases first with
  | error e => exact ⟨e, rfl⟩
  | ok a => exact h a rfl

theorem map_eq_ok_iff {f : α -> β} {result : Except ε α} {b : β} :
    result.map f = .ok b <-> exists a, result = .ok a ∧ f a = b := by
  cases result with
  | error e => simp [Except.map]
  | ok a => simp [Except.map]

theorem map_eq_error_iff {f : α -> β} {result : Except ε α} {e : ε} :
    result.map f = .error e <-> result = .error e := by
  cases result with
  | error e' => simp [Except.map]
  | ok a => simp [Except.map]

theorem map_map {γ : Type} (f : α -> β) (g : β -> γ) (result : Except ε α) :
    (result.map f).map g = result.map (g ∘ f) := by
  cases result with
  | error e => rfl
  | ok a => rfl

theorem map_bind {γ : Type} (f : β -> γ) (first : Except ε α) (next : α -> Except ε β) :
    (first >>= next).map f = first >>= fun a => (next a).map f := by
  cases first with
  | error e => rfl
  | ok a => rfl

theorem mapError_map {ε' : Type} (f : ε -> ε') (g : α -> β) (result : Except ε α) :
    (result.map g).mapError f = (result.mapError f).map g := by
  cases result with
  | error e => rfl
  | ok a => rfl

/-- Renaming errors goes through a chain of steps. -/
theorem mapError_bind {ε' : Type} (f : ε -> ε') (first : Except ε α) (next : α -> Except ε β) :
    (first >>= next).mapError f = first.mapError f >>= fun a => (next a).mapError f := by
  cases first with
  | error e => rfl
  | ok a => rfl

theorem forM_eq_ok_iff {check : α -> Except ε Unit} {items : List α} :
    items.forM check = .ok () <-> forall a, a ∈ items -> check a = .ok () := by
  induction items with
  | nil =>
      constructor
      · intro _ a ha
        cases ha
      · intro _
        rfl
  | cons a rest ih =>
      show (check a >>= fun _ => rest.forM check) = .ok () <-> _
      rw [bind_eq_ok_iff, List.forall_mem_cons]
      simp only [ih]
      constructor
      · intro hparts
        rcases hparts with ⟨⟨⟩, hhead, hrest⟩
        exact ⟨hhead, hrest⟩
      · intro hparts
        rcases hparts with ⟨hhead, hrest⟩
        exact ⟨(), hhead, hrest⟩

theorem forM_eq_error {check : α -> Except ε Unit} {items : List α} {e : ε}
    (h : items.forM check = .error e) : exists a, a ∈ items ∧ check a = .error e := by
  induction items with
  | nil => cases h
  | cons a rest ih =>
      rcases bind_eq_error_iff.mp h with hhead | ⟨_, _, hrest⟩
      · exact ⟨a, List.mem_cons_self, hhead⟩
      · rcases ih hrest with ⟨b, hb, hcheck⟩
        exact ⟨b, List.mem_cons_of_mem a hb, hcheck⟩

theorem forM_map_congr {check : α -> Except ε Unit} {f : β -> α} {check' : β -> Except ε Unit}
    {items : List β} (h : forall b, b ∈ items -> check (f b) = check' b) :
    (items.map f).forM check = items.forM check' := by
  induction items with
  | nil => rfl
  | cons b rest ih =>
      show (check (f b) >>= fun _ => (rest.map f).forM check) =
        (check' b >>= fun _ => rest.forM check')
      rw [h b List.mem_cons_self, ih (fun c hc => h c (List.mem_cons_of_mem _ hc))]

theorem mapM_eq_map_of_mem {γ : Type} {f : α -> Except ε β} {g : β -> γ} {f' : α -> Except ε γ}
    {items : List α} (h : forall a, a ∈ items -> f' a = (f a).map g) :
    items.mapM f' = (items.mapM f).map (List.map g) := by
  induction items with
  | nil => rfl
  | cons a rest ih =>
      rw [List.mapM_cons, List.mapM_cons, h a List.mem_cons_self,
        ih fun b hb => h b (List.mem_cons_of_mem _ hb)]
      cases f a with
      | error e => rfl
      | ok b =>
          cases rest.mapM f with
          | error e => rfl
          | ok bs => rfl

theorem mapM_eq_map {γ : Type} {f : α -> Except ε β} {g : β -> γ} {f' : α -> Except ε γ}
    {items : List α} (h : forall a, f' a = (f a).map g) :
    items.mapM f' = (items.mapM f).map (List.map g) :=
  mapM_eq_map_of_mem fun a _ => h a

theorem mapM_eq_ok_iff {f : α -> Except ε β} {items : List α} {results : List β} :
    items.mapM f = .ok results <-> List.Forall₂ (fun a b => f a = .ok b) items results := by
  induction items generalizing results with
  | nil =>
      constructor
      · intro h
        cases h
        exact .nil
      · intro h
        cases h
        rfl
  | cons a rest ih =>
      rw [List.mapM_cons, bind_eq_ok_iff]
      constructor
      · intro h
        rcases h with ⟨b, hb, hrest⟩
        rcases bind_eq_ok_iff.mp hrest with ⟨others, hothers, hresults⟩
        cases hresults
        exact .cons hb (ih.mp hothers)
      · intro h
        cases h with
        | cons hb hothers => exact ⟨_, hb, bind_eq_ok_iff.mpr ⟨_, ih.mpr hothers, rfl⟩⟩

/-- A list of steps that succeeds gives the result of each step and nothing else. -/
theorem mapM_eq_ok {f : α -> Except ε β} {items : List α} {results : List β}
    (h : items.mapM f = .ok results) :
    (forall a, a ∈ items -> exists b, b ∈ results ∧ f a = .ok b) ∧
      forall b, b ∈ results -> exists a, a ∈ items ∧ f a = .ok b := by
  have hall := mapM_eq_ok_iff.mp h
  clear h
  induction hall with
  | nil => exact ⟨fun _ ha => absurd ha List.not_mem_nil, fun _ hb => absurd hb List.not_mem_nil⟩
  | @cons a b rest others hb _ ih =>
      rcases ih with ⟨hgiven, htaken⟩
      constructor
      · intro c hc
        rcases List.mem_cons.mp hc with rfl | hc
        · exact ⟨b, List.mem_cons_self, hb⟩
        · rcases hgiven c hc with ⟨d, hd, hcd⟩
          exact ⟨d, List.mem_cons_of_mem _ hd, hcd⟩
      · intro d hd
        rcases List.mem_cons.mp hd with rfl | hd
        · exact ⟨a, List.mem_cons_self, hb⟩
        · rcases htaken d hd with ⟨c, hc, hcd⟩
          exact ⟨c, List.mem_cons_of_mem _ hc, hcd⟩

theorem foldlM_congr {step step' : β -> α -> Except ε β} {items : List α}
    (h : forall a, a ∈ items -> forall b, step b a = step' b a) (b : β) :
    items.foldlM step b = items.foldlM step' b := by
  induction items generalizing b with
  | nil => rfl
  | cons a rest ih =>
      rw [List.foldlM_cons, List.foldlM_cons, h a List.mem_cons_self]
      apply bind_congr
      intro b'
      exact ih (fun c hc => h c (List.mem_cons_of_mem _ hc)) b'

/-- A chain of steps fails at its first step that fails, which finds what the steps before it left. -/
theorem foldlM_eq_error_iff {step : β -> α -> Except ε β} {items : List α} {b : β} {e : ε} :
    items.foldlM step b = .error e <->
      exists before a after b', items = before ++ a :: after ∧ before.foldlM step b = .ok b' ∧
        step b' a = .error e := by
  constructor
  · intro h
    induction items generalizing b with
    | nil => cases h
    | cons a rest ih =>
        rw [List.foldlM_cons] at h
        rcases bind_eq_error_iff.mp h with hstep | ⟨b', hstep, hrest⟩
        · exact ⟨[], a, rest, b, rfl, rfl, hstep⟩
        · rcases ih hrest with ⟨before, c, after, b'', rfl, hbefore, hfails⟩
          refine ⟨a :: before, c, after, b'', rfl, ?_, hfails⟩
          rw [List.foldlM_cons, hstep]
          exact hbefore
  · rintro ⟨before, a, after, b', rfl, hbefore, hfails⟩
    rw [List.foldlM_append, hbefore, ok_bind, List.foldlM_cons, hfails]
    rfl

end Result
end Tabula
