import Conformity.Slot

/-!
# Work that may fail

Work on a state ends with a value or with a failure. Work that ends with a value has done so in each
of its parts, and work leaves a part of the state alone if each of its parts does (`Keeps`), or
preserves a property of the state if each of them does (`Preserves`). It fails in certain ways only if
each of its parts does (`FailsOnly`), and ends in the same way whatever the state if each of its parts
does (`IsSteady`).
-/

namespace Conformity

variable {ε σ α β : Type}

/-! ## Values and failures -/

theorem bind_eq_ok {x : Except ε α} {f : α → Except ε β} {b : β} :
    x >>= f = .ok b ↔ ∃ a, x = .ok a ∧ f a = .ok b := by
  cases x with
  | error e => simp [bind, Except.bind]
  | ok a => simp [bind, Except.bind]

theorem map_eq_ok {x : Except ε α} {f : α → β} {b : β} :
    x.map f = .ok b ↔ ∃ a, x = .ok a ∧ f a = b := by
  cases x <;> simp [Except.map]

theorem exists_bind_eq_ok {x : Except ε α} {f : α → Except ε β} {a : α} (hx : x = .ok a)
    (h : ∃ b, f a = .ok b) : ∃ b, x >>= f = .ok b := by
  obtain ⟨b, hb⟩ := h
  exact ⟨b, bind_eq_ok.mpr ⟨a, hx, hb⟩⟩

/-- Whether the second part ends with a value does not depend on the value of the first. -/
theorem exists_bind_eq_ok_iff {x : Except ε α} {f : α → Except ε β} {P : Prop}
    (h : ∀ a, (∃ b, f a = .ok b) ↔ P) :
    (∃ b, x >>= f = .ok b) ↔ (∃ a, x = .ok a) ∧ P := by
  constructor
  · rintro ⟨b, hb⟩
    obtain ⟨a, hx, hf⟩ := bind_eq_ok.mp hb
    exact ⟨⟨a, hx⟩, (h a).mp ⟨b, hf⟩⟩
  · rintro ⟨⟨a, hx⟩, hP⟩
    exact exists_bind_eq_ok hx ((h a).mpr hP)

theorem eq_ok_of_toOption {x : Except ε α} {a : α} (h : x.toOption = some a) : x = .ok a := by
  cases x with
  | error e => cases h
  | ok b =>
      cases h
      rfl

theorem exists_eq_ok_of_any {x : Except ε α} {p : α → Bool} (h : x.toOption.any p) :
    ∃ a, x = .ok a ∧ p a := by
  cases x with
  | error e => cases h
  | ok a => exact ⟨a, rfl, h⟩

/-- A list of values is made exactly if each of its values is. -/
theorem exists_mapM_eq_ok_iff {f : α → Except ε β} {xs : List α} :
    (∃ ys, xs.mapM f = .ok ys) ↔ ∀ x ∈ xs, ∃ y, f x = .ok y := by
  induction xs with
  | nil => exact ⟨fun _ => by simp, fun _ => ⟨[], rfl⟩⟩
  | cons x xs ih =>
      simp only [List.mapM_cons, bind_eq_ok, List.forall_mem_cons, ← ih]
      constructor
      · rintro ⟨_, y, hy, ys, hys, -⟩
        exact ⟨⟨y, hy⟩, ys, hys⟩
      · rintro ⟨⟨y, hy⟩, ys, hys⟩
        exact ⟨y :: ys, y, hy, ys, hys, rfl⟩

/-- They are the values of a function if each of them is. -/
theorem mapM_eq_ok_map {f : α → Except ε β} {g : α → β} {xs : List α}
    (h : ∀ x ∈ xs, f x = .ok (g x)) : xs.mapM f = .ok (xs.map g) := by
  induction xs with
  | nil => rfl
  | cons x xs ih =>
      rw [List.forall_mem_cons] at h
      rw [List.mapM_cons, h.1, ih h.2]
      rfl

/-- Each value stands where what it is made of stands. -/
theorem exists_getElem?_of_mapM {f : α → Except ε β} {xs : List α} {ys : List β} {x : α} {i : Nat}
    (h : xs.mapM f = .ok ys) (hx : xs[i]? = some x) : ∃ y, ys[i]? = some y ∧ f x = .ok y := by
  induction xs generalizing ys i with
  | nil => cases hx
  | cons x' xs ih =>
      rw [List.mapM_cons, bind_eq_ok] at h
      obtain ⟨y, hy, h⟩ := h
      obtain ⟨ys, hys, h⟩ := bind_eq_ok.mp h
      cases h
      cases i with
      | zero =>
          cases hx
          exact ⟨y, rfl, hy⟩
      | succ i =>
          rw [List.getElem?_cons_succ] at hx ⊢
          exact ih hys hx

/-! ## Work on a state -/

/-- What work makes of a state. -/
def resultOf (x : ExceptT ε (StateM σ) α) (st : σ) : Except ε α × σ := x.run.run st

@[simp] theorem resultOf_pure (a : α) (st : σ) :
    resultOf (pure a : ExceptT ε (StateM σ) α) st = (.ok a, st) := rfl

@[simp] theorem resultOf_throw (e : ε) (st : σ) :
    resultOf (throw e : ExceptT ε (StateM σ) α) st = (.error e, st) := rfl

@[simp] theorem resultOf_get (st : σ) :
    resultOf (get : ExceptT ε (StateM σ) σ) st = (.ok st, st) := rfl

@[simp] theorem resultOf_modify (f : σ → σ) (st : σ) :
    resultOf (modify f : ExceptT ε (StateM σ) PUnit) st = (.ok ⟨⟩, f st) := rfl

theorem resultOf_bind (x : ExceptT ε (StateM σ) α) (f : α → ExceptT ε (StateM σ) β) (st : σ) :
    resultOf (x >>= f) st =
      match resultOf x st with
      | (.ok a, st₁) => resultOf (f a) st₁
      | (.error e, st₁) => (.error e, st₁) := by
  unfold resultOf
  rw [ExceptT.run_bind, StateT.run_bind]
  rcases x.run.run st with ⟨r, st₁⟩
  cases r <;> rfl

theorem resultOf_eq {x : ExceptT ε (StateM σ) α} {st : σ} {r : Except ε α}
    (h : (resultOf x st).1 = r) : resultOf x st = (r, (resultOf x st).2) := Prod.ext h rfl

theorem resultOf_map (x : ExceptT ε (StateM σ) α) (f : α → β) (st : σ) :
    resultOf (x.map f) st = ((resultOf x st).1.map f, (resultOf x st).2) := by
  show resultOf (x >>= fun a => pure (f a)) st = _
  rw [resultOf_bind]
  rcases resultOf x st with ⟨r, st₁⟩
  cases r <;> rfl

/-- A lock that is held for some work is free afterwards. -/
theorem resultOf_holding (lock : Slot σ Bool) (x : ExceptT ε (StateM σ) α) (st : σ) :
    resultOf (lock.holding x) st =
      ((resultOf x (lock.put true st)).1, lock.put false (resultOf x (lock.put true st)).2) := rfl

theorem resultOf_tryCatch (x : ExceptT ε (StateM σ) α) (f : ε → ExceptT ε (StateM σ) α) (st : σ) :
    resultOf (tryCatch x f) st =
      match resultOf x st with
      | (.ok a, st₁) => (.ok a, st₁)
      | (.error e, st₁) => resultOf (f e) st₁ := by
  show (ExceptT.tryCatch x f).run.run st = _
  rcases hx : resultOf x st with ⟨r, st₁⟩
  have hrun : StateT.run x st = (r, st₁) := hx
  unfold ExceptT.tryCatch
  rw [ExceptT.run_mk, StateT.run_bind, hrun]
  cases r <;> rfl

/-- Work in two parts ends with a value only if both parts do. -/
theorem resultOf_bind_eq_ok {x : ExceptT ε (StateM σ) α} {f : α → ExceptT ε (StateM σ) β}
    {st st' : σ} {b : β} (h : resultOf (x >>= f) st = (.ok b, st')) :
    ∃ a st₁, resultOf x st = (.ok a, st₁) ∧ resultOf (f a) st₁ = (.ok b, st') := by
  rw [resultOf_bind] at h
  split at h
  · next a st₁ heq => exact ⟨a, st₁, heq, h⟩
  · cases h

/-! ## Parts that work leaves alone -/

/-- Work leaves a part of the state alone, however it ends. -/
def Keeps {γ : Type} (slot : Slot σ γ) (x : ExceptT ε (StateM σ) α) : Prop :=
  ∀ st, slot.get (resultOf x st).2 = slot.get st

namespace Keeps

variable {γ δ : Type} {slot : Slot σ γ}

theorem get_eq {x : ExceptT ε (StateM σ) α} (h : Keeps slot x) {st st' : σ} {r : Except ε α}
    (hx : resultOf x st = (r, st')) : slot.get st' = slot.get st := by
  have hget := h st
  rwa [hx] at hget

theorem pure (a : α) : Keeps slot (Pure.pure a : ExceptT ε (StateM σ) α) := fun _ => rfl

theorem throw (e : ε) : Keeps slot (MonadExcept.throw e : ExceptT ε (StateM σ) α) := fun _ => rfl

theorem get : Keeps slot (MonadState.get : ExceptT ε (StateM σ) σ) := fun _ => rfl

theorem bind {x : ExceptT ε (StateM σ) α} {f : α → ExceptT ε (StateM σ) β} (hx : Keeps slot x)
    (hf : ∀ a, Keeps slot (f a)) : Keeps slot (x >>= f) := by
  intro st
  rw [resultOf_bind]
  rcases heq : resultOf x st with ⟨r, st₁⟩
  have hfirst := hx.get_eq heq
  cases r with
  | ok a => exact (hf a st₁).trans hfirst
  | error e => exact hfirst

theorem tryCatch {x : ExceptT ε (StateM σ) α} {f : ε → ExceptT ε (StateM σ) α} (hx : Keeps slot x)
    (hf : ∀ e, Keeps slot (f e)) : Keeps slot (MonadExcept.tryCatch x f) := by
  intro st
  rw [resultOf_tryCatch]
  rcases heq : resultOf x st with ⟨r, st₁⟩
  have hfirst := hx.get_eq heq
  cases r with
  | ok a => exact hfirst
  | error e => exact (hf e st₁).trans hfirst

theorem map {x : ExceptT ε (StateM σ) α} {f : α → β} (hx : Keeps slot x) : Keeps slot (x.map f) :=
  hx.bind fun _ => .pure _

/-- What is done to another part of the state leaves a part alone. -/
theorem lift {other : Slot σ δ} (hother : ∀ d st, slot.get (other.put d st) = slot.get st)
    (x : ExceptT ε (StateM δ) α) : Keeps slot (other.lift x) :=
  fun st => hother _ st

end Keeps

/-! ## Properties that work preserves -/

/-- Work leads from states with a property to such states, however it ends. -/
def Preserves (P : σ → Prop) (x : ExceptT ε (StateM σ) α) : Prop := ∀ st, P st → P (resultOf x st).2

namespace Preserves

variable {γ : Type} {P : σ → Prop}

theorem pure (a : α) : Preserves P (Pure.pure a : ExceptT ε (StateM σ) α) := fun _ h => h

theorem throw (e : ε) : Preserves P (MonadExcept.throw e : ExceptT ε (StateM σ) α) := fun _ h => h

theorem get : Preserves P (MonadState.get : ExceptT ε (StateM σ) σ) := fun _ h => h

theorem update {f : σ → σ} (hf : ∀ st, P st → P (f st)) :
    Preserves P (modify f : ExceptT ε (StateM σ) PUnit) := hf

theorem bind {x : ExceptT ε (StateM σ) α} {f : α → ExceptT ε (StateM σ) β} (hx : Preserves P x)
    (hf : ∀ a, Preserves P (f a)) : Preserves P (x >>= f) := by
  intro st h
  have hfirst := hx st h
  rw [resultOf_bind]
  rcases heq : resultOf x st with ⟨r, st₁⟩
  rw [heq] at hfirst
  cases r with
  | ok a => exact hf a st₁ hfirst
  | error e => exact hfirst

theorem tryCatch {x : ExceptT ε (StateM σ) α} {f : ε → ExceptT ε (StateM σ) α} (hx : Preserves P x)
    (hf : ∀ e, Preserves P (f e)) : Preserves P (MonadExcept.tryCatch x f) := by
  intro st h
  have hfirst := hx st h
  rw [resultOf_tryCatch]
  rcases heq : resultOf x st with ⟨r, st₁⟩
  rw [heq] at hfirst
  cases r with
  | ok a => exact hfirst
  | error e => exact hf e st₁ hfirst

theorem map {x : ExceptT ε (StateM σ) α} {f : α → β} (hx : Preserves P x) : Preserves P (x.map f) :=
  hx.bind fun _ => .pure _

theorem of_map {x : ExceptT ε (StateM σ) α} {f : α → β} (h : Preserves P (x.map f)) :
    Preserves P x := by
  intro st hst
  have hmap := h st hst
  rwa [resultOf_map] at hmap

/-- A choice between two pieces of work, and more work after either of them. -/
theorem choose_bind {c : Prop} [Decidable c] {x y : ExceptT ε (StateM σ) α}
    {f : α → ExceptT ε (StateM σ) β} (hx : Preserves P x) (hy : Preserves P y)
    (hf : ∀ a, Preserves P (f a)) : Preserves P (if c then x >>= f else y >>= f) := by
  split
  · exact hx.bind hf
  · exact hy.bind hf

/-- A property of a part of the state is preserved by what leaves the part alone. -/
theorem of_keeps {slot : Slot σ γ} {Q : γ → Prop} {x : ExceptT ε (StateM σ) α} (h : Keeps slot x) :
    Preserves (fun st => Q (slot.get st)) x := by
  intro st hst
  show Q (slot.get (resultOf x st).2)
  rwa [h st]

/-- What is done to a part of the state preserves a property that is one of the part. -/
theorem lift {slot : Slot σ γ} {Q : γ → Prop} {x : ExceptT ε (StateM γ) α} (hx : Preserves Q x)
    (hget : ∀ st, P st → Q (slot.get st)) (hput : ∀ c st, Q c → P (slot.put c st)) :
    Preserves P (slot.lift x) :=
  fun st h => hput _ st (hx _ (hget st h))

theorem holding {lock : Slot σ Bool} {x : ExceptT ε (StateM σ) α} (hx : Preserves P x)
    (hlock : ∀ b st, P st → P (lock.put b st)) : Preserves P (lock.holding x) :=
  fun st h => hlock false _ (hx _ (hlock true st h))

theorem forM {f : β → ExceptT ε (StateM σ) PUnit} (hf : ∀ b, Preserves P (f b)) (bs : List β) :
    Preserves P (bs.forM f) := by
  induction bs with
  | nil => exact .pure _
  | cons b bs ih => exact (hf b).bind fun _ => ih

end Preserves

/-! ## Ways to fail -/

/-- Work fails in a certain way, if it fails. -/
def FailsOnly (p : ε → Bool) (x : ExceptT ε (StateM σ) α) : Prop :=
  ∀ st {e}, (resultOf x st).1 = .error e → p e = true

namespace FailsOnly

variable {p : ε → Bool}

theorem pure (a : α) : FailsOnly p (Pure.pure a : ExceptT ε (StateM σ) α) := nofun

theorem get : FailsOnly p (MonadState.get : ExceptT ε (StateM σ) σ) := nofun

theorem update (f : σ → σ) : FailsOnly p (modify f : ExceptT ε (StateM σ) PUnit) := nofun

theorem throw {e : ε} (h : p e = true) :
    FailsOnly p (MonadExcept.throw e : ExceptT ε (StateM σ) α) := by
  intro _ _ heq
  cases heq
  exact h

theorem bind {x : ExceptT ε (StateM σ) α} {f : α → ExceptT ε (StateM σ) β} (hx : FailsOnly p x)
    (hf : ∀ a, FailsOnly p (f a)) : FailsOnly p (x >>= f) := by
  intro st e h
  have hfirst := @hx st
  rw [resultOf_bind] at h
  rcases heq : resultOf x st with ⟨r, st₁⟩
  rw [heq] at h hfirst
  cases r with
  | ok a => exact hf a st₁ h
  | error e' =>
      cases h
      exact hfirst rfl

theorem lift {γ : Type} {slot : Slot σ γ} {x : ExceptT ε (StateM γ) α} (h : FailsOnly p x) :
    FailsOnly p (slot.lift x) :=
  fun st {_} he => h (slot.get st) he

end FailsOnly

/-! ## Work on which the state does not bear -/

/-- Work ends in the same way, whatever the state. -/
def IsSteady (x : ExceptT ε (StateM σ) α) : Prop :=
  ∀ st st', (resultOf x st).1 = (resultOf x st').1

namespace IsSteady

theorem pure (a : α) : IsSteady (Pure.pure a : ExceptT ε (StateM σ) α) := fun _ _ => rfl

theorem throw (e : ε) : IsSteady (MonadExcept.throw e : ExceptT ε (StateM σ) α) := fun _ _ => rfl

theorem update (f : σ → σ) : IsSteady (modify f : ExceptT ε (StateM σ) PUnit) :=
  fun _ _ => rfl

theorem bind {x : ExceptT ε (StateM σ) α} {f : α → ExceptT ε (StateM σ) β} (hx : IsSteady x)
    (hf : ∀ a, IsSteady (f a)) : IsSteady (x >>= f) := by
  intro st st'
  have hfirst := hx st st'
  rw [resultOf_bind, resultOf_bind]
  rcases heq : resultOf x st with ⟨r, st₁⟩
  rcases heq' : resultOf x st' with ⟨r', st₁'⟩
  rw [heq, heq'] at hfirst
  obtain rfl : r = r' := hfirst
  cases r with
  | ok a => exact hf a st₁ st₁'
  | error e => rfl

theorem foldlM {f : β → α → ExceptT ε (StateM σ) β} (hf : ∀ b a, IsSteady (f b a)) (b : β)
    (as : List α) : IsSteady (as.foldlM f b) := by
  induction as generalizing b with
  | nil => exact .pure b
  | cons a as ih => exact (hf b a).bind fun b' => ih b'

end IsSteady

end Conformity
