import Proofbook.Registry.Action

namespace Proofbook.Action

variable {α β γ : Type} {x y : Action α} {f : α → Action β} {a b : α} {r r' : Registry}
  {fault : Error}

/-! ## Running -/

theorem bind_ok {b : β} :
    (x >>= f) r = .ok b r' ↔ ∃ a mid, x r = .ok a mid ∧ f a mid = .ok b r' := by
  cases ran : x r with
  | ok a mid =>
      have step : (x >>= f) r = f a mid := by simp [bind, EStateM.bind, ran]
      rw [step]
      constructor
      · intro h
        exact ⟨a, mid, rfl, h⟩
      · rintro ⟨_, _, ⟨⟩, h⟩
        exact h
  | error fault mid => simp [bind, EStateM.bind, ran]

theorem bind_error :
    (x >>= f) r = .error fault r' ↔
      x r = .error fault r' ∨ ∃ a mid, x r = .ok a mid ∧ f a mid = .error fault r' := by
  cases ran : x r with
  | ok a mid =>
      have step : (x >>= f) r = f a mid := by simp [bind, EStateM.bind, ran]
      rw [step]
      constructor
      · intro h
        exact .inr ⟨a, mid, rfl, h⟩
      · rintro (failed | ⟨_, _, ⟨⟩, h⟩)
        · cases failed
        · exact h
  | error fault mid => simp [bind, EStateM.bind, ran]

@[simp]
theorem pure_ok : (pure a : Action α) r = .ok b r' ↔ b = a ∧ r' = r := by
  change EStateM.Result.ok a r = .ok b r' ↔ _
  simp [eq_comm]

@[simp]
theorem pure_error : (pure a : Action α) r ≠ .error fault r' := nofun

@[simp]
theorem throw_ok : (throw fault : Action α) r ≠ .ok a r' := nofun

@[simp]
theorem throw_error {other : Error} :
    (throw fault : Action α) r = .error other r' ↔ other = fault ∧ r' = r := by
  change EStateM.Result.error fault r = .error other r' ↔ _
  simp [eq_comm]

@[simp]
theorem get_ok {found : Registry} :
    (get : Action Registry) r = .ok found r' ↔ found = r ∧ r' = r := pure_ok

@[simp]
theorem set_ok {new : Registry} {u : PUnit} :
    (set new : Action PUnit) r = .ok u r' ↔ r' = new := by
  change EStateM.Result.ok PUnit.unit new = .ok u r' ↔ _
  simp [eq_comm]

@[simp]
theorem modify_ok {change : Registry → Registry} {u : PUnit} :
    (modify change : Action PUnit) r = .ok u r' ↔ r' = change r := set_ok (r := r)

@[simp]
theorem lift_ok {e : Except Error α} : lift e r = .ok a r' ↔ e = .ok a ∧ r' = r := by
  cases e with
  | ok b => simp [lift, eq_comm]
  | error fault => simp [lift]

@[simp]
theorem lift_error {e : Except Error α} :
    lift e r = .error fault r' ↔ e = .error fault ∧ r' = r := by
  cases e with
  | ok b => simp [lift]
  | error other => simp [lift, eq_comm]

@[simp]
theorem ask_ok {look : Registry → Except Error α} :
    ask look r = .ok a r' ↔ look r = .ok a ∧ r' = r := lift_ok

@[simp]
theorem ask_error {look : Registry → Except Error α} :
    ask look r = .error fault r' ↔ look r = .error fault ∧ r' = r := lift_error

theorem get_bind_ok {f : Registry → Action β} {b : β} :
    (get >>= f) r = .ok b r' ↔ f r r = .ok b r' := Iff.rfl

theorem get_bind_error {f : Registry → Action β} :
    (get >>= f) r = .error fault r' ↔ f r r = .error fault r' := Iff.rfl

theorem set_bind_ok {new : Registry} {f : PUnit → Action β} {b : β} :
    (set new >>= f) r = .ok b r' ↔ f .unit new = .ok b r' := Iff.rfl

theorem modify_bind_ok {change : Registry → Registry} {f : PUnit → Action β} {b : β} :
    (modify change >>= f) r = .ok b r' ↔ f .unit (change r) = .ok b r' := Iff.rfl

theorem lift_bind_ok {e : Except Error α} {b : β} :
    (lift e >>= f) r = .ok b r' ↔ ∃ a, e = .ok a ∧ f a r = .ok b r' := by
  rw [bind_ok]
  simp only [lift_ok]
  constructor
  · rintro ⟨a, mid, ⟨he, rfl⟩, h⟩
    exact ⟨a, he, h⟩
  · rintro ⟨a, he, h⟩
    exact ⟨a, r, ⟨he, rfl⟩, h⟩

theorem ask_bind_ok {look : Registry → Except Error α} {b : β} :
    (ask look >>= f) r = .ok b r' ↔ ∃ a, look r = .ok a ∧ f a r = .ok b r' := lift_bind_ok

theorem ite_ok {condition : Prop} [Decidable condition] :
    (if condition then x else y) r = .ok a r' ↔
      condition ∧ x r = .ok a r' ∨ ¬condition ∧ y r = .ok a r' := by
  split <;> simp [*]

/-! ## Three ways to treat the registry -/

def Total (x : Action α) : Prop := ∀ r fault r', x r ≠ .error fault r'

def Reads (x : Action α) : Prop := ∀ r a r', x r = .ok a r' → r' = r

def Atomic (x : Action α) : Prop := ∀ r fault r', x r = .error fault r' → r' = r

theorem total_pure (a : α) : Total (pure a) := fun _ _ _ => nofun

theorem total_get : Total (get : Action Registry) := fun _ _ _ => nofun

theorem total_set (r : Registry) : Total (set r : Action PUnit) := fun _ _ _ => nofun

theorem total_modify (change : Registry → Registry) : Total (modify change : Action PUnit) :=
  fun _ _ _ => nofun

theorem Total.bind (first : Total x) (rest : ∀ a, Total (f a)) : Total (x >>= f) := by
  intro r fault r' failed
  rcases bind_error.mp failed with failed | ⟨a, mid, -, failed⟩
  · exact first r fault r' failed
  · exact rest a mid fault r' failed

theorem Total.ite {condition : Prop} [Decidable condition] (hx : Total x) (hy : Total y) :
    Total (if condition then x else y) := by
  split
  · exact hx
  · exact hy

theorem reads_get : Reads (get : Action Registry) := fun _ _ _ h => (get_ok.mp h).2

theorem reads_lift (e : Except Error α) : Reads (lift e) := fun _ _ _ h => (lift_ok.mp h).2

theorem reads_ask (look : Registry → Except Error α) : Reads (ask look) :=
  fun _ _ _ h => (ask_ok.mp h).2

theorem Total.atomic (total : Total x) : Atomic x :=
  fun r fault r' failed => absurd failed (total r fault r')

theorem atomic_throw (fault : Error) : Atomic (throw fault : Action α) :=
  fun _ _ _ h => (throw_error.mp h).2

theorem atomic_lift (e : Except Error α) : Atomic (lift e) := fun _ _ _ h => (lift_error.mp h).2

theorem atomic_ask (look : Registry → Except Error α) : Atomic (ask look) :=
  fun _ _ _ h => (ask_error.mp h).2

theorem Atomic.ite {condition : Prop} [Decidable condition] (hx : Atomic x) (hy : Atomic y) :
    Atomic (if condition then x else y) := by
  split
  · exact hx
  · exact hy

/-- Behind an action that only reads, any atomic one may come. -/
theorem Atomic.bind (first : Atomic x) (reads : Reads x) (rest : ∀ a, Atomic (f a)) :
    Atomic (x >>= f) := by
  intro r fault r' failed
  rcases bind_error.mp failed with failed | ⟨a, mid, ran, failed⟩
  · exact first r fault r' failed
  · rw [rest a mid fault r' failed, reads r a mid ran]

/-- Behind an action that changes something, nothing may fail. -/
theorem Atomic.bind_total (first : Atomic x) (rest : ∀ a, Total (f a)) : Atomic (x >>= f) := by
  intro r fault r' failed
  rcases bind_error.mp failed with failed | ⟨a, mid, -, failed⟩
  · exact first r fault r' failed
  · exact absurd failed (rest a mid fault r')

theorem Atomic.bind_ask {look : Registry → Except Error γ} {g : γ → Action β} (first : Atomic x)
    (found : ∀ r a r', x r = .ok a r' → ∃ c, look r' = .ok c) (rest : ∀ c, Total (g c)) :
    Atomic (x >>= fun _ => ask look >>= g) := by
  intro r fault r' failed
  rcases bind_error.mp failed with failed | ⟨a, mid, ran, failed⟩
  · exact first r fault r' failed
  · obtain ⟨c, seen⟩ := found r a mid ran
    rcases bind_error.mp failed with failed | ⟨c', after, -, failed⟩
    · rw [ask_error, seen] at failed
      cases failed.1
    · exact absurd failed (rest c' after fault r')

theorem atomic_get_bind {f : Registry → Action β} (rest : ∀ r, Atomic (f r)) :
    Atomic (get >>= f) := total_get.atomic.bind reads_get rest

theorem atomic_lift_bind (e : Except Error α) (rest : ∀ a, Atomic (f a)) :
    Atomic (lift e >>= f) := (atomic_lift e).bind (reads_lift e) rest

theorem atomic_ask_bind (look : Registry → Except Error α) (rest : ∀ a, Atomic (f a)) :
    Atomic (ask look >>= f) := (atomic_ask look).bind (reads_ask look) rest

end Proofbook.Action
