import Proofbook.Proofs.Outcome
import Proofbook.Proofs.Registry.Action
import Proofbook.Truth.Table

/-!
A guarded computation does each partial operation by a function that checks its precondition and is
trapped where it does not hold. Nothing catches a trap.
-/

namespace Proofbook

inductive Trap where
  | position (position length : Nat)
  | difference (a b : Nat)
  | shift (places : Nat)
  | capacity (count : Nat)
  | divisor
  | member (name : String) (target : JsonKind)
  | unpaired (steps justifications : Nat)

/-- A computation ends early with a fault, which is an answer as well, or in a trap. -/
inductive Halt where
  | fault (fault : Error)
  | trap (trap : Trap)

abbrev Checked := Except Halt

abbrev Guarded := EStateM Halt Registry

/-! ## Partial operations -/

namespace Checked

variable {α β : Type}

def fail (fault : Error) : Checked α := .error (.fault fault)

def trap (trap : Trap) : Checked α := .error (.trap trap)

def item (items : List α) (position : Nat) : Checked α :=
  match items[position]? with
  | some found => .ok found
  | none => trap (.position position items.length)

def changeItem (items : List α) (position : Nat) (change : α → α) : Checked (List α) :=
  if position < items.length then .ok (items.modify position change)
  else trap (.position position items.length)

def difference (a b : Nat) : Checked Nat := if b ≤ a then .ok (a - b) else trap (.difference a b)

def wordSize : Nat := 64

/-- One, shifted to the left within a machine word. -/
def bit (places : Nat) : Checked Nat :=
  if places < wordSize then .ok (1 <<< places) else trap (.shift places)

/-- Memory for a list, in one block. Whether so much is left is another matter. -/
def reserve (count size : Nat) : Checked PUnit :=
  if count * size < Truth.blockBound then .ok ⟨⟩ else trap (.capacity count)

def quotient (a b : Nat) : Checked Nat := if b = 0 then trap .divisor else .ok (a / b)

theorem item_of_getElem? {items : List α} {position : Nat} {found : α}
    (there : items[position]? = some found) : item items position = .ok found := by
  rw [item, there]

theorem changeItem_of_lt {items : List α} {position : Nat} (inside : position < items.length)
    (change : α → α) : changeItem items position change = .ok (items.modify position change) :=
  if_pos inside

theorem difference_of_le {a b : Nat} (le : b ≤ a) : difference a b = .ok (a - b) := if_pos le

theorem bit_of_lt {places : Nat} (inside : places < wordSize) : bit places = .ok (1 <<< places) :=
  if_pos inside

theorem reserve_of_lt {count size : Nat} (fits : count * size < Truth.blockBound) :
    reserve count size = .ok ⟨⟩ := if_pos fits

theorem reserve_of_le {count size : Nat} (large : Truth.blockBound ≤ count * size) :
    reserve count size = trap (.capacity count) := if_neg (Nat.not_lt.mpr large)

@[simp]
theorem ok_bind (a : α) (f : α → Checked β) : (.ok a >>= f) = f a := rfl

/-! ## Following -/

def ofExcept (e : Except Error α) : Checked α := e.mapError .fault

def Follows (x : Checked α) (y : Except Error α) : Prop := x = ofExcept y

theorem follows_ofExcept (e : Except Error α) : Follows (ofExcept e) e := rfl

theorem follows_ok (a : α) : Follows (.ok a) (.ok a) := rfl

theorem follows_fail (fault : Error) : Follows (fail fault : Checked α) (.error fault) := rfl

variable {x x' : Checked α} {y y' : Except Error α} {f : α → Checked β} {g : α → Except Error β}

theorem Follows.bind (first : Follows x y) (rest : ∀ a, y = .ok a → Follows (f a) (g a)) :
    Follows (x >>= f) (y >>= g) := by
  unfold Follows at first
  subst first
  cases ran : y with
  | ok a => exact rest a ran
  | error fault => rfl

theorem Follows.ok_bind {a : α} {y : Except Error β} (passed : x = .ok a)
    (rest : Follows (f a) y) : Follows (x >>= f) y := by
  rw [passed]
  exact rest

theorem Follows.ite {condition : Prop} [Decidable condition] (hx : condition → Follows x y)
    (hx' : ¬condition → Follows x' y') :
    Follows (if condition then x else x') (if condition then y else y') := by
  split
  · exact hx ‹_›
  · exact hx' ‹_›

theorem Follows.mapM {as : List α} (each : ∀ a ∈ as, Follows (f a) (g a)) :
    Follows (as.mapM f) (as.mapM g) := by
  induction as with
  | nil => exact follows_ok []
  | cons a as ih =>
      obtain ⟨first, rest⟩ := List.forall_mem_cons.mp each
      rw [List.mapM_cons, List.mapM_cons]
      refine first.bind fun b _ => ?_
      exact (ih rest).bind fun bs _ => follows_ok (b :: bs)

theorem mapM_eq_ok_map {as : List α} {h : α → β} (each : ∀ a ∈ as, f a = .ok (h a)) :
    as.mapM f = .ok (as.map h) := by
  apply Except.mapM_eq_ok.mpr
  rw [List.forall₂_map_right_iff, List.forall₂_same]
  exact each

end Checked

namespace Guarded

variable {α β : Type}

def lift : Checked α → Guarded α
  | .ok a => pure a
  | .error halt => throw halt

def ask (look : Registry → Checked α) : Guarded α := do lift (look (← get))

def guardResult : EStateM.Result Error Registry α → EStateM.Result Halt Registry α
  | .ok a r => .ok a r
  | .error fault r => .error (.fault fault) r

def ofAction (action : Action α) : Guarded α := fun r => guardResult (action r)

def Follows (x : Guarded α) (y : Action α) (r : Registry) : Prop := x r = guardResult (y r)

variable {x x' : Guarded α} {y y' : Action α} {f : α → Guarded β} {g : α → Action β}
  {r : Registry}

theorem follows_ofAction (action : Action α) : Follows (ofAction action) action r := rfl

theorem follows_pure (a : α) : Follows (pure a) (pure a) r := rfl

theorem follows_throw (fault : Error) :
    Follows (throw (.fault fault) : Guarded α) (throw fault) r := rfl

theorem follows_lift {x : Checked α} {y : Except Error α} (follows : x.Follows y) :
    Follows (lift x) (Action.lift y) r := by
  unfold Checked.Follows at follows
  subst follows
  cases y <;> rfl

theorem follows_ask {look : Registry → Checked α} {look' : Registry → Except Error α}
    (follows : (look r).Follows (look' r)) : Follows (ask look) (Action.ask look') r :=
  follows_lift (r := r) follows

theorem Follows.bind (first : Follows x y r)
    (rest : ∀ a mid, y r = .ok a mid → Follows (f a) (g a) mid) :
    Follows (x >>= f) (y >>= g) r := by
  unfold Follows at first
  cases ran : y r with
  | ok a mid =>
      have tail : f a mid = guardResult (g a mid) := rest a mid ran
      simp only [Follows, Bind.bind, EStateM.bind, first, ran, guardResult, tail]
  | error fault mid => simp [Follows, Bind.bind, EStateM.bind, first, ran, guardResult]

theorem Follows.lift_bind {c : Checked α} {a : α} {y : Action β} (passed : c = .ok a)
    (rest : Follows (f a) y r) : Follows (lift c >>= f) y r := by
  rw [passed]
  exact rest

theorem Follows.ask_bind {look : Registry → Checked α} {a : α} {y : Action β}
    (passed : look r = .ok a) (rest : Follows (f a) y r) : Follows (ask look >>= f) y r :=
  Follows.lift_bind passed rest

theorem follows_get_bind {f : Registry → Guarded β} {g : Registry → Action β}
    (rest : Follows (f r) (g r) r) : Follows (get >>= f) (get >>= g) r := rest

theorem follows_set (new : Registry) :
    Follows (set new : Guarded PUnit) (set new : Action PUnit) r := rfl

theorem follows_modify (change : Registry → Registry) :
    Follows (modify change : Guarded PUnit) (modify change : Action PUnit) r := rfl

theorem Follows.ite {condition : Prop} [Decidable condition] (hx : condition → Follows x y r)
    (hx' : ¬condition → Follows x' y' r) :
    Follows (if condition then x else x') (if condition then y else y') r := by
  split
  · exact hx ‹_›
  · exact hx' ‹_›

end Guarded

end Proofbook
