/-!
# Stores of named items

A store keeps its items in the order in which they were put in, and beside them an index that
tells the position of the item with a name. Every access by name goes through the index.

The index lists its latest entry first, and the first entry of a name counts.
-/

namespace Proofbook

structure Store (α : Type) where
  items : List α
  index : List (String × Nat)

namespace Store

variable {α : Type}

def empty : Store α := ⟨[], []⟩

def position? (store : Store α) (name : String) : Option Nat := store.index.lookup name

def contains (store : Store α) (name : String) : Bool := (store.position? name).isSome

def get? (store : Store α) (name : String) : Option α :=
  (store.position? name).bind fun position => store.items[position]?

def insert (store : Store α) (name : String) (item : α) : Store α :=
  ⟨store.items ++ [item], (name, store.items.length) :: store.index⟩

def modifyAt (store : Store α) (position : Nat) (change : α → α) : Store α :=
  { store with items := store.items.modify position change }

def modify (store : Store α) (name : String) (change : α → α) : Store α :=
  match store.position? name with
  | some position => store.modifyAt position change
  | none => store

end Store

end Proofbook
