import Proofbook.Registry.Store

namespace Proofbook.Store

variable {α : Type} {key : α → String} {store : Store α} {name other : String} {item : α}
  {change : α → α}

/-- The index gives a position to a name exactly if the item there has that name. -/
def Coherent (key : α → String) (store : Store α) : Prop :=
  ∀ name position,
    store.position? name = some position ↔ (store.items.map key)[position]? = some name

/-! ## Positions -/

theorem position?_insert (store : Store α) (name other : String) (item : α) :
    (store.insert name item).position? other =
      if other = name then some store.items.length else store.position? other := by
  unfold position? insert
  rw [List.lookup_cons]
  by_cases same : other = name
  · simp [same]
  · rw [if_neg same, beq_false_of_ne same]

@[simp]
theorem position?_modify (store : Store α) (name other : String) (change : α → α) :
    (store.modify name change).position? other = store.position? other := by
  unfold modify
  split <;> rfl

theorem position?_eq_none_of_free (free : store.contains name = false) :
    store.position? name = none := by
  simpa [contains] using free

theorem get?_eq_none_of_free (free : store.contains name = false) : store.get? name = none := by
  rw [get?, position?_eq_none_of_free free]
  rfl

@[simp]
theorem contains_modify (store : Store α) (name other : String) (change : α → α) :
    (store.modify name change).contains other = store.contains other := by
  simp [contains]

/-! ## Access by name -/

@[simp]
theorem get?_insert_self (store : Store α) (name : String) (item : α) :
    (store.insert name item).get? name = some item := by
  rw [get?, position?_insert, if_pos rfl]
  simp [insert]

@[simp]
theorem get?_modify_self (store : Store α) (name : String) (change : α → α) :
    (store.modify name change).get? name = (store.get? name).map change := by
  rw [get?, get?, position?_modify]
  cases found : store.position? name with
  | none => rfl
  | some position =>
      rw [modify, found]
      exact List.getElem?_modify_eq change position store.items

theorem get?_of_position? {position : Nat} (found : store.position? name = some position) :
    store.get? name = store.items[position]? := by
  rw [get?, found]
  rfl

theorem contains_of_get? (found : store.get? name = some item) : store.contains name = true := by
  obtain ⟨position, here, -⟩ := Option.bind_eq_some_iff.mp found
  rw [contains, here]
  rfl

theorem modify_congr {change' : α → α} (found : store.get? name = some item)
    (same : change item = change' item) : store.modify name change = store.modify name change' := by
  obtain ⟨position, here, there⟩ := Option.bind_eq_some_iff.mp found
  unfold modify modifyAt
  rw [here]
  refine congrArg (Store.mk · store.index) (List.ext_getElem? fun i => ?_)
  rw [List.getElem?_modify, List.getElem?_modify]
  by_cases inside : position = i
  · subst inside
    simp [there, same]
  · simp [inside]

theorem modify_eq_self (found : store.get? name = some item) (same : change item = item) :
    store.modify name change = store := by
  obtain ⟨position, here, -⟩ := Option.bind_eq_some_iff.mp found
  have kept : store.modify name change = store.modify name id := modify_congr found same
  rw [kept, modify, here]
  exact congrArg (Store.mk · store.index) (List.modify_id position store.items)

def entry (store : Store α) (name : String) : Bool × Option α :=
  (store.contains name, store.get? name)

theorem entry_insert_self (store : Store α) (name : String) (item : α) :
    (store.insert name item).entry name = (true, some item) := by
  have present : (store.insert name item).contains name = true :=
    contains_of_get? (get?_insert_self store name item)
  rw [entry, present, get?_insert_self]

theorem entry_modify_self (store : Store α) (name : String) (change : α → α) :
    (store.modify name change).entry name = (store.entry name).map id (Option.map change) := by
  rw [entry, contains_modify, get?_modify_self]
  rfl

/-! ## All items -/

theorem forall_insert {holds : α → Prop} (all : ∀ a ∈ store.items, holds a) (new : holds item)
    (name : String) : ∀ a ∈ (store.insert name item).items, holds a := by
  intro a mem
  rcases List.mem_append.mp mem with old | last
  · exact all a old
  · rw [List.mem_singleton.mp last]
    exact new

theorem forall_modifyAt {holds : α → Prop} (all : ∀ a ∈ store.items, holds a)
    (keeps : ∀ a, holds a → holds (change a)) (position : Nat) :
    ∀ a ∈ (store.modifyAt position change).items, holds a := by
  intro a mem
  obtain ⟨i, here⟩ := List.mem_iff_getElem?.mp mem
  rw [modifyAt, List.getElem?_modify, Option.map_eq_map, Option.map_eq_some_iff] at here
  obtain ⟨b, was, rfl⟩ := here
  have old := all b (List.mem_of_getElem? was)
  split
  · exact keeps b old
  · exact old

theorem forall_modify {holds : α → Prop} (all : ∀ a ∈ store.items, holds a)
    (keeps : ∀ a, holds a → holds (change a)) (name : String) :
    ∀ a ∈ (store.modify name change).items, holds a := by
  unfold modify
  split
  · exact forall_modifyAt all keeps _
  · exact all

theorem mem_of_get? (found : store.get? name = some item) : item ∈ store.items := by
  obtain ⟨position, -, here⟩ := Option.bind_eq_some_iff.mp found
  exact List.mem_of_getElem? here

theorem countP_items_modify_le (p : α → Bool) (change : α → α) (position : Nat)
    (items : List α) : (items.modify position change).countP p ≤ items.countP p + 1 := by
  induction items generalizing position with
  | nil => simp
  | cons item rest ih =>
      cases position with
      | zero =>
          rw [List.modify_zero_cons, List.countP_cons, List.countP_cons]
          split <;> omega
      | succ position =>
          have ih := ih position
          rw [List.modify_succ_cons, List.countP_cons, List.countP_cons]
          omega

theorem countP_modify_le (p : α → Bool) (change : α → α) (name : String) (store : Store α) :
    (store.modify name change).items.countP p ≤ store.items.countP p + 1 := by
  unfold modify
  split
  · exact countP_items_modify_le p change _ store.items
  · exact Nat.le_succ _

/-! ## Coherence -/

private theorem getElem?_snoc (names : List String) (last : String) (position : Nat) :
    (names ++ [last])[position]? =
      if position = names.length then some last else names[position]? := by
  rw [List.getElem?_append]
  rcases Nat.lt_trichotomy position names.length with less | rfl | greater
  · rw [if_pos less, if_neg (by omega)]
  · simp
  · rw [if_neg (by omega), if_neg (by omega), List.getElem?_eq_none (by simp; omega),
      List.getElem?_eq_none (by omega)]

theorem map_modify_items {β : Type} {f : α → β} {change' : β → β}
    (commutes : ∀ a, f (change a) = change' (f a)) (position : Nat) (items : List α) :
    (items.modify position change).map f = (items.map f).modify position change' := by
  apply List.ext_getElem?
  intro i
  rw [List.getElem?_map, List.getElem?_modify, List.getElem?_modify, List.getElem?_map]
  cases items[i]? with
  | none => rfl
  | some a =>
      by_cases same : position = i
      · simp [same, commutes]
      · simp [same]

theorem map_modify_unseen {β : Type} {f : α → β} (unseen : ∀ a, f (change a) = f a)
    (position : Nat) (items : List α) : (items.modify position change).map f = items.map f := by
  have commutes : ∀ a, f (change a) = id (f a) := unseen
  rw [map_modify_items commutes, List.modify_id]

theorem map_items_modify {β : Type} {f : α → β} (unseen : ∀ a, f (change a) = f a)
    (store : Store α) (name : String) :
    (store.modify name change).items.map f = store.items.map f := by
  unfold modify
  split
  · exact map_modify_unseen unseen _ store.items
  · rfl

theorem map_items_ite_modify {β : Type} {f : α → β} (unseen : ∀ a, f (change a) = f a)
    (store : Store α) (name : String) (condition : Prop) [Decidable condition] :
    (if condition then store.modify name change else store).items.map f = store.items.map f := by
  split
  · exact map_items_modify unseen store name
  · rfl

theorem coherent_empty : Coherent key (empty : Store α) := by
  intro name position
  simp [empty, position?]

namespace Coherent

theorem of_keys (coherent : Coherent key store) {items : List α}
    (same : items.map key = store.items.map key) : Coherent key { store with items } := by
  intro name position
  rw [same]
  exact coherent name position

theorem insert (coherent : Coherent key store) (free : store.contains (key item) = false) :
    Coherent key (store.insert (key item) item) := by
  intro name position
  have keys : (store.insert (key item) item).items.map key = store.items.map key ++ [key item] :=
    List.map_append
  rw [position?_insert, keys, getElem?_snoc, List.length_map]
  by_cases same : name = key item
  · subst same
    rw [if_pos rfl]
    by_cases last : position = store.items.length
    · simp [last]
    · rw [if_neg last]
      refine ⟨fun h => absurd (Option.some.inj h).symm last, fun present => ?_⟩
      have found := (coherent (key item) position).mpr present
      rw [position?_eq_none_of_free free] at found
      cases found
  · rw [if_neg same, coherent name position]
    by_cases last : position = store.items.length
    · rw [if_pos last, List.getElem?_eq_none (by simp [last])]
      exact ⟨nofun, fun h => absurd (Option.some.inj h).symm same⟩
    · rw [if_neg last]

theorem keys_modify (coherent : Coherent key store)
    (keeps : ∀ a, key a = name → key (change a) = name) :
    (store.modify name change).items.map key = store.items.map key := by
  unfold Store.modify
  cases here : store.position? name with
  | none => rfl
  | some position =>
      refine List.ext_getElem? fun i => ?_
      simp only [modifyAt, List.getElem?_map, List.getElem?_modify]
      by_cases same : position = i
      · subst same
        have named := (coherent name position).mp here
        rw [List.getElem?_map, Option.map_eq_some_iff] at named
        obtain ⟨a, found, keyed⟩ := named
        simp [found, keyed, keeps a keyed]
      · simp [same]

theorem modify (coherent : Coherent key store)
    (keeps : ∀ a, key a = name → key (change a) = name) :
    Coherent key (store.modify name change) := by
  intro other position
  rw [position?_modify, coherent.keys_modify keeps]
  exact coherent other position

theorem eq_of_key_eq (coherent : Coherent key store) {i j : Nat} {a b : α}
    (first : store.items[i]? = some a) (second : store.items[j]? = some b)
    (same : key a = key b) : i = j := by
  have found := (coherent (key a) i).mpr (by rw [List.getElem?_map, first]; rfl)
  have found' := (coherent (key b) j).mpr (by rw [List.getElem?_map, second]; rfl)
  rw [← same, found] at found'
  exact Option.some.inj found'

theorem nodup (coherent : Coherent key store) : (store.items.map key).Nodup := by
  rw [List.Nodup, List.pairwise_map]
  apply List.pairwise_iff_getElem.mpr
  intro i j inside inside' less same
  have position := coherent.eq_of_key_eq (List.getElem?_eq_getElem inside)
    (List.getElem?_eq_getElem inside') same
  exact absurd position (Nat.ne_of_lt less)

theorem get?_eq_some_iff (coherent : Coherent key store) :
    store.get? name = some item ↔ item ∈ store.items ∧ key item = name := by
  have named (position : Nat) (h : store.items[position]? = some item) :
      store.position? (key item) = some position :=
    (coherent _ position).mpr (by rw [List.getElem?_map, h]; rfl)
  constructor
  · intro found
    obtain ⟨position, at_, here⟩ := Option.bind_eq_some_iff.mp found
    have sameName := (coherent name position).mp at_
    rw [List.getElem?_map, here] at sameName
    exact ⟨List.mem_of_getElem? here, Option.some.inj sameName⟩
  · rintro ⟨mem, rfl⟩
    obtain ⟨position, here⟩ := List.mem_iff_getElem?.mp mem
    rw [get?_of_position? (named position here), here]

theorem get?_of_contains (coherent : Coherent key store) (present : store.contains name = true) :
    ∃ item, store.get? name = some item := by
  obtain ⟨position, here⟩ := Option.isSome_iff_exists.mp present
  have keyed := (coherent name position).mp here
  obtain ⟨item, there, -⟩ := Option.map_eq_some_iff.mp (List.getElem?_map ▸ keyed)
  exact ⟨item, by rw [get?_of_position? here, there]⟩

theorem get?_eq_none_iff (coherent : Coherent key store) :
    store.get? name = none ↔ store.contains name = false := by
  constructor
  · intro absent
    rw [← Bool.not_eq_true]
    intro present
    obtain ⟨item, found⟩ := coherent.get?_of_contains present
    rw [absent] at found
    cases found
  · exact get?_eq_none_of_free

theorem contains_iff (coherent : Coherent key store) :
    store.contains name = true ↔ name ∈ store.items.map key := by
  rw [List.mem_map]
  constructor
  · intro present
    obtain ⟨item, found⟩ := coherent.get?_of_contains present
    exact ⟨item, coherent.get?_eq_some_iff.mp found⟩
  · rintro ⟨item, mem, named⟩
    exact contains_of_get? (coherent.get?_eq_some_iff.mpr ⟨mem, named⟩)

theorem filter_eq_get? (coherent : Coherent key store) (name : String) :
    store.items.filter (key · == name) = (store.get? name).toList := by
  cases found : store.get? name with
  | none =>
      rw [Option.toList_none, List.filter_eq_nil_iff]
      intro a mem named
      rw [coherent.get?_eq_some_iff.mpr ⟨mem, beq_iff_eq.mp named⟩] at found
      cases found
  | some item =>
      have only : ∀ a ∈ store.items.filter (key · == name), a = item := by
        intro a mem
        rw [List.mem_filter, beq_iff_eq, ← coherent.get?_eq_some_iff, found] at mem
        exact (Option.some.inj mem).symm
      have listed : item ∈ store.items.filter (key · == name) := by
        rw [List.mem_filter, beq_iff_eq]
        exact coherent.get?_eq_some_iff.mp found
      have distinct : ((store.items.filter (key · == name)).map key).Nodup :=
        List.Nodup.sublist (List.filter_sublist.map key) coherent.nodup
      have alike := List.eq_replicate_of_mem only
      rw [alike, List.map_replicate, List.nodup_replicate] at distinct
      have once : (store.items.filter (key · == name)).length = 1 := by
        have some := List.length_pos_of_mem listed
        omega
      rw [alike, once]
      rfl

theorem get?_insert_of_ne (coherent : Coherent key store) (ne : other ≠ name) :
    (store.insert name item).get? other = store.get? other := by
  rw [get?, get?, position?_insert, if_neg ne]
  cases found : store.position? other with
  | none => rfl
  | some position =>
      have present := (coherent other position).mp found
      obtain ⟨inside, -⟩ := List.getElem?_eq_some_iff.mp present
      exact List.getElem?_append_left (by simpa using inside)

theorem get?_modify_of_ne (coherent : Coherent key store) (ne : other ≠ name) :
    (store.modify name change).get? other = store.get? other := by
  rw [get?, get?, position?_modify]
  unfold Store.modify
  cases here : store.position? name with
  | none => rfl
  | some position =>
      cases there : store.position? other with
      | none => rfl
      | some position' =>
          have apart : position ≠ position' := by
            rintro rfl
            have both := ((coherent name position).mp here).symm.trans
              ((coherent other position).mp there)
            exact ne (Option.some.inj both).symm
          exact List.getElem?_modify_ne change store.items apart

theorem entry_insert_of_ne (coherent : Coherent key store) (ne : other ≠ name) :
    (store.insert name item).entry other = store.entry other := by
  have known : (store.insert name item).contains other = store.contains other := by
    rw [contains, contains, position?_insert, if_neg ne]
  rw [entry, entry, known, coherent.get?_insert_of_ne ne]

theorem entry_modify_of_ne (coherent : Coherent key store) (ne : other ≠ name) :
    (store.modify name change).entry other = store.entry other := by
  rw [entry, entry, contains_modify, coherent.get?_modify_of_ne ne]

theorem get?_modify (coherent : Coherent key store) (name other : String) (change : α → α) :
    (store.modify name change).get? other =
      (store.get? other).map fun a => if name = key a then change a else a := by
  by_cases same : other = name
  · subst same
    rw [get?_modify_self]
    cases found : store.get? other with
    | none => rfl
    | some a => simp [(coherent.get?_eq_some_iff.mp found).2]
  · rw [coherent.get?_modify_of_ne same]
    cases found : store.get? other with
    | none => rfl
    | some a => simp [(coherent.get?_eq_some_iff.mp found).2, Ne.symm same]

end Coherent

end Proofbook.Store
