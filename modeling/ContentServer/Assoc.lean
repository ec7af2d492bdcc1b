namespace ContentServer

/-- A finite map from `κ` to `α`, listed by ascending key. -/
structure Assoc (κ α : Type) where
  entries : List (κ × α)
  deriving DecidableEq, Repr

namespace Assoc

variable {κ α : Type}

instance : EmptyCollection (Assoc κ α) := ⟨⟨[]⟩⟩

instance : Inhabited (Assoc κ α) := ⟨∅⟩

def isEmpty (m : Assoc κ α) : Bool :=
  m.entries.isEmpty

def keys (m : Assoc κ α) : List κ :=
  m.entries.map (·.1)

def values (m : Assoc κ α) : List α :=
  m.entries.map (·.2)

variable [DecidableEq κ]

def get? (m : Assoc κ α) (k : κ) : Option α :=
  m.entries.lookup k

def contains (m : Assoc κ α) (k : κ) : Bool :=
  (m.get? k).isSome

def erase (m : Assoc κ α) (k : κ) : Assoc κ α :=
  ⟨m.entries.filter fun e => decide (e.1 ≠ k)⟩

theorem get?_empty (k : κ) : (∅ : Assoc κ α).get? k = none := rfl

theorem lookup_cons_of_ne {j k : κ} (h : k ≠ j) (a : α) (l : List (κ × α)) :
    ((j, a) :: l).lookup k = l.lookup k := by
  rw [List.lookup_cons, beq_false_of_ne h]

theorem lookup_filter_ne (k j : κ) (l : List (κ × α)) :
    (l.filter fun e => decide (e.1 ≠ k)).lookup j = if j = k then none else l.lookup j := by
  induction l with
  | nil => simp
  | cons e l ih =>
    by_cases he : e.1 = k
    · rw [List.filter_cons_of_neg (by simpa using he), ih]
      split
      · rfl
      · next hj => exact (lookup_cons_of_ne (he ▸ hj) e.2 l).symm
    · rw [List.filter_cons_of_pos (by simpa using he), List.lookup_cons, ih, List.lookup_cons]
      split
      · next hj => rw [if_neg (beq_iff_eq.mp hj ▸ he)]
      · rfl

@[simp] theorem get?_erase_self (m : Assoc κ α) (k : κ) : (m.erase k).get? k = none :=
  (lookup_filter_ne k k m.entries).trans (if_pos rfl)

theorem get?_erase_of_ne (m : Assoc κ α) {k j : κ} (h : j ≠ k) : (m.erase k).get? j = m.get? j :=
  (lookup_filter_ne k j m.entries).trans (if_neg h)

variable [LT κ] [DecidableLT κ]

def put (k : κ) (a : α) : List (κ × α) → List (κ × α)
  | [] => [(k, a)]
  | (j, b) :: l =>
    if k = j then (k, a) :: l
    else if k < j then (k, a) :: (j, b) :: l
    else (j, b) :: put k a l

def insert (m : Assoc κ α) (k : κ) (a : α) : Assoc κ α :=
  ⟨put k a m.entries⟩

def update [Inhabited α] (m : Assoc κ α) (k : κ) (f : α → α) : Assoc κ α :=
  m.insert k (f ((m.get? k).getD default))

/-- The map of all entries; of several with one key the last counts. -/
def ofList (l : List (κ × α)) : Assoc κ α :=
  l.foldl (fun m e => m.insert e.1 e.2) ∅

theorem lookup_put_self (k : κ) (a : α) (l : List (κ × α)) : (put k a l).lookup k = some a := by
  induction l with
  | nil => exact List.lookup_cons_self
  | cons e l ih =>
    rw [put]
    split
    · exact List.lookup_cons_self
    · next hk =>
      split
      · exact List.lookup_cons_self
      · rw [lookup_cons_of_ne hk, ih]

theorem lookup_put_of_ne {k j : κ} (h : j ≠ k) (a : α) (l : List (κ × α)) :
    (put k a l).lookup j = l.lookup j := by
  induction l with
  | nil => exact lookup_cons_of_ne h a []
  | cons e l ih =>
    rw [put]
    split
    · next hk => rw [lookup_cons_of_ne h, lookup_cons_of_ne (hk ▸ h)]
    · split
      · exact lookup_cons_of_ne h a (e :: l)
      · rw [List.lookup_cons, ih, List.lookup_cons]

@[simp] theorem get?_insert_self (m : Assoc κ α) (k : κ) (a : α) :
    (m.insert k a).get? k = some a :=
  lookup_put_self k a m.entries

theorem get?_insert_of_ne (m : Assoc κ α) {k j : κ} (h : j ≠ k) (a : α) :
    (m.insert k a).get? j = m.get? j :=
  lookup_put_of_ne h a m.entries

@[simp] theorem get?_update_self [Inhabited α] (m : Assoc κ α) (k : κ) (f : α → α) :
    (m.update k f).get? k = some (f ((m.get? k).getD default)) :=
  get?_insert_self m k _

theorem get?_update_of_ne [Inhabited α] (m : Assoc κ α) {k j : κ} (h : j ≠ k) (f : α → α) :
    (m.update k f).get? j = m.get? j :=
  get?_insert_of_ne m h _

end Assoc

end ContentServer
