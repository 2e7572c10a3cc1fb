namespace LeafHub

/-- Things under numbers. Nothing is ever taken out, so a number keeps its meaning. -/
structure Pool (α : Type) where
  items : Array α
  deriving Inhabited

namespace Pool

variable {α : Type}

def empty : Pool α := ⟨#[]⟩

/-- How many things were added. It is also the number of the next one. -/
def size (pool : Pool α) : Nat := pool.items.size

/-- The thing of a number that was handed out. -/
def get [Inhabited α] (pool : Pool α) (id : Nat) : α := pool.items[id]?.getD default

def add (pool : Pool α) (item : α) : Pool α := ⟨pool.items.push item⟩

/-- Puts another thing in the place of one. -/
def set (pool : Pool α) (id : Nat) (item : α) : Pool α := ⟨pool.items.setIfInBounds id item⟩

@[simp] theorem size_add (pool : Pool α) (item : α) : (pool.add item).size = pool.size + 1 := by
  simp [add, size]

@[simp] theorem size_set (pool : Pool α) (id : Nat) (item : α) : (pool.set id item).size = pool.size := by
  simp [set, size]

/-- Only one number is new. -/
theorem eq_size_of_new {pool : Pool α} {item : α} {id : Nat} (new : pool.size ≤ id)
    (known : id < (pool.add item).size) : id = pool.size := by
  rw [size_add] at known
  exact Nat.le_antisymm (Nat.lt_succ_iff.mp known) new

theorem set_unknown {pool : Pool α} {id : Nat} (unknown : pool.size ≤ id) (item : α) : pool.set id item = pool := by
  simp only [size] at unknown
  simp [set, Array.setIfInBounds, Nat.not_lt.mpr unknown]

theorem set_set (pool : Pool α) (id : Nat) (first second : α) : (pool.set id first).set id second = pool.set id second := by
  simp [set]

variable [Inhabited α]

theorem get_unknown {pool : Pool α} {id : Nat} (unknown : pool.size ≤ id) : pool.get id = default := by
  simp only [size] at unknown
  simp [get, Array.getElem?_eq_none unknown]

theorem get_add_new (pool : Pool α) (item : α) : (pool.add item).get pool.size = item := by
  simp [add, get, size]

theorem get_add_old {pool : Pool α} {id : Nat} (known : id < pool.size) (item : α) :
    (pool.add item).get id = pool.get id := by
  simp only [size] at known
  simp [add, get, Array.getElem?_push, Nat.ne_of_lt known]

theorem get_add (pool : Pool α) (item : α) (id : Nat) :
    (pool.add item).get id = if id = pool.size then item else pool.get id := by
  rcases Nat.lt_trichotomy id pool.size with old | rfl | beyond
  · rw [get_add_old old, if_neg (Nat.ne_of_lt old)]
  · rw [get_add_new, if_pos rfl]
  · have unknown : (pool.add item).size ≤ id := by
      rw [size_add]
      exact beyond
    rw [get_unknown unknown, if_neg (Nat.ne_of_gt beyond), get_unknown (Nat.le_of_lt beyond)]

theorem get_set_same {pool : Pool α} {id : Nat} (known : id < pool.size) (item : α) :
    (pool.set id item).get id = item := by
  simp only [size] at known
  simp [set, get, known]

theorem get_set_other {pool : Pool α} {id other : Nat} (apart : other ≠ id) (item : α) :
    (pool.set id item).get other = pool.get other := by
  simp [set, get, Ne.symm apart]

theorem get_set (pool : Pool α) (id other : Nat) (item : α) :
    (pool.set id item).get other = if other = id ∧ id < pool.size then item else pool.get other := by
  split
  · rename_i here
    obtain ⟨rfl, known⟩ := here
    exact get_set_same known item
  · rename_i elsewhere
    rcases Nat.lt_or_ge id pool.size with known | unknown
    · exact get_set_other (fun here => elsewhere ⟨here, known⟩) item
    · rw [set_unknown unknown]

theorem set_get (pool : Pool α) (id : Nat) : pool.set id (pool.get id) = pool := by
  rcases Nat.lt_or_ge id pool.size with known | unknown
  · rw [size] at known
    simp [set, get, known, Array.setIfInBounds]
  · exact set_unknown unknown _

end Pool

/-- Things under names; an entry counts before later ones of its name. -/
abbrev Directory (α : Type) := List (String × α)

namespace Directory

variable {α : Type}

def get? (directory : Directory α) (name : String) : Option α :=
  (List.find? (fun entry => entry.1 = name) directory).map Prod.snd

def remove (directory : Directory α) (name : String) : Directory α :=
  List.filter (fun entry => entry.1 ≠ name) directory

/-- Keeps a thing under a name, in place of the one that was there. -/
def put (directory : Directory α) (name : String) (item : α) : Directory α :=
  (name, item) :: directory.remove name

@[simp] theorem get?_put_same (directory : Directory α) (name : String) (item : α) :
    (directory.put name item).get? name = some item := by
  simp [put, get?]

theorem get?_put_other (directory : Directory α) {name other : String} (apart : other ≠ name) (item : α) :
    (directory.put name item).get? other = directory.get? other := by
  simp only [put, get?, remove, List.find?_cons, Ne.symm apart, decide_false, List.find?_filter]
  congr 2
  funext entry
  by_cases here : entry.1 = other <;> simp [here, apart]

end Directory

end LeafHub
