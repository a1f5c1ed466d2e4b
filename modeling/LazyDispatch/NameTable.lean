/-! Tables keyed by name, in the order of the names. Each operation is pinned by what it does to a
look-up. -/

namespace LazyDispatch

def Increasing {α : Type} (rows : List (String × α)) : Prop :=
  rows.Pairwise fun left right => left.1 < right.1

/-- Values by name; names strictly increase by code point. -/
structure NameTable (α : Type) where
  rows : List (String × α)
  increasing : Increasing rows

namespace NameTable

variable {α β : Type}

def empty : NameTable α := ⟨[], List.Pairwise.nil⟩

instance : Inhabited (NameTable α) := ⟨empty⟩

def find (name : String) : List (String × α) → Option α
  | [] => none
  | (other, value) :: rest => if other = name then some value else find name rest

def get? (table : NameTable α) (name : String) : Option α := find name table.rows

def contains (table : NameTable α) (name : String) : Bool := (table.get? name).isSome

def names (table : NameTable α) : List String := table.rows.map Prod.fst

def size (table : NameTable α) : Nat := table.rows.length

def isEmpty (table : NameTable α) : Bool := table.rows.isEmpty

def putRow (name : String) (value : α) : List (String × α) → List (String × α)
  | [] => [(name, value)]
  | (other, kept) :: rest =>
    if name < other then (name, value) :: (other, kept) :: rest
    else if other = name then (name, value) :: rest
    else (other, kept) :: putRow name value rest

theorem mem_putRow {name : String} {value : α} {row : String × α} {rows : List (String × α)}
    (member : row ∈ putRow name value rows) : row = (name, value) ∨ row ∈ rows := by
  induction rows with
  | nil => simpa [putRow] using member
  | cons head rest ih =>
    simp only [putRow] at member
    split at member
    · simpa using member
    · split at member
      · rcases List.mem_cons.mp member with h | h
        · exact Or.inl h
        · exact Or.inr (List.mem_cons_of_mem _ h)
      · rcases List.mem_cons.mp member with h | h
        · exact Or.inr (h ▸ List.mem_cons_self)
        · exact (ih h).imp id (List.mem_cons_of_mem _)

theorem lt_of_not_lt_of_ne {left right : String} (below : ¬ left < right) (apart : right ≠ left) :
    right < left := by
  rcases Std.lt_trichotomy left right with h | h | h
  · exact absurd h below
  · exact absurd h.symm apart
  · exact h

theorem increasing_putRow (name : String) (value : α) {rows : List (String × α)}
    (sorted : Increasing rows) : Increasing (putRow name value rows) := by
  induction rows with
  | nil => exact List.pairwise_singleton _ _
  | cons head rest ih =>
    obtain ⟨above, tail⟩ := List.pairwise_cons.mp sorted
    simp only [putRow]
    split
    · rename_i before
      refine List.pairwise_cons.mpr ⟨?_, sorted⟩
      intro row member
      rcases List.mem_cons.mp member with rfl | h
      · exact before
      · exact String.lt_trans before (above row h)
    · rename_i notBefore
      split
      · rename_i same
        refine List.pairwise_cons.mpr ⟨fun row member => ?_, tail⟩
        exact same ▸ above row member
      · rename_i apart
        refine List.pairwise_cons.mpr ⟨fun row member => ?_, ih tail⟩
        rcases mem_putRow member with rfl | h
        · exact lt_of_not_lt_of_ne notBefore apart
        · exact above row h

def put (table : NameTable α) (name : String) (value : α) : NameTable α :=
  ⟨putRow name value table.rows, increasing_putRow name value table.increasing⟩

def erase (table : NameTable α) (name : String) : NameTable α :=
  ⟨table.rows.filter fun row => row.1 ≠ name, table.increasing.filter _⟩

def map (f : α → β) (table : NameTable α) : NameTable β :=
  ⟨table.rows.map fun row : String × α => (row.1, f row.2),
    List.pairwise_map.mpr table.increasing⟩

@[simp] theorem get?_empty (name : String) : (empty : NameTable α).get? name = none := rfl

theorem get?_put (table : NameTable α) (name other : String) (value : α) :
    (table.put name value).get? other = if other = name then some value else table.get? other := by
  obtain ⟨rows, sorted⟩ := table
  simp only [put, get?]
  clear sorted
  induction rows with
  | nil => simp [putRow, find, eq_comm]
  | cons head rest ih =>
    obtain ⟨first, kept⟩ := head
    simp only [putRow]
    split
    · simp [find, eq_comm]
    · split
      · rename_i same
        by_cases h : name = other <;> simp [find, same, h, eq_comm]
      · rename_i apart
        by_cases h : first = other
        · simp [find, h, show other ≠ name from fun e => apart (h.trans e)]
        · simp [find, h, ih]

theorem get?_erase (table : NameTable α) (name other : String) :
    (table.erase name).get? other = if other = name then none else table.get? other := by
  obtain ⟨rows, sorted⟩ := table
  simp only [erase, get?]
  clear sorted
  induction rows with
  | nil => simp [find]
  | cons head rest ih =>
    obtain ⟨first, kept⟩ := head
    by_cases gone : first = name
    · rw [List.filter_cons_of_neg (by simpa using gone), ih]
      by_cases h : other = name
      · simp [h]
      · simp [find, h, show first ≠ other from fun e => h (e.symm.trans gone)]
    · rw [List.filter_cons_of_pos (by simpa using gone)]
      by_cases h : first = other
      · simp [find, h, show other ≠ name from fun e => gone (h.trans e)]
      · simpa [find, h] using ih

theorem get?_map (f : α → β) (table : NameTable α) (name : String) :
    (table.map f).get? name = (table.get? name).map f := by
  obtain ⟨rows, sorted⟩ := table
  simp only [map, get?]
  clear sorted
  induction rows with
  | nil => rfl
  | cons head rest ih => by_cases h : head.1 = name <;> simp [find, h, ih]

theorem mem_of_find {name : String} {value : α} {rows : List (String × α)}
    (found : find name rows = some value) : (name, value) ∈ rows := by
  induction rows with
  | nil => cases found
  | cons head rest ih =>
    rw [find] at found
    split at found
    · rename_i same
      cases found
      exact same ▸ List.mem_cons_self
    · exact List.mem_cons_of_mem _ (ih found)

theorem mem_rows_iff {table : NameTable α} {name : String} {value : α} :
    (name, value) ∈ table.rows ↔ table.get? name = some value := by
  constructor
  · obtain ⟨rows, sorted⟩ := table
    simp only [get?]
    intro member
    induction rows with
    | nil => cases member
    | cons head rest ih =>
      obtain ⟨above, tail⟩ := List.pairwise_cons.mp sorted
      rcases List.mem_cons.mp member with rfl | later
      · simp [find]
      · have apart : head.1 ≠ name := fun same => String.lt_irrefl _ (same ▸ above _ later)
        rw [find, if_neg apart]
        exact ih tail later
  · exact mem_of_find

theorem ext_get? {table other : NameTable α} (same : ∀ name, table.get? name = other.get? name) :
    table = other := by
  have apart {rows : List (String × α)} (sorted : Increasing rows) : rows.Nodup := by
    refine List.Pairwise.imp ?_ sorted
    rintro left right before rfl
    exact String.lt_irrefl _ before
  have perm : table.rows.Perm other.rows := by
    refine (List.perm_ext_iff_of_nodup (apart table.increasing) (apart other.increasing)).mpr ?_
    rintro ⟨name, value⟩
    rw [mem_rows_iff, mem_rows_iff, same]
  have rows : table.rows = other.rows := by
    refine perm.eq_of_pairwise ?_ table.increasing other.increasing
    intro left right _ _ before after
    exact absurd (String.lt_trans before after) (String.lt_irrefl _)
  obtain ⟨first, sorted⟩ := table
  cases rows
  rfl

theorem mem_names_iff {table : NameTable α} {name : String} :
    name ∈ table.names ↔ table.contains name = true := by
  rw [names, contains, List.mem_map, Option.isSome_iff_exists]
  constructor
  · rintro ⟨⟨_, value⟩, row, rfl⟩
    exact ⟨value, mem_rows_iff.mp row⟩
  · rintro ⟨value, known⟩
    exact ⟨(name, value), mem_rows_iff.mpr known, rfl⟩

theorem size_erase (table : NameTable α) (name : String) :
    (table.erase name).size + (table.contains name).toNat = table.size := by
  obtain ⟨rows, sorted⟩ := table
  simp only [erase, size, contains, get?]
  induction rows with
  | nil => rfl
  | cons head rest ih =>
    obtain ⟨first, kept⟩ := head
    obtain ⟨above, tail⟩ := List.pairwise_cons.mp sorted
    by_cases same : first = name
    · have apart : ∀ row ∈ rest, decide (row.1 ≠ name) = true := by
        intro row member
        have before : first < row.1 := above row member
        have differ : row.1 ≠ name := fun equal =>
          String.lt_irrefl _ (same ▸ equal ▸ before)
        exact decide_eq_true differ
      rw [List.filter_cons_of_neg (by simpa using same), List.filter_eq_self.mpr apart]
      simp [find, same]
    · have sum := ih tail
      have later : find name ((first, kept) :: rest) = find name rest := if_neg same
      rw [List.filter_cons_of_pos (by simpa using same), later, List.length_cons, List.length_cons]
      omega

@[simp] theorem names_map (f : α → β) (table : NameTable α) : (table.map f).names = table.names := by
  simp [map, names, Function.comp_def]

end NameTable
end LazyDispatch
