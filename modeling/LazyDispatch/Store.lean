import LazyDispatch.Registry.Edit

/-! The store that running code reads and changes: results of streams, the shared registry, the
events reported so far, and the host's own state; and guards, which undo registrations. -/

namespace LazyDispatch

structure Store (σ : Type) where
  /-- The results kept, by cell. -/
  results : Array (Option Value)
  /-- The registry that streams use when none is given. -/
  shared : Registry
  /-- Oldest first. -/
  events : List Event
  host : σ

namespace Store

variable {σ : Type}

def new (host : σ) : Store σ := ⟨#[], Registry.withBuiltins, [], host⟩

def result? (store : Store σ) (cell : Nat) : Option Value := (store.results[cell]?).join

def nextCell (store : Store σ) : Nat := store.results.size

def allocate (store : Store σ) : Store σ := { store with results := store.results.push none }

/-- Keeps a result unless one is kept already. -/
def keep (store : Store σ) (cell : Nat) (value : Value) : Store σ :=
  match store.result? cell with
  | some _ => store
  | none => { store with results := store.results.setIfInBounds cell (some value) }

def report (store : Store σ) (events : List Event) : Store σ :=
  { store with events := store.events ++ events }

theorem result?_allocate_nextCell (store : Store σ) :
    store.allocate.result? store.nextCell = none := by
  simp [allocate, result?, nextCell]

theorem result?_keep (store : Store σ) {cell : Nat} (inside : cell < store.nextCell)
    (value : Value) :
    (store.keep cell value).result? cell = some ((store.result? cell).getD value) := by
  unfold keep
  split
  · rename_i kept h
    simp [h]
  · rename_i h
    have inside : cell < store.results.size := inside
    simp [h]
    simp [result?, inside]

theorem result?_keep_of_ne (store : Store σ) {cell other : Nat} (apart : other ≠ cell)
    (value : Value) : (store.keep cell value).result? other = store.result? other := by
  unfold keep
  split
  · rfl
  · simp [result?, Array.getElem?_setIfInBounds_ne apart.symm]

end Store

/-- Code that runs on a store. It fails or answers, and the store it leaves outlives its failure; or
it comes to no end, where calls nest too deep or one panics. -/
abbrev Run (σ : Type) : Type → Type := ExceptT Failure (StateT (Store σ) Option)

namespace Run

variable {σ α : Type}

def outOfDepth : Run σ α := fun _ => none

def ofExcept (outcome : Except Failure α) : Run σ α := fun store => some (outcome, store)

def attempt (run : Run σ α) : Run σ (Except Failure α) := fun store =>
  (run store).map fun (outcome, after) => (.ok outcome, after)

def store : Run σ (Store σ) := fun store => some (.ok store, store)

def update (f : Store σ → Store σ) : Run σ Unit := fun store => some (.ok (), f store)

def emit (event : Event) : Run σ Unit := update fun store => store.report [event]

def newCell : Run σ Nat := fun store => some (.ok store.nextCell, store.allocate)

def editShared (edit : Edit) : Run σ Unit := do
  let (changed, events) ← ofExcept ((← store).shared.edit edit)
  update fun store => { store with shared := changed }.report events

def restart (config : Config) : Run σ Unit :=
  update fun store =>
    { store with shared := Registry.ofConfig config }.report (Registry.startEvents config)

def takeSnapshot (registry : Registry) : Run σ Snapshot := do
  match registry.snapshot with
  | .ok snapshot => return snapshot
  | .error clash =>
    emit (.ambiguousSignature clash)
    throw (.ambiguousSignature clash.operation)

end Run

/-- Temporary registrations in the shared registry, removed together when the guard closes. A name
is tracked even when its registration fails. -/
structure Guard where
  names : List String
  deriving DecidableEq

namespace Guard

def empty : Guard := ⟨[]⟩

def track (guard : Guard) (name : String) : Guard :=
  if name ∈ guard.names then guard else ⟨guard.names ++ [name]⟩

/-- The registration of an operation, and the guard that tracks it whatever comes of that. -/
def operation {σ : Type} (guard : Guard) (name : String) (texts : List String)
    (callable : Reference) : Guard × Run σ Unit :=
  (guard.track name, Run.editShared (.operation name texts callable))

def operationByName {σ : Type} (guard : Guard) (name : String) (texts : List String) :
    Guard × Run σ Unit :=
  (guard.track name, Run.editShared (.operationByName name texts))

def close {σ : Type} (guard : Guard) : Run σ Unit := Run.editShared (.remove guard.names)

end Guard
end LazyDispatch
