import LazyDispatch.Proofs.Running

/-! Runs observed. A run over a wider store, which keeps something beside the state of the host,
mirrors a plain run when nothing else differs. A journal kept that way tells what ran. -/

namespace LazyDispatch

variable {σ τ α β : Type}

namespace Store

def beside (store : Store σ) (more : τ) : Store (σ × τ) :=
  ⟨store.results, store.shared, store.events, store.host, more⟩

def plain (store : Store (σ × τ)) : Store σ :=
  ⟨store.results, store.shared, store.events, store.host.1⟩

@[simp] theorem result?_plain (store : Store (σ × τ)) (cell : Nat) :
    store.plain.result? cell = store.result? cell := rfl

theorem plain_report (store : Store (σ × τ)) (events : List Event) :
    (store.report events).plain = store.plain.report events := rfl

theorem keep_plain (store : Store (σ × τ)) (cell : Nat) (value : Value) :
    (store.keep cell value).plain = store.plain.keep cell value := by
  unfold keep
  rw [result?_plain]
  cases store.result? cell <;> rfl

end Store

namespace Run

def seen (ended : Option (Except Failure α × Store (σ × τ))) :
    Option (Except Failure α × Store σ) :=
  ended.map fun ended => (ended.1, ended.2.plain)

/-- The wide run does all that the narrow one does, and beyond that changes only what is kept
beside. -/
def Mirrors (wide : Run (σ × τ) α) (narrow : Run σ α) : Prop :=
  ∀ store, seen (wide store) = narrow store.plain

variable {wide : Run (σ × τ) α} {narrow : Run σ α}

theorem Mirrors.of_none (mirrors : Mirrors wide narrow) {store : Store (σ × τ)}
    (ran : wide store = none) : narrow store.plain = none := by
  rw [← mirrors store, ran]
  rfl

theorem Mirrors.of_some (mirrors : Mirrors wide narrow) {store after : Store (σ × τ)}
    {outcome : Except Failure α} (ran : wide store = some (outcome, after)) :
    narrow store.plain = some (outcome, after.plain) := by
  rw [← mirrors store, ran]
  rfl

theorem Mirrors.bind {wider : α → Run (σ × τ) β} {narrower : α → Run σ β}
    (mirrors : Mirrors wide narrow) (next : ∀ value, Mirrors (wider value) (narrower value)) :
    Mirrors (wide >>= wider) (narrow >>= narrower) := by
  intro store
  rw [bind_apply, bind_apply]
  cases ran : wide store with
  | none =>
      rw [mirrors.of_none ran]
      rfl
  | some ended =>
      obtain ⟨outcome, after⟩ := ended
      rw [mirrors.of_some ran]
      cases outcome with
      | error failure => rfl
      | ok value => exact next value after

end Run

open Run (Mirrors)

variable {wide : Callable → List Value → Run (σ × τ) Value}
  {narrow : Callable → List Value → Run σ Value}

theorem resolve_mirrors
    (mirrors : ∀ callable args, Mirrors (wide callable args) (narrow callable args))
    (index : Nat) (current : Value) (steps : List (PendingStep Value)) :
    Mirrors (resolve wide index current steps) (resolve narrow index current steps) := by
  induction steps generalizing index current with
  | nil => intro store; rfl
  | cons step rest ih =>
      intro store
      cases choice : step.choose? current with
      | none =>
          rw [resolve_of_mismatch choice, resolve_of_mismatch choice]
          rfl
      | some candidate =>
          rw [resolve_of_chosen choice, resolve_of_chosen choice]
          exact (mirrors _ _).bind (fun next => ih (index + 1) next) _

theorem Stream.result_mirrors
    (mirrors : ∀ callable args, Mirrors (wide callable args) (narrow callable args))
    (stream : Stream Value) : Mirrors (stream.result wide) (stream.result narrow) := by
  intro store
  cases kept : store.result? stream.cell with
  | some value =>
      have plainly : store.plain.result? stream.cell = some value := kept
      rw [result_of_kept kept, result_of_kept plainly]
      rfl
  | none =>
      have plainly : store.plain.result? stream.cell = none := kept
      rw [result_of_empty kept, result_of_empty plainly,
        ← resolve_mirrors mirrors 0 stream.source stream.steps store]
      cases resolve wide 0 stream.source stream.steps store with
      | none => rfl
      | some ended =>
          obtain ⟨outcome, after⟩ := ended
          cases outcome with
          | error failure => rfl
          | ok value =>
              have same : (stream.settled value after).plain = stream.settled value after.plain :=
                Store.keep_plain _ _ _
              simp only [Run.seen, Option.map_some, same, Store.result?_plain]

structure Application where
  callable : Callable
  args : List Value

def journaled (call : Callable → List Value → Run σ Value) (callable : Callable)
    (args : List Value) : Run (σ × List Application) Value := fun store =>
  (call callable args store.plain).map fun ended =>
    (ended.1, ended.2.beside (store.host.2 ++ [⟨callable, args⟩]))

theorem journaled_mirrors (call : Callable → List Value → Run σ Value) (callable : Callable)
    (args : List Value) : Mirrors (journaled call callable args) (call callable args) := by
  intro store
  unfold journaled
  cases call callable args store.plain <;> rfl

end LazyDispatch
