import LazyDispatch.Proofs.Running

/-! How stores evolve. Whatever is asked of a store, it takes back no cell, and no value once
kept. Nothing but a stream that settles keeps a new value. -/

namespace LazyDispatch

variable {σ : Type}

namespace Store

structure Evolves (before after : Store σ) : Prop where
  cells : before.nextCell ≤ after.nextCell
  keeps : ∀ cell value, before.result? cell = some value → after.result? cell = some value

structure Grows (before after : Store σ) : Prop where
  cells : before.nextCell ≤ after.nextCell
  holds : ∀ cell, after.result? cell = before.result? cell

namespace Evolves

theorem refl (store : Store σ) : store.Evolves store :=
  ⟨Nat.le_refl _, fun _ _ kept => kept⟩

theorem trans {first second third : Store σ} (before : first.Evolves second)
    (after : second.Evolves third) : first.Evolves third :=
  ⟨Nat.le_trans before.cells after.cells,
    fun cell value kept => after.keeps cell value (before.keeps cell value kept)⟩

end Evolves

theorem vacant_iff (store : Store σ) (cell : Nat) :
    store.Vacant cell ↔ cell < store.nextCell ∧ store.result? cell = none := by
  rw [Vacant, nextCell, result?]
  by_cases inside : cell < store.results.size <;> simp [inside]

namespace Grows

theorem refl (store : Store σ) : store.Grows store := ⟨Nat.le_refl _, fun _ => rfl⟩

theorem trans {first second third : Store σ} (before : first.Grows second)
    (after : second.Grows third) : first.Grows third :=
  ⟨Nat.le_trans before.cells after.cells,
    fun cell => (after.holds cell).trans (before.holds cell)⟩

theorem of_results_eq {before after : Store σ} (same : after.results = before.results) :
    before.Grows after := by
  constructor
  · simp only [nextCell, same, Nat.le_refl]
  · intro cell
    rw [result?, result?, same]

theorem evolves {before after : Store σ} (grows : before.Grows after) : before.Evolves after :=
  ⟨grows.cells, fun cell _ kept => (grows.holds cell).trans kept⟩

theorem vacant {before after : Store σ} (grows : before.Grows after) {cell : Nat}
    (vacant : before.Vacant cell) : after.Vacant cell := by
  obtain ⟨inside, empty⟩ := (before.vacant_iff cell).mp vacant
  exact (after.vacant_iff cell).mpr
    ⟨Nat.lt_of_lt_of_le inside grows.cells, (grows.holds cell).trans empty⟩

end Grows

theorem grows_report (store : Store σ) (events : List Event) :
    store.Grows (store.report events) := .of_results_eq rfl

theorem grows_allocate (store : Store σ) : store.Grows store.allocate := by
  constructor
  · rw [nextCell_allocate]
    exact Nat.le_succ _
  · exact store.result?_allocate

theorem evolves_keep (store : Store σ) (cell : Nat) (value : Value) :
    store.Evolves (store.keep cell value) := by
  constructor
  · exact Nat.le_of_eq (store.nextCell_keep cell value).symm
  · intro other held kept
    by_cases same : other = cell
    · subst same
      rw [keep, kept]
      exact kept
    · rw [result?_keep_of_ne store same]
      exact kept

end Store

namespace Run

theorem editShared_apply (edit : Edit) (store : Store σ) :
    editShared edit store =
      match store.shared.edit edit with
      | .error failure => some (.error failure, store)
      | .ok (changed, events) => some (.ok (), { store with shared := changed }.report events) := by
  have read : Run.store store = some (.ok store, store) := rfl
  cases edited : store.shared.edit edit with
  | error failure =>
      simp only [editShared, bind_of_ok read, edited]
      rfl
  | ok result =>
      simp only [editShared, bind_of_ok read, edited]
      rfl

theorem editShared_ends (edit : Edit) (store : Store σ) :
    ∃ outcome changed events, editShared edit store =
      some (outcome, { store with shared := changed }.report events) := by
  rw [editShared_apply]
  split
  · rename_i failure refused
    refine ⟨.error failure, store.shared, [], ?_⟩
    simp only [Store.report, List.append_nil]
  · rename_i changed events edited
    exact ⟨.ok (), changed, events, rfl⟩

theorem editShared_grows (edit : Edit) (store : Store σ) :
    ∃ outcome after, editShared edit store = some (outcome, after) ∧ store.Grows after := by
  obtain ⟨outcome, changed, events, ran⟩ := editShared_ends edit store
  exact ⟨outcome, _, ran, .of_results_eq rfl⟩

end Run

namespace Stream

theorem start_grows (source : Value) (store : Store σ) :
    store.Grows (store.report [.streamCreated source.tag]).allocate :=
  (store.grows_report _).trans (Store.grows_allocate _)

theorem startShared_grows (source : Value) (store : Store σ) :
    ∃ outcome after, startShared source store = some (outcome, after) ∧ store.Grows after := by
  have read : Run.store store = some (.ok store, store) := rfl
  cases taken : store.shared.snapshot with
  | ok snapshot =>
      refine ⟨.ok ⟨store.nextCell, snapshot, source, source.tag, []⟩, _, ?_,
        start_grows source store⟩
      simp only [startShared, Run.bind_of_ok read, Run.takeSnapshot, taken]
      rfl
  | error clash =>
      refine ⟨.error (.ambiguousSignature clash.operation), _, ?_,
        store.grows_report [.ambiguousSignature clash]⟩
      simp only [startShared, Run.bind_of_ok read, Run.takeSnapshot, taken]
      rfl

theorem invoke_grows (stream : Stream Value) (operation : String) (args : List Value)
    (store : Store σ) :
    ∃ outcome after, stream.invoke operation args store = some (outcome, after) ∧
      store.Grows after := by
  cases planned : stream.snapshot.plan stream.predicted operation args with
  | error failure => exact ⟨_, _, invoke_of_refused planned store, .refl store⟩
  | ok plan =>
      obtain ⟨step, next⟩ := plan
      exact ⟨_, _, invoke_of_planned planned store,
        (store.grows_report _).trans (Store.grows_allocate _)⟩

theorem settled_evolves (stream : Stream Value) (value : Value) (store : Store σ) :
    store.Evolves (stream.settled value store) :=
  (store.grows_report _).evolves.trans (Store.evolves_keep _ _ _)

end Stream
end LazyDispatch
