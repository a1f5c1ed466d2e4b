import LazyDispatch.Store
import LazyDispatch.Proofs.Evolving
import LazyDispatch.Proofs.History

/-! What guards leave behind. A guard removes by name: when it closes, nothing is left under the
names that were passed to it, whoever registered it, and under every other name there is what was
there when it was opened. -/

namespace LazyDispatch

variable {σ : Type}

theorem Registry.get?_of_operation {registry changed : Registry} {name other : String}
    {texts : List String} {callable : Reference} {events : List Event}
    (edited : registry.edit (.operation name texts callable) = .ok (changed, events))
    (apart : other ≠ name) :
    changed.operations.get? other = registry.operations.get? other := by
  rcases of_edit_eq_ok edited with ⟨overload, meant, rfl, -⟩ | ⟨_, other, -⟩ | ⟨other, -⟩
  · obtain ⟨signatures, resolved, -, -, rfl⟩ := Edit.overload?_operation.mp meant
    rw [push, NameTable.get?_put, if_neg apart]
  · cases other
  · cases other

namespace Guard

theorem mem_track (guard : Guard) (name other : String) :
    other ∈ (guard.track name).names ↔ other ∈ guard.names ∨ other = name := by
  rw [track]
  split
  · rename_i known
    constructor
    · exact .inl
    · rintro (member | rfl)
      · exact member
      · exact known
  · simp

/-- A guard, opened on a store, was asked for operations of these names, each of which may have
failed. Nothing else changed the shared registry since. -/
inductive Worked (opened : Store σ) : List String → Guard → Store σ → Prop where
  | opened : Worked opened [] .empty opened
  | operation {asked : List String} {guard next : Guard} {store after : Store σ} {name : String}
      {texts : List String} {callable : Reference} {run : Run σ Unit}
      {outcome : Except Failure Unit} (worked : Worked opened asked guard store)
      (asks : guard.operation name texts callable = (next, run))
      (ran : run store = some (outcome, after)) : Worked opened (asked ++ [name]) next after
  | operationByName {asked : List String} {guard next : Guard} {store after : Store σ}
      {name : String} {texts : List String} {run : Run σ Unit} {outcome : Except Failure Unit}
      (worked : Worked opened asked guard store)
      (asks : guard.operationByName name texts = (next, run))
      (ran : run store = some (outcome, after)) : Worked opened (asked ++ [name]) next after
  | aside {asked : List String} {guard : Guard} {store after : Store σ}
      (worked : Worked opened asked guard store) (same : after.shared = store.shared) :
      Worked opened asked guard after

structure Confines (opened : Registry) (asked : List String) (guard : Guard)
    (registry : Registry) : Prop where
  tracks : ∀ name, name ∈ guard.names ↔ name ∈ asked
  others : ∀ name, name ∉ asked → registry.operations.get? name = opened.operations.get? name
  policy : registry.duplicatePolicy = opened.duplicatePolicy

variable {opened store after : Store σ} {asked : List String} {guard next : Guard}

theorem Confines.operation {name : String} {texts : List String} {callable : Reference}
    {run : Run σ Unit} {outcome : Except Failure Unit}
    (confines : Confines opened.shared asked guard store.shared)
    (asks : guard.operation name texts callable = (next, run))
    (ran : run store = some (outcome, after)) :
    Confines opened.shared (asked ++ [name]) next after.shared := by
  obtain ⟨rfl, rfl⟩ := Prod.mk.inj asks
  have tracks (other : String) : other ∈ (guard.track name).names ↔ other ∈ asked ++ [name] := by
    rw [mem_track, confines.tracks, List.mem_append, List.mem_singleton]
  rw [Run.editShared_apply] at ran
  split at ran
  · cases ran
    refine ⟨tracks, ?_, confines.policy⟩
    intro other missing
    exact confines.others other fun member => missing (List.mem_append_left [name] member)
  · rename_i changed events edited
    cases ran
    refine ⟨tracks, ?_, (Registry.duplicatePolicy_of_edit edited).trans confines.policy⟩
    intro other missing
    simp only [List.mem_append, List.mem_singleton, not_or] at missing
    exact (Registry.get?_of_operation edited missing.2).trans (confines.others other missing.1)

theorem Worked.confines (worked : Worked opened asked guard store) :
    Confines opened.shared asked guard store.shared := by
  induction worked with
  | opened => exact ⟨fun _ => .rfl, fun _ _ => rfl, rfl⟩
  | operation _ asks ran ih => exact ih.operation asks ran
  | operationByName _ asks ran ih => exact ih.operation asks ran
  | aside _ same ih =>
      rw [same]
      exact ih

namespace Confines

variable {registry before : Registry} (confines : Confines before asked guard registry)

include confines

theorem get?_remove (name : String) :
    (registry.remove guard.names).1.operations.get? name =
      if name ∈ asked then none else before.operations.get? name := by
  rw [Registry.get?_remove]
  by_cases member : name ∈ asked
  · rw [if_pos ((confines.tracks name).mpr member), if_pos member]
  · rw [if_neg (mt (confines.tracks name).mp member), if_neg member, confines.others name member]

theorem duplicatePolicy_remove :
    (registry.remove guard.names).1.duplicatePolicy = before.duplicatePolicy := by
  rw [Registry.duplicatePolicy_remove, confines.policy]

theorem remove_eq_iff :
    (registry.remove guard.names).1 = before ↔ ∀ name ∈ asked, before.has name = false := by
  have unknown (name : String) :
      before.has name = false ↔ before.operations.get? name = none := by
    rw [Registry.has, NameTable.contains, Option.isSome_eq_false_iff, Option.isNone_iff_eq_none]
  constructor
  · intro same name member
    have gone := confines.get?_remove name
    rw [same, if_pos member] at gone
    exact (unknown name).mpr gone
  · intro fresh
    have operations : (registry.remove guard.names).1.operations = before.operations := by
      apply NameTable.ext_get?
      intro name
      rw [confines.get?_remove]
      by_cases member : name ∈ asked
      · rw [if_pos member, (unknown name).mp (fresh name member)]
      · rw [if_neg member]
    exact congrArg₂ Registry.mk operations confines.duplicatePolicy_remove

end Confines

/-- A closed guard leaves nothing under the names it was asked for and everything else as it was,
so it undoes its registrations exactly when it was asked for new names only. -/
theorem close_leaves_others (worked : Worked opened asked guard store) :
    ∃ after, guard.close store = some (.ok (), after) ∧
      (∀ name, after.shared.operations.get? name =
        if name ∈ asked then none else opened.shared.operations.get? name) ∧
      after.shared.duplicatePolicy = opened.shared.duplicatePolicy ∧
      (after.shared = opened.shared ↔ ∀ name ∈ asked, opened.shared.has name = false) := by
  have confines := worked.confines
  have closed : guard.close store = some (.ok (),
      { store with shared := (store.shared.remove guard.names).1 }.report
        [.operationsRemoved (store.shared.remove guard.names).2]) := Run.editShared_apply _ _
  exact ⟨_, closed, confines.get?_remove, confines.duplicatePolicy_remove, confines.remove_eq_iff⟩

namespace Untidy

def fresh : Store Unit := .new ()

def registration : Edit := .operation "size" ["List -> Number"] (.named "count")

theorem worked : Worked fresh ["then"] ⟨["then"]⟩ fresh := by
  have ran : (Run.editShared (.operationByName "then" ["Any -> Any"]) : Run Unit Unit) fresh =
      some (.error (.unknownCallable "then"), fresh) := rfl
  exact .operationByName .opened rfl ran

def registered : Store Unit :=
  { fresh with shared := fresh.shared.push History.size }.report [History.size.registered]

theorem worked_twice : Worked fresh ["size", "then"] ⟨["size", "then"]⟩ registered := by
  have edited : fresh.shared.edit registration =
      .ok (fresh.shared.push History.size, [History.size.registered]) := rfl
  have ran : Run.editShared registration fresh = some (.ok (), registered) := by
    rw [Run.editShared_apply, edited]
    rfl
  have failed : (Run.editShared (.operationByName "then" ["Any -> Any"]) : Run Unit Unit)
      registered = some (.error (.unknownCallable "then"), registered) := rfl
  exact .operationByName (.operation .opened rfl ran) rfl failed

end Untidy

/-- A guard that registered nothing takes the built-in operation away. -/
theorem close_takes_builtin :
    Worked Untidy.fresh ["then"] ⟨["then"]⟩ Untidy.fresh ∧
      Untidy.fresh.shared.overloads "then" = [Registry.applyOverload] ∧
      ∃ after, (⟨["then"]⟩ : Guard).close Untidy.fresh = some (.ok (), after) ∧
        after.shared.overloads "then" = [] :=
  ⟨Untidy.worked, rfl, _, rfl, rfl⟩

theorem close_leaves_others_twice :
    Worked Untidy.fresh ["size", "then"] ⟨["size", "then"]⟩ Untidy.registered ∧
      ∃ after, (⟨["size", "then"]⟩ : Guard).close Untidy.registered = some (.ok (), after) ∧
        after.shared.operations.get? "size" = none ∧ after.shared ≠ Untidy.fresh.shared := by
  obtain ⟨after, closed, held, -, restored⟩ := close_leaves_others Untidy.worked_twice
  refine ⟨Untidy.worked_twice, after, closed, held "size", ?_⟩
  intro same
  cases restored.mp same "then" (by decide)

end Guard
end LazyDispatch
