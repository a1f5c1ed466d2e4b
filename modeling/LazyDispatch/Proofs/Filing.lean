import LazyDispatch.Registry.Edit

/-! Registries by how they came about. An edit that does not fail adds an overload, removes names or
clears the registry; so whatever edits it went through, it files each overload under the name it was
registered with. -/

namespace LazyDispatch

def Edit.overload? : Edit → Option Overload
  | operation name texts reference =>
    match reference.resolve, Signature.parseAll texts with
    | .ok callable, .ok signatures => some ⟨name, signatures, callable⟩
    | _, _ => none
  | insert overload => some overload
  | remove _ | clear => none

theorem Edit.overload?_operation {name : String} {texts : List String} {reference : Reference}
    {overload : Overload} :
    (operation name texts reference).overload? = some overload ↔
      ∃ signatures callable, Signature.parseAll texts = .ok signatures ∧
        reference.resolve = .ok callable ∧ overload = ⟨name, signatures, callable⟩ := by
  rw [overload?]
  cases reference.resolve with
  | error failure => simp
  | ok callable =>
      cases Signature.parseAll texts with
      | error failure => simp
      | ok signatures => simp [eq_comm]

namespace Registry

/-- The registries that come about: fresh ones, and those that edits or a policy make of them. -/
inductive Reachable : Registry → Prop where
  | empty : Reachable empty
  | withBuiltins : Reachable withBuiltins
  | ofConfig (config : Config) : Reachable (ofConfig config)
  | withPolicy {registry : Registry} (reachable : Reachable registry) (policy : DuplicatePolicy) :
      Reachable (registry.withPolicy policy)
  | edit {registry changed : Registry} {edit : Edit} {events : List Event}
      (reachable : Reachable registry) (edited : registry.edit edit = .ok (changed, events)) :
      Reachable changed

def Filed (registry : Registry) : Prop :=
  ∀ name, ∀ overload ∈ registry.overloads name, overload.operation = name

theorem overloads_push (registry : Registry) (overload : Overload) (name : String) :
    (registry.push overload).overloads name =
      if name = overload.operation then registry.overloads name ++ [overload]
      else registry.overloads name := by
  rw [overloads, push, NameTable.get?_put]
  split
  · rename_i same
    rw [same]
    rfl
  · rfl

theorem overloads_erase (registry : Registry) (removed name : String) :
    overloads { registry with operations := registry.operations.erase removed } name =
      if name = removed then [] else registry.overloads name := by
  rw [overloads, NameTable.get?_erase]
  split
  · rfl
  · rfl

theorem Filed.of_operations_eq {registry changed : Registry} (filed : registry.Filed)
    (same : changed.operations = registry.operations) : changed.Filed := by
  intro name overload member
  rw [overloads, same] at member
  exact filed name overload member

theorem filed_empty : empty.Filed := by
  intro name overload member
  cases member

theorem Filed.push {registry : Registry} (filed : registry.Filed) (overload : Overload) :
    (registry.push overload).Filed := by
  intro name other member
  rw [overloads_push] at member
  split at member
  · rename_i same
    rcases List.mem_append.mp member with old | new
    · exact filed name other old
    · rw [List.mem_singleton.mp new, same]
  · exact filed name other member

theorem Filed.remove {registry : Registry} (filed : registry.Filed) (names : List String) :
    (registry.remove names).1.Filed := by
  induction names generalizing registry with
  | nil => exact filed
  | cons removed names ih =>
      apply ih
      intro name overload member
      rw [overloads_erase] at member
      split at member
      · cases member
      · exact filed name overload member

def Admits (registry : Registry) (overload : Overload) : Prop :=
  registry.duplicatePolicy = .reject → registry.isDuplicate overload = false

theorem inserting_eq_ok_iff {registry changed : Registry} {overload : Overload}
    {events : List Event} :
    registry.inserting overload = .ok (changed, events) ↔
      registry.Admits overload ∧ changed = registry.push overload ∧
        events = [overload.registered] := by
  rw [inserting, insert, Admits, ← Bool.not_eq_true, ← not_and]
  split
  · rename_i refused
    constructor
    · intro inserted
      cases inserted
    · rintro ⟨admitted, -⟩
      exact absurd refused admitted
  · rename_i admitted
    constructor
    · intro inserted
      cases inserted
      exact ⟨admitted, rfl, rfl⟩
    · rintro ⟨-, rfl, rfl⟩
      rfl

theorem edit_eq_inserting {registry : Registry} {edit : Edit} {overload : Overload}
    (meant : edit.overload? = some overload) :
    registry.edit edit = registry.inserting overload := by
  cases edit with
  | operation name texts reference =>
      obtain ⟨signatures, callable, parsed, resolved, rfl⟩ := Edit.overload?_operation.mp meant
      rw [Registry.edit, resolved, parsed]
      rfl
  | insert other =>
      cases meant
      rfl
  | remove names => cases meant
  | clear => cases meant

theorem of_edit_eq_ok {registry changed : Registry} {edit : Edit} {events : List Event}
    (edited : registry.edit edit = .ok (changed, events)) :
    (∃ overload, edit.overload? = some overload ∧ changed = registry.push overload ∧
        events = [overload.registered]) ∨
      (∃ names, edit = .remove names ∧ changed = (registry.remove names).1 ∧
        events = [.operationsRemoved (registry.remove names).2]) ∨
      (edit = .clear ∧ changed = registry.clear ∧ events = []) := by
  cases edit with
  | operation name texts reference =>
      rw [Registry.edit] at edited
      cases resolved : reference.resolve with
      | error failure =>
          rw [resolved] at edited
          cases edited
      | ok callable =>
          cases parsed : Signature.parseAll texts with
          | error failure =>
              rw [resolved, parsed] at edited
              cases edited
          | ok signatures =>
              rw [resolved, parsed] at edited
              have meant : (Edit.operation name texts reference).overload? =
                  some ⟨name, signatures, callable⟩ :=
                Edit.overload?_operation.mpr ⟨_, _, parsed, resolved, rfl⟩
              exact .inl ⟨_, meant, (inserting_eq_ok_iff.mp edited).2⟩
  | insert overload => exact .inl ⟨overload, rfl, (inserting_eq_ok_iff.mp edited).2⟩
  | remove names =>
      cases edited
      exact .inr (.inl ⟨names, rfl, rfl, rfl⟩)
  | clear =>
      cases edited
      exact .inr (.inr ⟨rfl, rfl, rfl⟩)

theorem duplicatePolicy_remove (registry : Registry) (names : List String) :
    (registry.remove names).1.duplicatePolicy = registry.duplicatePolicy := by
  induction names generalizing registry with
  | nil => rfl
  | cons removed names ih => exact ih _

theorem duplicatePolicy_of_edit {registry changed : Registry} {edit : Edit} {events : List Event}
    (edited : registry.edit edit = .ok (changed, events)) :
    changed.duplicatePolicy = registry.duplicatePolicy := by
  rcases of_edit_eq_ok edited with ⟨overload, -, rfl, -⟩ | ⟨names, -, rfl, -⟩ | ⟨-, rfl, -⟩
  · rfl
  · exact registry.duplicatePolicy_remove names
  · rfl

/-- What every edit keeps that does not fail, any sequence of edits keeps. -/
theorem editAll_induction {motive : Registry → Prop} {registry : Registry} {edits : List Edit}
    (start : motive registry)
    (step : ∀ edit ∈ edits, ∀ before after events, motive before →
      before.edit edit = .ok (after, events) → motive after) :
    motive (registry.editAll edits).1 := by
  induction edits generalizing registry with
  | nil => exact start
  | cons next edits ih =>
      have later := fun edit member => step edit (List.mem_cons_of_mem next member)
      rw [editAll]
      split
      · exact ih start later
      · rename_i changed events edited
        exact ih (step next List.mem_cons_self _ _ _ start edited) later

theorem Filed.edit {registry changed : Registry} {edit : Edit} {events : List Event}
    (filed : registry.Filed) (edited : registry.edit edit = .ok (changed, events)) :
    changed.Filed := by
  rcases of_edit_eq_ok edited with ⟨overload, -, rfl, -⟩ | ⟨names, -, rfl, -⟩ | ⟨-, rfl, -⟩
  · exact filed.push overload
  · exact filed.remove names
  · intro name overload member
    cases member

theorem Reachable.filed {registry : Registry} (reachable : registry.Reachable) :
    registry.Filed := by
  have builtins : Registry.withBuiltins.Filed := filed_empty.push applyOverload
  induction reachable with
  | empty => exact filed_empty
  | withBuiltins => exact builtins
  | ofConfig config =>
      rw [Registry.ofConfig]
      split
      · exact builtins.of_operations_eq rfl
      · exact filed_empty.of_operations_eq rfl
  | withPolicy _ policy ih => exact ih.of_operations_eq rfl
  | edit _ edited ih => exact ih.edit edited

end Registry
end LazyDispatch
