import LazyDispatch.Proofs.ByteOrder
import LazyDispatch.Proofs.Filing
import Mathlib.Data.List.DropRight
import Mathlib.Data.Set.Card

/-! Registries against their history. The log of a registry is the edits that did not fail. Under
each name it holds what was registered there since the last edit that forgets the name, and nothing
else can be seen of it. -/

namespace LazyDispatch

namespace Edit

def forgets (name : String) : Edit → Bool
  | operation _ _ _ | insert _ => false
  | remove names => names.contains name
  | clear => true

def registers? (name : String) (edit : Edit) : Option Overload :=
  edit.overload?.filter fun overload => overload.operation = name

variable {edit : Edit} {overload : Overload}

theorem forgets_of_overload? (meant : edit.overload? = some overload) (name : String) :
    edit.forgets name = false := by
  cases edit with
  | operation _ _ _ => rfl
  | insert _ => rfl
  | remove names => cases meant
  | clear => cases meant

theorem registers?_of_overload? (meant : edit.overload? = some overload) (name : String) :
    edit.registers? name = if name = overload.operation then some overload else none := by
  by_cases same : name = overload.operation
  · simp [registers?, meant, same]
  · simp [registers?, meant, same, Ne.symm same]

end Edit

/-- What a log registers under a name since it last forgets the name, oldest first. -/
def registrations (name : String) (log : List Edit) : List Overload :=
  (log.rtakeWhile fun edit => !edit.forgets name).filterMap (Edit.registers? name)

theorem registrations_concat (name : String) (log : List Edit) (edit : Edit) :
    registrations name (log ++ [edit]) =
      if edit.forgets name then []
      else registrations name log ++ (edit.registers? name).toList := by
  rw [registrations, List.rtakeWhile_concat]
  cases gone : edit.forgets name with
  | true => simp
  | false =>
      have last : [edit].filterMap (Edit.registers? name) = (edit.registers? name).toList := by
        cases added : edit.registers? name <;> simp [added]
      simp [registrations, last]

namespace Registry

def succeeding (registry : Registry) : List Edit → List Edit
  | [] => []
  | edit :: edits =>
    match registry.edit edit with
    | .error _ => registry.succeeding edits
    | .ok (changed, _) => edit :: changed.succeeding edits

/-- A registry to begin with, and its log so far. -/
inductive Fresh : Registry → List Edit → Prop where
  | empty : Fresh .empty []
  | withBuiltins : Fresh .withBuiltins [.insert applyOverload]
  | withPolicy {registry : Registry} {log : List Edit} (fresh : Fresh registry log)
      (policy : DuplicatePolicy) : Fresh (registry.withPolicy policy) log

/-- Under each name stands just what the log registers there, and no name without an overload. -/
structure Reflects (registry : Registry) (log : List Edit) : Prop where
  overloads : ∀ name, registry.overloads name = registrations name log
  filled : ∀ name, registry.operations.get? name ≠ some []

variable {registry changed : Registry} {log : List Edit} {made : Edit} {events : List Event}

theorem get?_remove (names : List String) (name : String) :
    (registry.remove names).1.operations.get? name =
      if name ∈ names then none else registry.operations.get? name := by
  induction names generalizing registry with
  | nil => simp [remove]
  | cons removed names ih =>
      simp only [remove, ih, NameTable.get?_erase, List.mem_cons]
      by_cases same : name = removed <;> simp [same]

theorem overloads_remove (names : List String) (name : String) :
    (registry.remove names).1.overloads name =
      if name ∈ names then [] else registry.overloads name := by
  rw [overloads, get?_remove]
  split
  · rfl
  · rfl

theorem size_remove (names : List String) :
    (registry.remove names).1.size + (registry.remove names).2 = registry.size := by
  induction names generalizing registry with
  | nil => rfl
  | cons removed names ih =>
      have rest := @ih { registry with operations := registry.operations.erase removed }
      have one : (registry.operations.erase removed).size + (registry.has removed).toNat =
          registry.size := registry.operations.size_erase removed
      simp only [size] at rest
      simp only [remove, size]
      cases known : registry.has removed <;> simp [known, size] at one ⊢ <;> omega

namespace Reflects

theorem push (reflects : registry.Reflects log) {overload : Overload}
    (meant : made.overload? = some overload) :
    (registry.push overload).Reflects (log ++ [made]) := by
  constructor
  · intro name
    rw [registrations_concat, Edit.forgets_of_overload? meant, Edit.registers?_of_overload? meant,
      overloads_push, ← reflects.overloads]
    by_cases same : name = overload.operation <;> simp [same]
  · intro name
    rw [Registry.push, NameTable.get?_put]
    by_cases same : name = overload.operation
    · simp [same]
    · simpa [same] using reflects.filled name

theorem remove (reflects : registry.Reflects log) (names : List String) :
    (registry.remove names).1.Reflects (log ++ [.remove names]) := by
  constructor
  · intro name
    rw [registrations_concat, overloads_remove, reflects.overloads]
    by_cases gone : name ∈ names <;> simp [Edit.forgets, Edit.registers?, Edit.overload?, gone]
  · intro name
    rw [get?_remove]
    by_cases gone : name ∈ names
    · simp [gone]
    · simpa [gone] using reflects.filled name

theorem clear : registry.clear.Reflects (log ++ [.clear]) := by
  constructor
  · intro name
    rw [registrations_concat]
    rfl
  · intro name
    simp [Registry.clear]

theorem edit (reflects : registry.Reflects log)
    (edited : registry.edit made = .ok (changed, events)) : changed.Reflects (log ++ [made]) := by
  rcases of_edit_eq_ok edited with ⟨overload, meant, rfl, -⟩ | ⟨names, rfl, rfl, -⟩ | ⟨rfl, rfl, -⟩
  · exact reflects.push meant
  · exact reflects.remove names
  · exact clear

theorem editAll (reflects : registry.Reflects log) (edits : List Edit) :
    (registry.editAll edits).1.Reflects (log ++ registry.succeeding edits) := by
  induction edits generalizing registry log with
  | nil => simpa [Registry.editAll, succeeding] using reflects
  | cons next edits ih =>
      cases outcome : registry.edit next with
      | error failure => simpa [Registry.editAll, succeeding, outcome] using ih reflects
      | ok result =>
          obtain ⟨changed, events⟩ := result
          have onward := ih (reflects.edit outcome)
          simpa [Registry.editAll, succeeding, outcome] using onward

theorem has_iff (reflects : registry.Reflects log) {name : String} :
    registry.has name = true ↔ registrations name log ≠ [] := by
  have filled := reflects.filled name
  rw [← reflects.overloads, Registry.overloads, has, NameTable.contains]
  cases known : registry.operations.get? name with
  | none => simp
  | some overloads =>
      rw [known] at filled
      simpa using filled

end Reflects

theorem Fresh.reflects (fresh : Fresh registry log) : registry.Reflects log := by
  have empty : Registry.empty.Reflects [] := ⟨fun _ => rfl, fun _ => by simp [Registry.empty]⟩
  induction fresh with
  | empty => exact empty
  | withBuiltins => exact empty.push rfl
  | withPolicy _ policy ih => exact ⟨ih.overloads, ih.filled⟩

theorem Fresh.filed (fresh : Fresh registry log) : registry.Filed := by
  induction fresh with
  | empty => exact filed_empty
  | withBuiltins => exact filed_empty.push applyOverload
  | withPolicy _ policy ih => exact ih.of_operations_eq rfl

theorem Filed.editAll (filed : registry.Filed) (edits : List Edit) :
    (registry.editAll edits).1.Filed :=
  editAll_induction filed fun _ _ _ _ _ filed edited => filed.edit edited

theorem names_increasing (registry : Registry) :
    registry.names.Pairwise fun one other => Text.bytes one < Text.bytes other := by
  have rows := registry.operations.increasing
  exact List.pairwise_map.mpr (rows.imp Text.bytes_lt)

theorem size_eq_ncard (registry : Registry) :
    registry.size = {name | registry.has name = true}.ncard := by
  have apart : registry.names.Nodup := by
    refine registry.names_increasing.imp ?_
    intro one other before same
    exact List.lt_irrefl _ (same ▸ before)
  have listed : {name | registry.has name = true} = (registry.names.toFinset : Set String) := by
    ext name
    simp [names, NameTable.mem_names_iff, has]
  rw [listed, Set.ncard_coe_finset, List.toFinset_card_of_nodup apart]
  simp [size, names, NameTable.size, NameTable.names]

structure Recounts (registry : Registry) (log : List Edit) : Prop where
  overloads : ∀ name, registry.overloads name = registrations name log
  named : ∀ name, ∀ overload ∈ registry.overloads name, overload.operation = name
  has : ∀ name, registry.has name = true ↔ registrations name log ≠ []
  names : ∀ name, name ∈ registry.names ↔ registrations name log ≠ []
  increasing : registry.names.Pairwise fun one other => Text.bytes one < Text.bytes other
  size : registry.size = {name | registrations name log ≠ []}.ncard
  removal : ∀ names, ∃ changed count,
    registry.edit (.remove names) = .ok (changed, [.operationsRemoved count]) ∧
      ∀ name, name ∉ names → changed.overloads name = registry.overloads name
  counts : ∀ edit changed events, registry.edit edit = .ok (changed, events) →
    ∀ count, .operationsRemoved count ∈ events → registry.size = changed.size + count

/-- A registry is the log of its edits, whatever they are and whichever of them fail. -/
theorem editAll_recounts {fresh : Registry} {start : List Edit} (new : Fresh fresh start)
    (edits : List Edit) :
    (fresh.editAll edits).1.Recounts (start ++ fresh.succeeding edits) := by
  have reflects := new.reflects.editAll edits
  have filed := new.filed.editAll edits
  generalize (fresh.editAll edits).1 = registry at reflects filed ⊢
  generalize start ++ fresh.succeeding edits = log at reflects ⊢
  constructor
  · exact reflects.overloads
  · exact filed
  · intro name
    exact reflects.has_iff
  · intro name
    exact NameTable.mem_names_iff.trans reflects.has_iff
  · exact registry.names_increasing
  · have same : {name | registrations name log ≠ []} = {name | registry.has name = true} := by
      ext name
      exact reflects.has_iff.symm
    rw [same, registry.size_eq_ncard]
  · intro names
    refine ⟨(registry.remove names).1, (registry.remove names).2, rfl, ?_⟩
    intro name apart
    rw [overloads_remove, if_neg apart]
  · intro edit changed events edited count reported
    rcases of_edit_eq_ok edited with ⟨overload, -, rfl, rfl⟩ | ⟨names, -, rfl, rfl⟩ | ⟨-, rfl, rfl⟩
    · simp [Overload.registered] at reported
    · have same : count = (registry.remove names).2 := by simpa using reported
      rw [same, size_remove]
    · cases reported

end Registry

namespace History

def size : Overload := ⟨"size", [⟨.list, [], .number⟩], .native .count⟩

def length : Overload := ⟨"size", [⟨.string, [], .number⟩], .native .strlen⟩

def trim : Overload := ⟨"trim", [⟨.string, [], .string⟩], .native .trim⟩

def edits : List Edit :=
  [.insert length, .operationByName "count" ["List -> Foo"], .insert trim,
    .remove ["size", "none", "size"], .insert size, .insert length]

end History

theorem Registry.editAll_recounts_edits :
    Registry.Fresh .withBuiltins [.insert Registry.applyOverload] ∧
      (Registry.withBuiltins.editAll History.edits).1.overloads "size" =
        [History.size, History.length] ∧
      (Registry.withBuiltins.editAll History.edits).1.size = 3 := by
  have recounts := Registry.editAll_recounts .withBuiltins History.edits
  refine ⟨.withBuiltins, ?_, ?_⟩
  · rw [recounts.overloads]
    rfl
  · rfl

end LazyDispatch
