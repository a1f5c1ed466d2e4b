import LazyDispatch.Proofs.Refusing
import LazyDispatch.Proofs.Shuffling

/-! How signatures are grouped. An overload of many signatures and as many overloads of one
signature each come to the same candidates; and each of those can be registered by the text of its
signature, whatever the policy. So the grouping cannot be told from a snapshot. -/

namespace LazyDispatch

namespace Overload

def split (overload : Overload) : List Overload :=
  overload.signatures.map fun signature =>
    ⟨overload.operation, [signature], overload.callable⟩

def singly (overload : Overload) (reference : Reference) : List Edit :=
  overload.signatures.map fun signature =>
    .operation overload.operation [signature.display] reference

theorem candidates_split (overload : Overload) :
    overload.split.flatMap candidates = overload.candidates := by
  rw [split, List.flatMap_map, candidates, List.map_eq_flatMap]
  rfl

end Overload

namespace Registry

variable {registry other : Registry}

def pushAll (registry : Registry) (overloads : List Overload) : Registry :=
  overloads.foldl push registry

theorem get?_pushAll {name : String} {overloads : List Overload} (filled : overloads ≠ [])
    (named : ∀ overload ∈ overloads, overload.operation = name) (asked : String) :
    (registry.pushAll overloads).operations.get? asked =
      if asked = name then some (registry.overloads name ++ overloads)
      else registry.operations.get? asked := by
  induction overloads generalizing registry with
  | nil => exact absurd rfl filled
  | cons overload rest ih =>
      obtain ⟨here, later⟩ := List.forall_mem_cons.mp named
      have first : (registry.push overload).operations.get? asked =
          if asked = name then some (registry.overloads name ++ [overload])
          else registry.operations.get? asked := by
        rw [push, NameTable.get?_put, here]
      cases rest with
      | nil => exact first
      | cons next rest =>
          have onward : ((registry.push overload).pushAll (next :: rest)).operations.get? asked =
              _ := ih (List.cons_ne_nil next rest) later
          rw [pushAll, List.foldl_cons, ← pushAll, onward, first, overloads_push, if_pos here.symm,
            List.append_assoc]
          by_cases same : asked = name <;> simp [same]

theorem candidates_pushAll_split (registry : Registry) (overload : Overload)
    (filled : overload.signatures ≠ []) :
    (registry.pushAll overload.split).candidates = (registry.push overload).candidates := by
  have some : overload.split ≠ [] := by simpa [Overload.split] using filled
  have named : ∀ single ∈ overload.split, single.operation = overload.operation := by
    simp [Overload.split]
  apply NameTable.ext_get?
  intro name
  rw [candidates, candidates, NameTable.get?_map, NameTable.get?_map, get?_pushAll some named, push,
    NameTable.get?_put]
  by_cases same : name = overload.operation
  · simp [same, List.flatMap_append, overload.candidates_split]
  · simp [same]

theorem snapshot_congr (same : registry.candidates = other.candidates) :
    registry.snapshot = other.snapshot := by
  rw [snapshot, snapshot, clash?, clash?, same]

theorem Admits.of_subset {name : String} {signatures fewer : List Signature} {callable : Callable}
    (admits : registry.Admits ⟨name, signatures, callable⟩) (subset : fewer ⊆ signatures) :
    registry.Admits ⟨name, fewer, callable⟩ := by
  intro strict
  have apart := isDuplicate_eq_false_iff.mp (admits strict)
  refine isDuplicate_eq_false_iff.mpr ?_
  intro held member
  exact List.disjoint_of_subset_right subset (apart held member)

theorem Admits.push {overload added : Overload} (admits : registry.Admits overload)
    (apart : added.signatures.Disjoint overload.signatures) :
    (registry.push added).Admits overload := by
  intro strict
  have before := isDuplicate_eq_false_iff.mp (admits strict)
  refine isDuplicate_eq_false_iff.mpr ?_
  intro held member
  rw [overloads_push] at member
  split at member
  · rcases List.mem_append.mp member with old | new
    · exact before held old
    · rw [List.mem_singleton.mp new]
      exact apart
  · exact before held member

/-- Where an overload is admitted, so is each of its signatures after those before it. -/
theorem editAll_singly {overload : Overload} (admits : registry.Admits overload)
    (distinct : overload.signatures.Nodup) {reference : Reference}
    (resolved : reference.resolve = .ok overload.callable) :
    registry.succeeding (overload.singly reference) = overload.singly reference ∧
      (registry.editAll (overload.singly reference)).1 = registry.pushAll overload.split := by
  obtain ⟨name, signatures, callable⟩ := overload
  induction signatures generalizing registry with
  | nil => exact ⟨rfl, rfl⟩
  | cons signature rest ih =>
      obtain ⟨new, others⟩ := List.nodup_cons.mp distinct
      have alone : registry.Admits ⟨name, [signature], callable⟩ := admits.of_subset (by simp)
      have meant : (Edit.operation name [signature.display] reference).overload? =
          some ⟨name, [signature], callable⟩ :=
        Edit.overload?_operation.mpr ⟨_, _, signature.parseAll_display, resolved, rfl⟩
      have first := (edit_eq_inserting meant).trans (inserting_eq_ok_iff.mpr ⟨alone, rfl, rfl⟩)
      have left : (registry.push ⟨name, [signature], callable⟩).Admits ⟨name, rest, callable⟩ :=
        (admits.of_subset (List.subset_cons_self _ _)).push (List.singleton_disjoint.mpr new)
      obtain ⟨succeed, made⟩ := ih left others resolved
      simp only [Overload.singly, Overload.split] at succeed made ⊢
      simp only [List.map_cons, succeeding, editAll, first, succeed, made]
      exact ⟨trivial, rfl⟩

end Registry

/-- Signatures that were registered together can be registered one by one, by their texts and in
order, and no snapshot differs: it is refused for the same clash, or has the same candidates. So
streams over the two registries are the same, call by call. -/
theorem grouping_invisible {registry whole : Registry} {name : String} {texts : List String}
    {reference : Reference} {events : List Event} (filled : texts ≠ [])
    (registered : registry.edit (.operation name texts reference) = .ok (whole, events)) :
    ∃ overload : Overload, overload.operation = name ∧
      whole.overloads name = registry.overloads name ++ [overload] ∧
      registry.succeeding (overload.singly reference) = overload.singly reference ∧
      (registry.editAll (overload.singly reference)).1.snapshot = whole.snapshot ∧
      ∀ {σ : Type} (source : Value) (calls : List Call) (store : Store σ),
        (do (← Run.takeSnapshot (registry.editAll (overload.singly reference)).1).chain source calls :
          Run σ (List (Stream Value))) store =
        (do (← Run.takeSnapshot whole).chain source calls : Run σ (List (Stream Value))) store := by
  rcases Registry.of_edit_eq_ok registered with
    ⟨overload, meant, rfl, -⟩ | ⟨names, other, -⟩ | ⟨other, -⟩
  · have inserted := (Registry.edit_eq_inserting meant).symm.trans registered
    obtain ⟨admits, -, -⟩ := Registry.inserting_eq_ok_iff.mp inserted
    obtain ⟨signatures, callable, parsed, resolved, rfl⟩ := Edit.overload?_operation.mp meant
    obtain ⟨succeed, made⟩ :=
      Registry.editAll_singly admits (Signature.nodup_of_parseAll parsed) resolved
    have candidates := registry.candidates_pushAll_split ⟨name, signatures, callable⟩
      (Signature.ne_nil_of_parseAll filled parsed)
    rw [← made] at candidates
    have same := Registry.snapshot_congr candidates
    refine ⟨⟨name, signatures, callable⟩, rfl, ?_, succeed, same, ?_⟩
    · rw [Registry.overloads_push, if_pos rfl]
    · intro σ source calls store
      rw [Run.takeSnapshot, Run.takeSnapshot, same]
  · cases other
  · cases other

namespace Grouping

def registry : Registry := Registry.withBuiltins.withPolicy .reject

def texts : List String := ["List|Map -> Number", "Array -> Number|String"]

def overload : Overload :=
  ⟨"size", [⟨.list, [], .number⟩, ⟨.map, [], .number⟩, ⟨.map, [], .string⟩], .native .count⟩

end Grouping

theorem grouping_invisible_size :
    Grouping.texts ≠ [] ∧
      Grouping.registry.edit (.operation "size" Grouping.texts (.named "count")) =
        .ok (Grouping.registry.push Grouping.overload, [Grouping.overload.registered]) ∧
      Grouping.registry.succeeding (Grouping.overload.singly (.named "count")) =
        Grouping.overload.singly (.named "count") ∧
      (Grouping.registry.editAll (Grouping.overload.singly (.named "count"))).1.snapshot =
        (Grouping.registry.push Grouping.overload).snapshot := by
  have filled : Grouping.texts ≠ [] := List.cons_ne_nil _ _
  have registered : Grouping.registry.edit (.operation "size" Grouping.texts (.named "count")) =
      .ok (Grouping.registry.push Grouping.overload, [Grouping.overload.registered]) := rfl
  obtain ⟨added, -, appended, succeed, same, -⟩ := grouping_invisible filled registered
  have held : (Grouping.registry.push Grouping.overload).overloads "size" =
      Grouping.registry.overloads "size" ++ [Grouping.overload] := rfl
  rw [held] at appended
  cases List.append_cancel_left appended
  exact ⟨filled, registered, succeed, same⟩

end LazyDispatch
