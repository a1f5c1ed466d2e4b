import LazyDispatch.Proofs.ByteOrder
import LazyDispatch.Proofs.Filing
import LazyDispatch.Store
import Mathlib.Data.List.Nodup

/-! Validation of snapshots. A registry is copied unless two signatures of one operation share their
parameters; the failure names the least operation where they do, and a copy holds every signature
under its name, in order. -/

namespace LazyDispatch

theorem firstRepeat_eq_none_iff {seen : List (List Tag)} {candidates : List Candidate} :
    firstRepeat seen candidates = none ↔
      (candidates.map Candidate.params).Nodup ∧
        ∀ candidate ∈ candidates, candidate.params ∉ seen := by
  induction candidates generalizing seen with
  | nil => simp [firstRepeat]
  | cons candidate rest ih =>
      rw [firstRepeat, List.map_cons, List.nodup_cons, List.forall_mem_cons]
      split
      · rename_i known
        simp [known]
      · rename_i new
        rw [ih]
        constructor
        · rintro ⟨distinct, apart⟩
          refine ⟨⟨?_, distinct⟩, new, ?_⟩
          · intro present
            obtain ⟨other, member, same⟩ := List.mem_map.mp present
            exact apart other member (same ▸ List.mem_cons_self)
          · exact fun other member known => apart other member (List.mem_cons_of_mem _ known)
        · rintro ⟨⟨only, distinct⟩, -, apart⟩
          refine ⟨distinct, ?_⟩
          intro other member known
          rcases List.mem_cons.mp known with same | older
          · exact only (same ▸ List.mem_map_of_mem member)
          · exact apart other member older

namespace Registry

/-- No two signatures of a name share their parameters, be they of one overload or of two. -/
structure Unambiguous (registry : Registry) (name : String) : Prop where
  within : ∀ overload ∈ registry.overloads name,
    overload.signatures.Pairwise fun one other => one.params ≠ other.params
  between : (registry.overloads name).Pairwise fun overload later =>
    ∀ one ∈ overload.signatures, ∀ other ∈ later.signatures, one.params ≠ other.params

/-- The name is ambiguous, and in byte order the least that is. -/
structure Offends (registry : Registry) (name : String) : Prop where
  ambiguous : ¬ registry.Unambiguous name
  least : ∀ other, ¬ registry.Unambiguous other →
    other = name ∨ Text.bytes name < Text.bytes other

end Registry

/-- The snapshot has the names of the registry, and under each the signatures of its overloads in
order, each with the callable it was registered with. -/
structure Snapshot.Copies (snapshot : Snapshot) (registry : Registry) : Prop where
  names : snapshot.names = registry.names
  candidates : ∀ name, snapshot.candidates? name =
    (registry.operations.get? name).map fun overloads =>
      overloads.flatMap fun overload =>
        overload.signatures.map fun signature => ⟨name, signature, overload.callable⟩
  distinct : ∀ name candidates, snapshot.candidates? name = some candidates →
    (candidates.map Candidate.params).Nodup

namespace Registry

variable {registry : Registry}

theorem nodup_params_iff (overloads : List Overload) :
    ((overloads.flatMap Overload.candidates).map Candidate.params).Nodup ↔
      (∀ overload ∈ overloads,
        overload.signatures.Pairwise fun one other => one.params ≠ other.params) ∧
      overloads.Pairwise fun overload later =>
        ∀ one ∈ overload.signatures, ∀ other ∈ later.signatures, one.params ≠ other.params := by
  have params (overload : Overload) : overload.candidates.map Candidate.params =
      overload.signatures.map Signature.params := List.map_map
  rw [List.map_flatMap, List.nodup_flatMap]
  simp only [params, List.Nodup, List.pairwise_map]
  refine and_congr_right fun _ => List.Pairwise.iff fun overload later => ?_
  constructor
  · intro disjoint one first other second same
    exact disjoint (List.mem_map_of_mem first) (same ▸ List.mem_map_of_mem second)
  · intro apart params first second
    obtain ⟨one, present, rfl⟩ := List.mem_map.mp first
    obtain ⟨other, held, same⟩ := List.mem_map.mp second
    exact apart one present other held same.symm

theorem firstRepeat_row_iff {name : String} {candidates : List Candidate}
    (row : (name, candidates) ∈ registry.candidates.rows) :
    firstRepeat [] candidates = none ↔ registry.Unambiguous name := by
  rw [NameTable.mem_rows_iff, Registry.candidates, NameTable.get?_map] at row
  obtain ⟨overloads, known, rfl⟩ := Option.map_eq_some_iff.mp row
  have filed : registry.overloads name = overloads := by rw [Registry.overloads, known]; rfl
  rw [firstRepeat_eq_none_iff, nodup_params_iff, ← filed]
  constructor
  · rintro ⟨⟨within, between⟩, -⟩
    exact ⟨within, between⟩
  · rintro ⟨within, between⟩
    exact ⟨⟨within, between⟩, by simp⟩

theorem exists_row_of_ambiguous {name : String} (ambiguous : ¬ registry.Unambiguous name) :
    ∃ candidates, (name, candidates) ∈ registry.candidates.rows := by
  cases known : registry.operations.get? name with
  | none =>
      have empty : registry.overloads name = [] := by rw [Registry.overloads, known]; rfl
      refine absurd ⟨?_, ?_⟩ ambiguous
      · rw [empty]
        simp
      · rw [empty]
        exact List.Pairwise.nil
  | some overloads =>
      refine ⟨overloads.flatMap Overload.candidates, ?_⟩
      rw [NameTable.mem_rows_iff, Registry.candidates, NameTable.get?_map, known]
      rfl

theorem clash?_eq_none_iff :
    registry.clash? = none ↔ ∀ name, registry.Unambiguous name := by
  rw [clash?, List.findSome?_eq_none_iff]
  constructor
  · intro clear name
    by_contra ambiguous
    obtain ⟨candidates, row⟩ := exists_row_of_ambiguous ambiguous
    have none := Option.map_eq_none_iff.mp (clear _ row)
    exact ambiguous ((firstRepeat_row_iff row).mp none)
  · rintro clear ⟨name, candidates⟩ row
    exact Option.map_eq_none_iff.mpr ((firstRepeat_row_iff row).mpr (clear name))

theorem offends_of_clash {clash : Clash} (found : registry.clash? = some clash) :
    registry.Offends clash.operation := by
  rw [clash?, List.findSome?_eq_some_iff] at found
  obtain ⟨front, ⟨name, candidates⟩, back, rows, here, before⟩ := found
  obtain ⟨candidate, repeated, rfl⟩ := Option.map_eq_some_iff.mp here
  have row {entry : String × List Candidate} (member : entry ∈ front ++ (name, candidates) :: back) :
      entry ∈ registry.candidates.rows := rows ▸ member
  constructor
  · rw [← firstRepeat_row_iff (row (List.mem_append_right _ List.mem_cons_self)), repeated]
    exact Option.some_ne_none candidate
  · intro other ambiguous
    obtain ⟨others, placed⟩ := exists_row_of_ambiguous ambiguous
    rw [rows] at placed
    rcases List.mem_append.mp placed with earlier | later
    · have none := Option.map_eq_none_iff.mp (before _ earlier)
      exact absurd ((firstRepeat_row_iff (row (List.mem_append_left _ earlier))).mp none) ambiguous
    · rcases List.mem_cons.mp later with same | after
      · exact .inl (Prod.mk.inj same).1
      -- The rows are sorted by name, so a name after this one is greater.
      · have sorted := registry.candidates.increasing
        rw [Increasing, rows] at sorted
        have tail := (List.pairwise_append.mp sorted).2.1
        exact .inr (Text.bytes_lt ((List.pairwise_cons.mp tail).1 _ after))

theorem nodup_of_clash?_eq_none (clear : registry.clash? = none) {name : String}
    {candidates : List Candidate} (held : registry.candidates.get? name = some candidates) :
    (candidates.map Candidate.params).Nodup := by
  have row := NameTable.mem_rows_iff.mpr held
  have unambiguous := clash?_eq_none_iff.mp clear name
  exact (firstRepeat_eq_none_iff.mp ((firstRepeat_row_iff row).mpr unambiguous)).1

theorem copies_of_clash?_eq_none (filed : registry.Filed) (clear : registry.clash? = none) :
    Snapshot.Copies ⟨registry.candidates⟩ registry := by
  have known (name : String) : (registry.candidates).get? name =
      (registry.operations.get? name).map fun overloads =>
        overloads.flatMap fun overload =>
          overload.signatures.map fun signature => ⟨name, signature, overload.callable⟩ := by
    rw [Registry.candidates, NameTable.get?_map]
    cases known : registry.operations.get? name with
    | none => rfl
    | some overloads =>
        have named : ∀ overload ∈ overloads, overload.operation = name := by
          intro overload member
          refine filed name overload ?_
          rw [Registry.overloads, known]
          exact member
        simp only [Option.map_some, Option.some.injEq]
        apply List.flatMap_congr
        intro overload member
        rw [Overload.candidates, named overload member]
  exact ⟨NameTable.names_map _ _, known, fun _ _ => nodup_of_clash?_eq_none clear⟩

end Registry

variable {σ : Type}

theorem Run.takeSnapshot_apply (registry : Registry) (store : Store σ) :
    takeSnapshot registry store =
      match registry.clash? with
      | none => some (.ok ⟨registry.candidates⟩, store)
      | some clash =>
        some (.error (.ambiguousSignature clash.operation),
          store.report [.ambiguousSignature clash]) := by
  rw [takeSnapshot, Registry.snapshot]
  cases registry.clash? <;> rfl

/-- A snapshot is refused exactly when some name is ambiguous, by the least such name; any other
registry is copied as it is. -/
theorem snapshot_exact {registry : Registry} (reachable : registry.Reachable) (store : Store σ) :
    ((∃ snapshot after, Run.takeSnapshot registry store = some (.ok snapshot, after)) ↔
        ∀ name, registry.Unambiguous name) ∧
      ((¬ ∀ name, registry.Unambiguous name) → ∃ name after,
        Run.takeSnapshot registry store = some (.error (.ambiguousSignature name), after) ∧
          registry.Offends name) ∧
      ∀ snapshot after, Run.takeSnapshot registry store = some (.ok snapshot, after) →
        snapshot.Copies registry := by
  rw [← Registry.clash?_eq_none_iff, Run.takeSnapshot_apply]
  cases found : registry.clash? with
  | none =>
      refine ⟨⟨fun _ => rfl, fun _ => ⟨_, _, rfl⟩⟩, fun clashing => absurd rfl clashing, ?_⟩
      intro snapshot after taken
      cases taken
      exact Registry.copies_of_clash?_eq_none reachable.filed found
  | some clash =>
      refine ⟨⟨?_, ?_⟩, ?_, ?_⟩
      · rintro ⟨snapshot, after, taken⟩
        cases taken
      · intro clear
        cases clear
      · intro _
        exact ⟨_, _, rfl, Registry.offends_of_clash found⟩
      · intro snapshot after taken
        cases taken

namespace Clashing

def total : Overload := ⟨"total", [⟨.list, [], .number⟩, ⟨.list, [], .string⟩], .native .sum⟩

def size : Overload := ⟨"size", [⟨.list, [], .number⟩], .native .count⟩

def sizeOfAny : Overload := ⟨"size", [⟨.any, [], .number⟩, ⟨.list, [], .any⟩], .native .count⟩

def registry : Registry := ((Registry.empty.push total).push size).push sizeOfAny

theorem reachable : registry.Reachable := by
  have first : Registry.empty.edit (.insert total) = .ok (_, _) := rfl
  have second : (Registry.empty.push total).edit (.insert size) = .ok (_, _) := rfl
  have third : ((Registry.empty.push total).push size).edit (.insert sizeOfAny) =
      .ok (registry, _) := rfl
  exact ((Registry.Reachable.empty.edit first).edit second).edit third

theorem total_ambiguous : ¬ registry.Unambiguous "total" := by
  intro unambiguous
  have member : total ∈ registry.overloads "total" := List.mem_singleton.mpr rfl
  have apart := unambiguous.within total member
  exact (List.pairwise_cons.mp apart).1 ⟨.list, [], .string⟩ (List.mem_singleton.mpr rfl) rfl

end Clashing

theorem snapshot_exact_clashing :
    Clashing.registry.Reachable ∧ ∃ after,
      Run.takeSnapshot Clashing.registry (Store.new ()) =
        some (.error (.ambiguousSignature "size"), after) ∧ Clashing.registry.Offends "size" := by
  obtain ⟨-, refused, -⟩ := snapshot_exact Clashing.reachable (Store.new ())
  obtain ⟨name, after, failed, offends⟩ :=
    refused fun clear => Clashing.total_ambiguous (clear "total")
  have least : Run.takeSnapshot Clashing.registry (Store.new ()) =
      some (.error (.ambiguousSignature "size"), _) := rfl
  cases least.symm.trans failed
  exact ⟨Clashing.reachable, _, rfl, offends⟩

end LazyDispatch
