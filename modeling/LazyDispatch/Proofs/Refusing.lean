import LazyDispatch.Proofs.History
import LazyDispatch.Proofs.Validation
import LazyDispatch.Proofs.Writing

/-! Registries that refuse repetition. While the policy refuses what a name holds already, no edit
brings a signature into two overloads of a name; and what texts mean repeats nothing itself. So only
signatures that differ in what they return are left to make a name ambiguous. -/

namespace LazyDispatch.Registry

def signatures (registry : Registry) (name : String) : List Signature :=
  (registry.overloads name).flatMap Overload.signatures

/-- The registry refuses repetition, and holds nothing but perhaps the built-in operation. -/
structure Strict (registry : Registry) : Prop where
  policy : registry.duplicatePolicy = .reject
  bare : registry.operations = empty.operations ∨ registry.operations = withBuiltins.operations

/-- No two overloads of a name share a signature. -/
def Parted (registry : Registry) : Prop :=
  ∀ name, (registry.overloads name).Pairwise fun overload later =>
    overload.signatures.Disjoint later.signatures

/-- No overload holds a signature twice. -/
def Tidy (registry : Registry) : Prop :=
  ∀ name, ∀ overload ∈ registry.overloads name, overload.signatures.Nodup

variable {registry changed : Registry} {made : Edit} {events : List Event}

theorem isDuplicate_eq_false_iff {overload : Overload} :
    registry.isDuplicate overload = false ↔
      ∀ held ∈ registry.overloads overload.operation,
        held.signatures.Disjoint overload.signatures := by
  simp only [isDuplicate, List.any_eq_false, List.any_eq_true, List.contains_iff_mem,
    List.Disjoint, not_exists, not_and]

theorem Parted.push (parted : registry.Parted) {overload : Overload}
    (new : registry.isDuplicate overload = false) : (registry.push overload).Parted := by
  intro name
  rw [overloads_push]
  split
  · rename_i same
    refine List.pairwise_append.mpr ⟨parted name, List.pairwise_singleton _ _, ?_⟩
    intro held member last latest
    rw [List.mem_singleton.mp latest]
    exact isDuplicate_eq_false_iff.mp new held (same ▸ member)
  · exact parted name

theorem Parted.remove (parted : registry.Parted) (names : List String) :
    (registry.remove names).1.Parted := by
  intro name
  rw [overloads_remove]
  split
  · exact .nil
  · exact parted name

theorem parted_clear : registry.clear.Parted := fun _ => .nil

theorem Parted.edit (parted : registry.Parted) (strict : registry.duplicatePolicy = .reject)
    (edited : registry.edit made = .ok (changed, events)) : changed.Parted := by
  rcases of_edit_eq_ok edited with ⟨overload, meant, rfl, -⟩ | ⟨names, -, rfl, -⟩ | ⟨-, rfl, -⟩
  · rw [edit_eq_inserting meant] at edited
    exact parted.push ((inserting_eq_ok_iff.mp edited).1 strict)
  · exact parted.remove names
  · exact parted_clear

theorem mem_overloads_of_edit (edited : registry.edit made = .ok (changed, events)) {name : String}
    {overload : Overload} (member : overload ∈ changed.overloads name) :
    overload ∈ registry.overloads name ∨ made.overload? = some overload := by
  rcases of_edit_eq_ok edited with ⟨added, meant, rfl, -⟩ | ⟨names, -, rfl, -⟩ | ⟨-, rfl, -⟩
  · rw [overloads_push] at member
    split at member
    · rcases List.mem_append.mp member with old | new
      · exact .inl old
      · exact .inr (List.mem_singleton.mp new ▸ meant)
    · exact .inl member
  · rw [overloads_remove] at member
    split at member
    · cases member
    · exact .inl member
  · cases member

theorem Tidy.edit (tidy : registry.Tidy) (written : ∀ overload, made ≠ .insert overload)
    (edited : registry.edit made = .ok (changed, events)) : changed.Tidy := by
  intro name overload member
  rcases mem_overloads_of_edit edited member with old | meant
  · exact tidy name overload old
  · cases made with
    | operation name texts reference =>
        obtain ⟨signatures, callable, parsed, -, rfl⟩ := Edit.overload?_operation.mp meant
        exact Signature.nodup_of_parseAll parsed
    | insert other => exact absurd rfl (written other)
    | remove names => cases meant
    | clear => cases meant

theorem nodup_signatures (parted : registry.Parted) (tidy : registry.Tidy) (name : String) :
    (registry.signatures name).Nodup :=
  List.nodup_flatMap.mpr ⟨tidy name, parted name⟩

theorem unambiguous_iff {name : String} :
    registry.Unambiguous name ↔ ((registry.signatures name).map Signature.params).Nodup := by
  have params : (registry.signatures name).map Signature.params =
      ((registry.overloads name).flatMap Overload.candidates).map Candidate.params := by
    simp only [signatures, List.map_flatMap, Overload.candidates, List.map_map]
    rfl
  rw [params, nodup_params_iff]
  constructor
  · rintro ⟨within, between⟩
    exact ⟨within, between⟩
  · rintro ⟨within, between⟩
    exact ⟨within, between⟩

theorem ambiguous_iff {name : String} (distinct : (registry.signatures name).Nodup) :
    ¬ registry.Unambiguous name ↔
      ∃ one ∈ registry.signatures name, ∃ other ∈ registry.signatures name,
        one.params = other.params ∧ one.returns ≠ other.returns := by
  have differ (one other : Signature) (params : one.params = other.params) :
      one.returns ≠ other.returns ↔ one ≠ other := by
    obtain ⟨receiver, args, returns⟩ := one
    obtain ⟨also, others, back⟩ := other
    simp only [Signature.params, List.cons.injEq] at params
    simp [params.1, params.2]
  rw [unambiguous_iff, List.nodup_map_iff_inj_on distinct]
  push Not
  refine exists_congr fun one => and_congr_right fun _ => exists_congr fun other =>
    and_congr_right fun _ => and_congr_right fun params => (differ one other params).symm

theorem exists_clash_iff :
    (∃ clash, registry.snapshot = .error clash) ↔ ∃ name, ¬ registry.Unambiguous name := by
  rw [← not_forall, ← clash?_eq_none_iff, snapshot]
  cases registry.clash? with
  | none => simp
  | some clash => simp

theorem Strict.overloads_eq (strict : registry.Strict) :
    registry.overloads = empty.overloads ∨ registry.overloads = withBuiltins.overloads := by
  refine strict.bare.imp ?_ ?_ <;>
  · intro bare
    funext name
    rw [overloads, bare]
    rfl

theorem Strict.parted (strict : registry.Strict) : registry.Parted := by
  have none : empty.Parted := fun _ => .nil
  intro name
  rcases strict.overloads_eq with bare | bare
  · rw [bare]
    exact none name
  · rw [bare]
    exact none.push (by decide) name

theorem Strict.tidy (strict : registry.Strict) : registry.Tidy := by
  intro name overload member
  rcases strict.overloads_eq with bare | bare
  · rw [bare] at member
    cases member
  · rw [bare, withBuiltins, overloads_push] at member
    split at member
    · rw [List.mem_singleton.mp member]
      decide
    · cases member

/-- Whatever edits come after a strict beginning, and whichever of them fail, no signature is held by
two overloads of a name. Where all overloads were registered by texts, none is held twice at all, so
that a snapshot fails only by signatures that share their parameters and differ in what they
return. -/
theorem strict_holds_once {start : Registry} (strict : start.Strict) (edits : List Edit) :
    (start.editAll edits).1.Parted ∧
      ((∀ overload, .insert overload ∉ edits) →
        (∀ name, ((start.editAll edits).1.signatures name).Nodup) ∧
        ((∃ clash, (start.editAll edits).1.snapshot = .error clash) ↔
          ∃ name, ∃ one ∈ (start.editAll edits).1.signatures name,
            ∃ other ∈ (start.editAll edits).1.signatures name,
              one.params = other.params ∧ one.returns ≠ other.returns)) := by
  have kept : (start.editAll edits).1.duplicatePolicy = .reject ∧
      (start.editAll edits).1.Parted := by
    have first : start.duplicatePolicy = .reject ∧ start.Parted := ⟨strict.policy, strict.parted⟩
    refine editAll_induction (motive := fun registry =>
      registry.duplicatePolicy = .reject ∧ registry.Parted) first ?_
    intro edit _ before after events kept edited
    exact ⟨(duplicatePolicy_of_edit edited).trans kept.1, kept.2.edit kept.1 edited⟩
  refine ⟨kept.2, ?_⟩
  intro written
  have tidy : (start.editAll edits).1.Tidy := by
    refine editAll_induction strict.tidy ?_
    intro edit member before after events tidy edited
    exact tidy.edit (fun overload same => written overload (same ▸ member)) edited
  have distinct (name : String) := nodup_signatures kept.2 tidy name
  refine ⟨distinct, ?_⟩
  rw [exists_clash_iff]
  exact exists_congr fun name => ambiguous_iff (distinct name)

namespace Refusing

def start : Registry := withBuiltins.withPolicy .reject

def edits : List Edit :=
  [.operation "size" ["List|Map -> Number"] (.named "count"),
    .operation "size" ["Array -> Number"] (.named "count"),
    .operation "size" ["List -> String"] (.named "to_string"),
    .remove ["then"]]

end Refusing

theorem strict_holds_once_edits :
    Refusing.start.Strict ∧ (∀ overload, .insert overload ∉ Refusing.edits) ∧
      (Refusing.start.editAll Refusing.edits).1.Parted ∧
      ((Refusing.start.editAll Refusing.edits).1.signatures "size").Nodup ∧
      ∃ clash, (Refusing.start.editAll Refusing.edits).1.snapshot = .error clash := by
  have strict : Refusing.start.Strict := ⟨rfl, .inr rfl⟩
  have written : ∀ overload, .insert overload ∉ Refusing.edits := by
    simp [Refusing.edits]
  have held : (Refusing.start.editAll Refusing.edits).1.signatures "size" =
      [⟨.list, [], .number⟩, ⟨.map, [], .number⟩, ⟨.list, [], .string⟩] := rfl
  obtain ⟨parted, texts⟩ := strict_holds_once strict Refusing.edits
  obtain ⟨distinct, fails⟩ := texts written
  refine ⟨strict, written, parted, distinct "size", fails.mpr ⟨"size", ?_⟩⟩
  rw [held]
  exact ⟨⟨.list, [], .number⟩, by decide, ⟨.list, [], .string⟩, by decide, rfl, by decide⟩

end LazyDispatch.Registry
