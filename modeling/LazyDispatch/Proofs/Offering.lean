import LazyDispatch.Proofs.Refusing
import LazyDispatch.Proofs.Shape

/-! Operations that can be called. Texts mean one signature at least, so that an operation that was
registered by texts has a candidate in every snapshot, and some call of it is accepted. A
registration by no texts at all goes through too: it makes an operation that every snapshot knows
and that refuses each call. -/

namespace LazyDispatch

def Value.ofTag : Tag → Value
  | .null => .null
  | .boolean => .bool false
  | .number => .int 0
  | .string => .string ""
  | .resource => .resource ⟨0, "", 0⟩
  | .function => .function .apply
  | .list => .list []
  | .map => .map [(.text "", .null)]
  | .object => .object ⟨"", []⟩
  | .error => .error ⟨""⟩
  | .stream => .stream ⟨0, ⟨.empty⟩, .null, .null, []⟩
  | .any => .null

theorem Value.fits_ofTag (tag : Tag) : tag.Fits (ofTag tag).tag := by
  cases tag <;> simp [Tag.Fits, ofTag, Value.tag, countsFrom]

theorem Candidate.exists_fits (candidate : Candidate) :
    ∃ receiver args, candidate.Fits (Value.tags receiver args) := by
  have args : List.Forall₂ Tag.Fits candidate.signature.args
      ((candidate.signature.args.map Value.ofTag).map Value.tag) := by
    rw [List.map_map, List.forall₂_map_right_iff, List.forall₂_same]
    exact fun tag _ => Value.fits_ofTag tag
  exact ⟨candidate.signature.receiver, _, .cons (.inr (.inr rfl)) args⟩

namespace Snapshot

/-- The operation has a candidate, and there is a call of it that is accepted. -/
structure Offers (snapshot : Snapshot) (name : String) : Prop where
  candidates : ∃ candidates, snapshot.candidates? name = some candidates ∧ candidates ≠ []
  accepts : ∃ receiver args step next, snapshot.plan receiver name args = .ok (step, next)

/-- The operation is known, but has no candidate and refuses every call. -/
structure Withholds (snapshot : Snapshot) (name : String) : Prop where
  candidates : snapshot.candidates? name = some []
  refuses : ∀ receiver args,
    snapshot.plan receiver name args = .error (.wrongOperationArgs name (Value.tags receiver args))

variable {snapshot : Snapshot} {name : String} {candidates : List Candidate}

theorem offers_of_candidates (known : snapshot.candidates? name = some candidates)
    (filled : candidates ≠ []) : snapshot.Offers name := by
  obtain ⟨candidate, member⟩ := List.exists_mem_of_ne_nil candidates filled
  obtain ⟨receiver, args, fits⟩ := candidate.exists_fits
  exact ⟨⟨candidates, known, filled⟩, receiver, args, plan_of_fit known member fits⟩

theorem withholds_of_none (known : snapshot.candidates? name = some []) :
    snapshot.Withholds name :=
  ⟨known, fun _ _ => plan_of_unfit known (List.forall_mem_nil _)⟩

end Snapshot

namespace Registry

def Signed (registry : Registry) : Prop :=
  ∀ name, ∀ overload ∈ registry.overloads name, overload.signatures ≠ []

/-- Some edit registers the operation by no texts. -/
def Textless (edits : List Edit) (name : String) : Prop :=
  ∃ reference, .operation name [] reference ∈ edits

variable {registry changed : Registry} {made : Edit} {events : List Event}

theorem candidates?_of_snapshot {snapshot : Snapshot} (taken : registry.snapshot = .ok snapshot)
    (name : String) : snapshot.candidates? name =
      (registry.operations.get? name).map fun overloads =>
        overloads.flatMap Overload.candidates := by
  rw [Registry.snapshot] at taken
  split at taken
  · cases taken
  · cases taken
    exact NameTable.get?_map _ _ _

theorem flatMap_candidates_eq_nil_iff {overloads : List Overload} :
    overloads.flatMap Overload.candidates = [] ↔
      ∀ overload ∈ overloads, overload.signatures = [] := by
  simp only [List.flatMap_eq_nil_iff, Overload.candidates, List.map_eq_nil_iff]

theorem offers_or_withholds {log : List Edit} (reflects : registry.Reflects log)
    {snapshot : Snapshot} (taken : registry.snapshot = .ok snapshot) {name : String}
    (known : name ∈ snapshot.names) :
    registry.overloads name ≠ [] ∧
      ((∃ overload ∈ registry.overloads name, overload.signatures ≠ []) → snapshot.Offers name) ∧
      ((∀ overload ∈ registry.overloads name, overload.signatures = []) →
        snapshot.Withholds name) := by
  have copied := candidates?_of_snapshot taken name
  have present : (snapshot.candidates? name).isSome = true := NameTable.mem_names_iff.mp known
  rw [copied, Option.isSome_map, Option.isSome_iff_exists] at present
  obtain ⟨overloads, held⟩ := present
  have same : registry.overloads name = overloads := by
    rw [Registry.overloads, held]
    rfl
  rw [held, Option.map_some] at copied
  rw [same]
  refine ⟨?_, ?_, ?_⟩
  · rintro rfl
    exact reflects.filled name held
  · rintro ⟨overload, member, filled⟩
    refine Snapshot.offers_of_candidates copied fun none => filled ?_
    exact flatMap_candidates_eq_nil_iff.mp none overload member
  · intro none
    rw [flatMap_candidates_eq_nil_iff.mpr none] at copied
    exact Snapshot.withholds_of_none copied

theorem textless_of_edit (filed : changed.Filed) (written : ∀ overload, made ≠ .insert overload)
    (edited : registry.edit made = .ok (changed, events)) {name : String} {overload : Overload}
    (member : overload ∈ changed.overloads name) (none : overload.signatures = []) :
    overload ∈ registry.overloads name ∨ ∃ reference, made = .operation name [] reference := by
  rcases mem_overloads_of_edit edited member with old | meant
  · exact .inl old
  · cases made with
    | operation own texts reference =>
        obtain ⟨signatures, callable, parsed, -, rfl⟩ := Edit.overload?_operation.mp meant
        have named : own = name := filed name _ member
        have empty : texts = [] := by
          by_contra some
          exact Signature.ne_nil_of_parseAll some parsed none
        exact .inr ⟨reference, by rw [named, empty]⟩
    | insert other => exact absurd rfl (written other)
    | remove names => cases meant
    | clear => cases meant

theorem Fresh.signed {log : List Edit} (fresh : Fresh registry log) : registry.Signed := by
  induction fresh with
  | empty =>
      intro name overload member
      cases member
  | withBuiltins =>
      intro name overload member
      rw [Registry.withBuiltins, overloads_push] at member
      split at member
      · rw [List.mem_singleton.mp member]
        exact List.cons_ne_nil _ _
      · cases member
  | withPolicy _ policy ih => exact ih

theorem textless_of_editAll {log edits : List Edit} (fresh : Fresh registry log)
    (written : ∀ overload, .insert overload ∉ edits) {name : String} {overload : Overload}
    (member : overload ∈ (registry.editAll edits).1.overloads name)
    (none : overload.signatures = []) : Textless edits name := by
  have kept : (registry.editAll edits).1.Filed ∧
      ∀ name, ∀ overload ∈ (registry.editAll edits).1.overloads name,
        overload.signatures = [] → Textless edits name := by
    refine editAll_induction (motive := fun registry => registry.Filed ∧
      ∀ name, ∀ overload ∈ registry.overloads name,
        overload.signatures = [] → Textless edits name) ⟨fresh.filed, ?_⟩ ?_
    · intro name overload member none
      exact absurd none (fresh.signed name overload member)
    · rintro made within before after events ⟨filed, known⟩ edited
      have filed := filed.edit edited
      refine ⟨filed, ?_⟩
      intro name overload member none
      have inserted : ∀ overload, made ≠ .insert overload :=
        fun overload same => written overload (same ▸ within)
      rcases textless_of_edit filed inserted edited member none with old | ⟨reference, rfl⟩
      · exact known name overload old none
      · exact ⟨reference, within⟩
  exact kept.2 name overload member none

/-- Registries that texts, removals and clearings make of a fresh one. As long as no operation is
registered by no texts, every overload has a signature, and every operation of a snapshot can be
called. An overload without a signature comes from no texts, and a registration by no texts always
goes through; an operation whose overloads are all of this kind is in the snapshot and refuses every
call. -/
theorem callable_unless_textless {start : Registry} {log edits : List Edit}
    (fresh : Fresh start log) (written : ∀ overload, .insert overload ∉ edits) :
    ((∀ name, ¬ Textless edits name) →
      (start.editAll edits).1.Signed ∧
      ∀ snapshot, (start.editAll edits).1.snapshot = .ok snapshot →
        ∀ name ∈ snapshot.names, snapshot.Offers name) ∧
    (∀ name, ∀ overload ∈ (start.editAll edits).1.overloads name,
      overload.signatures = [] → Textless edits name) ∧
    (∀ snapshot, (start.editAll edits).1.snapshot = .ok snapshot → ∀ name ∈ snapshot.names,
      ((∃ overload ∈ (start.editAll edits).1.overloads name, overload.signatures ≠ []) →
        snapshot.Offers name) ∧
      ((∀ overload ∈ (start.editAll edits).1.overloads name, overload.signatures = []) →
        snapshot.Withholds name)) ∧
    ∀ name reference callable, reference.resolve = .ok callable →
      (start.editAll edits).1.edit (.operation name [] reference) =
        .ok ((start.editAll edits).1.push ⟨name, [], callable⟩, [.operationRegistered name 0]) := by
  have reflects := fresh.reflects.editAll edits
  refine ⟨?_, ?_, ?_, ?_⟩
  · intro texts
    have signed : (start.editAll edits).1.Signed :=
      fun name overload member none => texts name (textless_of_editAll fresh written member none)
    refine ⟨signed, ?_⟩
    intro snapshot taken name known
    obtain ⟨some, offers, -⟩ := offers_or_withholds reflects taken known
    obtain ⟨overload, member⟩ := List.exists_mem_of_ne_nil _ some
    exact offers ⟨overload, member, signed name overload member⟩
  · intro name overload
    exact textless_of_editAll fresh written
  · intro snapshot taken name known
    exact (offers_or_withholds reflects taken known).2
  · intro name reference callable resolved
    have new : Registry.Admits (start.editAll edits).1 ⟨name, [], callable⟩ := by
      intro _
      simp [isDuplicate]
    have meant : (Edit.operation name [] reference).overload? = some ⟨name, [], callable⟩ :=
      Edit.overload?_operation.mpr ⟨[], callable, rfl, resolved, rfl⟩
    rw [edit_eq_inserting meant]
    exact inserting_eq_ok_iff.mpr ⟨new, rfl, rfl⟩

namespace Offering

def edits : List Edit :=
  [.operation "size" ["List|Map -> Number", "Array -> Number"] (.named "count"),
    .operation "size" ["Any -> Foo"] (.named "count"), .remove ["then"],
    .operationByName "trim" ["String -> String"],
    .operation "size" ["String -> Number"] (.named "strlen")]

def textless : List Edit := [.operation "size" [] (.named "count")]

theorem texts (name : String) : ¬ Textless edits name := by
  simp [Textless, edits, Edit.operationByName]

end Offering

theorem callable_unless_textless_edits :
    Fresh .withBuiltins [.insert applyOverload] ∧ (∀ overload, .insert overload ∉ Offering.edits) ∧
      (∀ name, ¬ Textless Offering.edits name) ∧ ∃ snapshot,
      (withBuiltins.editAll Offering.edits).1.snapshot = .ok snapshot ∧
      snapshot.names = ["size", "trim"] ∧ snapshot.Offers "size" ∧ snapshot.Offers "trim" := by
  have written : ∀ overload, .insert overload ∉ Offering.edits := by
    simp [Offering.edits, Edit.operationByName]
  obtain ⟨-, offers⟩ := (callable_unless_textless .withBuiltins written).1 Offering.texts
  have taken : (withBuiltins.editAll Offering.edits).1.snapshot = .ok _ := rfl
  exact ⟨.withBuiltins, written, Offering.texts, _, taken, rfl, offers _ taken "size" (by decide),
    offers _ taken "trim" (by decide)⟩

/-- An operation registered by no texts is stored without a signature. The snapshot knows it, and no
receiver and arguments will do. -/
theorem textless_operation_withheld :
    (empty.editAll Offering.textless).1.overloads "size" = [⟨"size", [], .native .count⟩] ∧
      ∃ snapshot, (empty.editAll Offering.textless).1.snapshot = .ok snapshot ∧
        snapshot.names = ["size"] ∧ snapshot.candidates? "size" = some [] ∧
        ∀ receiver args, snapshot.plan receiver "size" args =
          .error (.wrongOperationArgs "size" (Value.tags receiver args)) :=
  ⟨rfl, _, rfl, rfl, rfl, fun _ _ => rfl⟩

end Registry
end LazyDispatch
