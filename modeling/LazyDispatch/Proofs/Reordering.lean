import LazyDispatch.Proofs.History
import LazyDispatch.Proofs.Shuffling
import LazyDispatch.Proofs.Validation

/-! The order of registrations. Under a policy that lets every overload in, a name comes to hold
what was registered under it, whatever came between; so registrations made in another order leave
shuffled snapshots, provided that no two of their signatures fit the same values. -/

namespace LazyDispatch

namespace Edit

def Registers : Edit → Prop
  | operation _ _ _ | insert _ => True
  | remove _ | clear => False

/-- The signatures that edits register under a name, each with its callable. -/
def entries (name : String) (edits : List Edit) : List Candidate :=
  (edits.filterMap (registers? name)).flatMap Overload.candidates

theorem entries_perm {edits others : List Edit} (perm : edits.Perm others) (name : String) :
    (entries name edits).Perm (entries name others) :=
  (perm.filterMap _).flatMap_right _

theorem registers_perm {edits others : List Edit} (perm : edits.Perm others)
    (registers : ∀ edit ∈ edits, edit.Registers) : ∀ edit ∈ others, edit.Registers := by
  intro edit member
  exact registers edit (perm.mem_iff.mpr member)

end Edit

namespace Registry

variable {registry : Registry} {made : Edit} {edits others : List Edit}

theorem edit_of_meant (deferring : registry.duplicatePolicy = .defer) {overload : Overload}
    (meant : made.overload? = some overload) :
    registry.edit made = .ok (registry.push overload, [overload.registered]) := by
  have admits : registry.Admits overload := fun refusing => absurd (deferring ▸ refusing) (by decide)
  rw [edit_eq_inserting meant]
  exact inserting_eq_ok_iff.mpr ⟨admits, rfl, rfl⟩

theorem edit_of_meaningless (registers : made.Registers) (meaningless : made.overload? = none) :
    ∃ failure, registry.edit made = .error failure := by
  cases outcome : registry.edit made with
  | error failure => exact ⟨failure, rfl⟩
  | ok result =>
      obtain ⟨changed, events⟩ := result
      rcases of_edit_eq_ok outcome with ⟨overload, meant, -⟩ | ⟨names, rfl, -⟩ | ⟨rfl, -⟩
      · rw [meaningless] at meant
        cases meant
      · exact registers.elim
      · exact registers.elim

theorem overloads_editAll (deferring : registry.duplicatePolicy = .defer)
    (registers : ∀ edit ∈ edits, edit.Registers) (name : String) :
    (registry.editAll edits).1.overloads name =
      registry.overloads name ++ edits.filterMap (Edit.registers? name) := by
  induction edits generalizing registry with
  | nil => simp [editAll]
  | cons next edits ih =>
      have head := registers next List.mem_cons_self
      have rest : ∀ edit ∈ edits, edit.Registers := fun edit member =>
        registers edit (List.mem_cons_of_mem next member)
      cases meant : next.overload? with
      | none =>
          have failing : ∃ failure, registry.edit next = .error failure :=
            edit_of_meaningless head meant
          obtain ⟨failure, failed⟩ := failing
          simp [editAll, failed, ih deferring rest, Edit.registers?, meant]
      | some overload =>
          have pushed : (registry.push overload).duplicatePolicy = .defer := deferring
          rw [editAll, edit_of_meant deferring meant, List.filterMap_cons,
            Edit.registers?_of_overload? meant, ih pushed rest, overloads_push]
          by_cases same : name = overload.operation <;> simp [same]

theorem get?_editAll_empty (registers : ∀ edit ∈ edits, edit.Registers) (name : String) :
    (empty.editAll edits).1.operations.get? name =
      if edits.filterMap (Edit.registers? name) = [] then none
      else some (edits.filterMap (Edit.registers? name)) := by
  have held : (empty.editAll edits).1.overloads name =
      edits.filterMap (Edit.registers? name) := overloads_editAll rfl registers name
  have filled := (Fresh.empty.reflects.editAll edits).filled name
  rw [overloads] at held
  rw [← held]
  cases known : (empty.editAll edits).1.operations.get? name with
  | none => simp
  | some overloads =>
      rw [known] at filled
      have some : overloads ≠ [] := by simpa using filled
      simp [some]

theorem unambiguous_editAll_empty (registers : ∀ edit ∈ edits, edit.Registers)
    (apart : ∀ name, (Edit.entries name edits).Pairwise Candidate.Apart) (name : String) :
    (empty.editAll edits).1.Unambiguous name := by
  have held : (empty.editAll edits).1.overloads name =
      edits.filterMap (Edit.registers? name) := overloads_editAll rfl registers name
  have distinct : ((Edit.entries name edits).map Candidate.params).Nodup :=
    List.pairwise_map.mpr ((apart name).imp Candidate.Apart.params_ne)
  obtain ⟨within, between⟩ := (nodup_params_iff _).mp distinct
  rw [← held] at within between
  exact ⟨within, between⟩

theorem snapshot_editAll_empty (registers : ∀ edit ∈ edits, edit.Registers)
    (apart : ∀ name, (Edit.entries name edits).Pairwise Candidate.Apart) :
    (empty.editAll edits).1.snapshot = .ok ⟨(empty.editAll edits).1.candidates⟩ := by
  have clear := clash?_eq_none_iff.mpr (unambiguous_editAll_empty registers apart)
  rw [snapshot, clear]

theorem shuffles_editAll_empty (perm : edits.Perm others)
    (registers : ∀ edit ∈ edits, edit.Registers)
    (apart : ∀ name, (Edit.entries name edits).Pairwise Candidate.Apart) :
    Snapshot.Shuffles ⟨(empty.editAll edits).1.candidates⟩
      ⟨(empty.editAll others).1.candidates⟩ := by
  intro name
  have also := Edit.registers_perm perm registers
  have filed : (edits.filterMap (Edit.registers? name)).Perm
      (others.filterMap (Edit.registers? name)) := perm.filterMap _
  simp only [Snapshot.candidates?, candidates, NameTable.get?_map, get?_editAll_empty registers,
    get?_editAll_empty also]
  by_cases unknown : edits.filterMap (Edit.registers? name) = []
  · have nothing : others.filterMap (Edit.registers? name) = [] := by
      rw [unknown] at filed
      exact List.nil_perm.mp filed
    rw [if_pos unknown, if_pos nothing]
    exact .none
  · have something : others.filterMap (Edit.registers? name) ≠ [] := by
      intro nothing
      rw [nothing] at filed
      exact unknown (List.perm_nil.mp filed)
    rw [if_neg unknown, if_neg something]
    exact .some ⟨Edit.entries_perm perm name, apart name⟩

end Registry

/-- The order of registrations cannot be told from streams, where no two signatures of a name are
compatible: whatever is registered, in whichever order, a snapshot can be taken, and chains of calls
over the two are accepted and refused alike, predict alike and come to the same results. -/
theorem registration_order_invisible {edits others : List Edit} (perm : edits.Perm others)
    (registers : ∀ edit ∈ edits, edit.Registers)
    (apart : ∀ name, (Edit.entries name edits).Pairwise Candidate.Apart) :
    ∃ snapshot other, (Registry.empty.editAll edits).1.snapshot = .ok snapshot ∧
      (Registry.empty.editAll others).1.snapshot = .ok other ∧
      ∀ {σ : Type} (source : Value) (calls : List Call) (store : Store σ),
        ChainsAlike (snapshot.chain source calls store) (other.chain source calls store) := by
  have also := Edit.registers_perm perm registers
  have apartToo : ∀ name, (Edit.entries name others).Pairwise Candidate.Apart := fun name =>
    (apart name).perm (Edit.entries_perm perm name) Candidate.Apart.symm
  refine ⟨_, _, Registry.snapshot_editAll_empty registers apart,
    Registry.snapshot_editAll_empty also apartToo, ?_⟩
  intro σ source calls store
  exact (Registry.shuffles_editAll_empty perm registers apart).chain source calls store

namespace Reordering

open History (size length)

def edits : List Edit :=
  [.insert length, .operationByName "count" ["List -> Foo"], .insert size]

theorem registers : ∀ edit ∈ edits, edit.Registers := by
  simp [edits, Edit.operationByName, Edit.Registers]

theorem entries_eq (name : String) : Edit.entries name edits =
    if name = "size" then length.candidates ++ size.candidates else [] := by
  have failed : (Edit.operationByName "count" ["List -> Foo"]).registers? name = none := rfl
  have inserted (overload : Overload) : (Edit.insert overload).registers? name =
      if name = overload.operation then some overload else none :=
    Edit.registers?_of_overload? rfl name
  have first : length.operation = "size" := rfl
  have second : size.operation = "size" := rfl
  simp only [Edit.entries, edits, List.filterMap_cons, List.filterMap_nil, failed, inserted, first,
    second]
  by_cases same : name = "size" <;> simp [same]

theorem apart (name : String) : (Edit.entries name edits).Pairwise Candidate.Apart := by
  rw [entries_eq]
  split
  · exact List.pairwise_pair.mpr rfl
  · exact .nil

end Reordering

theorem registration_order_invisible_edits :
    Reordering.edits.Perm Reordering.edits.reverse ∧ (∀ edit ∈ Reordering.edits, edit.Registers) ∧
      (∀ name, (Edit.entries name Reordering.edits).Pairwise Candidate.Apart) ∧
      ∃ snapshot other, (Registry.empty.editAll Reordering.edits).1.snapshot = .ok snapshot ∧
        (Registry.empty.editAll Reordering.edits.reverse).1.snapshot = .ok other ∧
        ∀ store : Store Unit, ChainsAlike (snapshot.chain (.string "abc") [⟨"size", []⟩] store)
          (other.chain (.string "abc") [⟨"size", []⟩] store) := by
  have perm : Reordering.edits.Perm Reordering.edits.reverse := (List.reverse_perm _).symm
  obtain ⟨snapshot, other, taken, also, alike⟩ :=
    registration_order_invisible perm Reordering.registers Reordering.apart
  exact ⟨perm, Reordering.registers, Reordering.apart, snapshot, other, taken, also,
    alike (.string "abc") [⟨"size", []⟩]⟩

end LazyDispatch
