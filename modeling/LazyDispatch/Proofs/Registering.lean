import LazyDispatch.Proofs.Evolving
import LazyDispatch.Proofs.Refusing

/-! How registrations come out. The callable decides first, then the texts in their order, and the
policy last; what passes all three is one overload more, behind those of its name. A registration
that fails leaves everything as it was. -/

namespace LazyDispatch

theorem exists_first_cons_iff {α : Type} {passes fails : α → Prop} {head : α} {rest : List α} :
    (∃ front value back, head :: rest = front ++ value :: back ∧
        (∀ earlier ∈ front, passes earlier) ∧ fails value) ↔
      fails head ∨ passes head ∧ ∃ front value back, rest = front ++ value :: back ∧
        (∀ earlier ∈ front, passes earlier) ∧ fails value := by
  constructor
  · rintro ⟨front, value, back, split, passed, failed⟩
    cases front with
    | nil =>
        obtain ⟨rfl, -⟩ := List.cons.inj split
        exact .inl failed
    | cons first front =>
        obtain ⟨rfl, later⟩ := List.cons.inj split
        obtain ⟨here, others⟩ := List.forall_mem_cons.mp passed
        exact .inr ⟨here, front, value, back, later, others, failed⟩
  · rintro (failed | ⟨here, front, value, back, rfl, others, failed⟩)
    · exact ⟨[], head, rest, rfl, List.forall_mem_nil _, failed⟩
    · exact ⟨head :: front, value, back, rfl, List.forall_mem_cons.mpr ⟨here, others⟩, failed⟩

theorem mapM_eq_error_iff {ε α β : Type} {f : α → Except ε β} {values : List α} {failure : ε} :
    values.mapM f = .error failure ↔
      ∃ front value back, values = front ++ value :: back ∧
        (∀ earlier ∈ front, ∃ image, f earlier = .ok image) ∧ f value = .error failure := by
  induction values with
  | nil => simp [pure, Except.pure]
  | cons value values ih =>
      rw [exists_first_cons_iff, ← ih, List.mapM_cons]
      cases f value with
      | error other => simp [bind, Except.bind]
      | ok image => cases values.mapM f <;> simp [bind, Except.bind, pure, Except.pure]

theorem Native.ofName?_eq_some_iff {name : String} {native : Native} :
    ofName? name = some native ↔ name = native.name := by
  constructor
  · intro found
    rw [ofName?] at found
    have same := List.find?_some found
    exact (of_decide_eq_true same).symm
  · rintro rfl
    exact native.ofName?_name

namespace Reference

/-- The reference means this callable: a native function by its name, or a function itself. -/
inductive Means : Reference → Callable → Prop where
  | native (native : Native) : Means (.named native.name) (.native native)
  | function (callable : Callable) : Means (.value (.function callable)) callable

def shown : Reference → String
  | .named name => name
  | .value given => given.display

variable {reference : Reference} {callable : Callable}

theorem resolve_eq_ok_iff : reference.resolve = .ok callable ↔ reference.Means callable := by
  constructor
  · intro resolved
    unfold resolve at resolved
    split at resolved
    · split at resolved
      · rename_i native found
        cases resolved
        rw [Native.ofName?_eq_some_iff.mp found]
        exact .native native
      · cases resolved
    · cases resolved
      exact .function callable
    · cases resolved
  · intro means
    cases means with
    | native native => simp only [resolve, native.ofName?_name]
    | function => rfl

theorem resolve_of_meaningless (meaningless : ∀ callable, ¬ reference.Means callable) :
    reference.resolve = .error (.unknownCallable reference.shown) := by
  cases resolved : reference.resolve with
  | ok callable => exact absurd (resolve_eq_ok_iff.mp resolved) (meaningless callable)
  | error failure =>
      unfold resolve at resolved
      split at resolved
      · split at resolved
        · cases resolved
        · cases resolved
          rfl
      · cases resolved
      · cases resolved
        rfl

end Reference

namespace Signature

def Reads (text : String) : Prop := ∃ signatures, parse text = .ok signatures

theorem parse_of_not_reads {text : String} (unread : ¬ Reads text) :
    parse text = .error (.invalidSignature text) := by
  cases parsed : parse text with
  | ok signatures => exact absurd ⟨signatures, parsed⟩ unread
  | error failure =>
      rw [parse] at parsed
      split at parsed
      · cases parsed
      · cases parsed
        rfl

theorem parseAll_eq_error_iff {texts : List String} {failure : Failure} :
    parseAll texts = .error failure ↔
      ∃ front text back, texts = front ++ text :: back ∧ (∀ earlier ∈ front, Reads earlier) ∧
        ¬ Reads text ∧ failure = .invalidSignature text := by
  have same : parseAll texts = .error failure ↔ texts.mapM parse = .error failure := by
    rw [parseAll]
    cases texts.mapM parse <;> simp [bind, Except.bind, pure, Except.pure]
  rw [same, mapM_eq_error_iff]
  refine exists_congr fun front => exists_congr fun text => exists_congr fun back =>
    and_congr_right fun _ => and_congr_right fun _ => ?_
  constructor
  · intro failed
    have unread : ¬ Reads text := by
      rintro ⟨signatures, parsed⟩
      cases failed.symm.trans parsed
    exact ⟨unread, Except.error.inj (failed.symm.trans (parse_of_not_reads unread))⟩
  · rintro ⟨unread, rfl⟩
    exact parse_of_not_reads unread

end Signature

namespace Registry

def Holds (registry : Registry) (name : String) (signatures : List Signature) : Prop :=
  ∃ held ∈ registry.overloads name, ∃ signature ∈ held.signatures, signature ∈ signatures

/-- The one registry holds what the other does and, behind the overloads of its name, one more. -/
structure Gains (registry : Registry) (overload : Overload) (changed : Registry) : Prop where
  own : changed.operations.get? overload.operation =
    some (registry.overloads overload.operation ++ [overload])
  others : ∀ name, name ≠ overload.operation →
    changed.operations.get? name = registry.operations.get? name
  policy : changed.duplicatePolicy = registry.duplicatePolicy

/-- How the registration of an operation comes out, by what stands in its way first. -/
inductive Registers (registry : Registry) (name : String) (texts : List String)
    (reference : Reference) : Except Failure (Registry × List Event) → Prop where
  | unknown (meaningless : ∀ callable, ¬ reference.Means callable) :
      Registers registry name texts reference (.error (.unknownCallable reference.shown))
  | unread {callable : Callable} {front back : List String} {text : String}
      (means : reference.Means callable) (split : texts = front ++ text :: back)
      (read : ∀ earlier ∈ front, Signature.Reads earlier) (unread : ¬ Signature.Reads text) :
      Registers registry name texts reference (.error (.invalidSignature text))
  | repeated {callable : Callable} {lists : List (List Signature)}
      (means : reference.Means callable)
      (read : List.Forall₂ (fun text list => Signature.parse text = .ok list) texts lists)
      (strict : registry.duplicatePolicy = .reject) (held : registry.Holds name lists.flatten) :
      Registers registry name texts reference (.error (.duplicatedOperation name))
  | added {callable : Callable} {lists : List (List Signature)} {changed : Registry}
      (means : reference.Means callable)
      (read : List.Forall₂ (fun text list => Signature.parse text = .ok list) texts lists)
      (admitted : registry.duplicatePolicy = .reject → ¬ registry.Holds name lists.flatten)
      (gains : registry.Gains ⟨name, lists.flatten.eraseDups, callable⟩ changed) :
      Registers registry name texts reference
        (.ok (changed, [.operationRegistered name lists.flatten.eraseDups.length]))

variable {registry changed : Registry}

theorem gains_iff {overload : Overload} :
    registry.Gains overload changed ↔ changed = registry.push overload := by
  have pushed (name : String) : (registry.push overload).operations.get? name =
      if name = overload.operation then some (registry.overloads overload.operation ++ [overload])
      else registry.operations.get? name := NameTable.get?_put _ _ _ _
  constructor
  · rintro ⟨own, others, policy⟩
    have operations : changed.operations = (registry.push overload).operations := by
      apply NameTable.ext_get?
      intro name
      rw [pushed]
      by_cases same : name = overload.operation
      · rw [if_pos same, same, own]
      · rw [if_neg same, others name same]
    exact congrArg₂ Registry.mk operations policy
  · rintro rfl
    refine ⟨?_, ?_, rfl⟩
    · rw [pushed, if_pos rfl]
    · intro name apart
      rw [pushed, if_neg apart]

theorem isDuplicate_iff_holds {overload : Overload} {signatures : List Signature}
    (same : ∀ signature, signature ∈ overload.signatures ↔ signature ∈ signatures) :
    registry.isDuplicate overload = true ↔ registry.Holds overload.operation signatures := by
  simp only [isDuplicate, Holds, List.any_eq_true, List.contains_iff_mem, same]

theorem edit_of_unresolved {name : String} {texts : List String} {reference : Reference}
    {failure : Failure} (unresolved : reference.resolve = .error failure) :
    registry.edit (.operation name texts reference) = .error failure := by
  rw [Registry.edit, unresolved]
  rfl

theorem edit_of_unread {name : String} {texts : List String} {reference : Reference}
    {callable : Callable} {failure : Failure} (resolved : reference.resolve = .ok callable)
    (unread : Signature.parseAll texts = .error failure) :
    registry.edit (.operation name texts reference) = .error failure := by
  rw [Registry.edit, resolved, unread]
  rfl

theorem edit_of_read (registry : Registry) (name : String) {texts : List String}
    {reference : Reference} {callable : Callable} {lists : List (List Signature)}
    (means : reference.Means callable)
    (read : List.Forall₂ (fun text list => Signature.parse text = .ok list) texts lists) :
    (registry.duplicatePolicy = .reject ∧ registry.Holds name lists.flatten →
        registry.edit (.operation name texts reference) = .error (.duplicatedOperation name)) ∧
      ((registry.duplicatePolicy = .reject → ¬ registry.Holds name lists.flatten) →
        registry.edit (.operation name texts reference) =
          .ok (registry.push ⟨name, lists.flatten.eraseDups, callable⟩,
            [.operationRegistered name lists.flatten.eraseDups.length])) := by
  have meant : (Edit.operation name texts reference).overload? =
      some ⟨name, lists.flatten.eraseDups, callable⟩ :=
    Edit.overload?_operation.mpr ⟨_, callable, Signature.parseAll_eq_ok_iff.mpr ⟨lists, read, rfl⟩,
      Reference.resolve_eq_ok_iff.mpr means, rfl⟩
  have repeats : registry.isDuplicate ⟨name, lists.flatten.eraseDups, callable⟩ = true ↔
      registry.Holds name lists.flatten :=
    isDuplicate_iff_holds fun _ => List.mem_eraseDups
  rw [edit_eq_inserting meant]
  constructor
  · rintro ⟨strict, held⟩
    rw [inserting, insert, if_pos ⟨strict, repeats.mpr held⟩]
    rfl
  · intro admitted
    refine inserting_eq_ok_iff.mpr ⟨?_, rfl, rfl⟩
    intro strict
    rw [← Bool.not_eq_true, repeats]
    exact admitted strict

theorem edit_registers (registry : Registry) (name : String) (texts : List String)
    (reference : Reference) :
    registry.Registers name texts reference (registry.edit (.operation name texts reference)) := by
  by_cases known : ∃ callable, reference.Means callable
  · obtain ⟨callable, means⟩ := known
    have resolved := Reference.resolve_eq_ok_iff.mpr means
    cases parsed : Signature.parseAll texts with
    | error failure =>
        obtain ⟨front, text, back, split, read, unread, rfl⟩ :=
          Signature.parseAll_eq_error_iff.mp parsed
        rw [edit_of_unread resolved parsed]
        exact .unread means split read unread
    | ok signatures =>
        obtain ⟨lists, read, -⟩ := Signature.parseAll_eq_ok_iff.mp parsed
        obtain ⟨refused, admits⟩ := edit_of_read registry name means read
        by_cases clash : registry.duplicatePolicy = .reject ∧ registry.Holds name lists.flatten
        · rw [refused clash]
          exact .repeated means read clash.1 clash.2
        · have admitted := not_and.mp clash
          rw [admits admitted]
          exact .added means read admitted (gains_iff.mpr rfl)
  · have meaningless := not_exists.mp known
    rw [edit_of_unresolved (Reference.resolve_of_meaningless meaningless)]
    exact .unknown meaningless

theorem edit_of_registers {name : String} {texts : List String} {reference : Reference}
    {outcome : Except Failure (Registry × List Event)}
    (registers : registry.Registers name texts reference outcome) :
    registry.edit (.operation name texts reference) = outcome := by
  cases registers with
  | unknown meaningless =>
      exact edit_of_unresolved (Reference.resolve_of_meaningless meaningless)
  | @unread _ front back text means split read unread =>
      have failed : Signature.parseAll texts = .error (.invalidSignature text) :=
        Signature.parseAll_eq_error_iff.mpr ⟨front, text, back, split, read, unread, rfl⟩
      exact edit_of_unread (Reference.resolve_eq_ok_iff.mpr means) failed
  | repeated means read strict held => exact (edit_of_read _ _ means read).1 ⟨strict, held⟩
  | added means read admitted gains =>
      rw [gains_iff.mp gains]
      exact (edit_of_read _ _ means read).2 admitted

/-- An edit of the shared registry fails as it would on the registry alone, and then leaves the
store as it was. -/
theorem editShared_eq_error_iff {σ : Type} {made : Edit} {failure : Failure}
    {store after : Store σ} :
    Run.editShared made store = some (.error failure, after) ↔
      store.shared.edit made = .error failure ∧ after = store := by
  rw [Run.editShared_apply]
  cases store.shared.edit made with
  | error other => simp [eq_comm]
  | ok changed => simp

theorem editShared_eq_ok_iff {σ : Type} {made : Edit} {store after : Store σ} :
    Run.editShared made store = some (.ok (), after) ↔
      ∃ changed events, store.shared.edit made = .ok (changed, events) ∧
        after = { store with shared := changed }.report events := by
  rw [Run.editShared_apply]
  cases store.shared.edit made with
  | error failure => simp
  | ok result =>
      constructor
      · intro ran
        cases ran
        exact ⟨_, _, rfl, rfl⟩
      · rintro ⟨changed, events, edited, rfl⟩
        cases edited
        rfl

theorem editAll_skip (refused : ∃ failure, registry.edit made = .error failure)
    (edits : List Edit) : registry.editAll (made :: edits) = registry.editAll edits := by
  obtain ⟨failure, refused⟩ := refused
  rw [editAll, refused]

/-- A registration comes out as the callable, the texts and the policy decide, in this order, and in
no other way. An edit that fails, be it of the shared registry, is as if it had not been made. -/
theorem registration_outcome (registry : Registry) :
    (∀ name texts reference outcome,
      registry.edit (.operation name texts reference) = outcome ↔
        registry.Registers name texts reference outcome) ∧
    (∀ made, (∃ failure, registry.edit made = .error failure) →
      ∀ edits, registry.editAll (made :: edits) = registry.editAll edits) ∧
    ∀ (σ : Type) (store after : Store σ) made, store.shared = registry →
      (∀ failure, Run.editShared made store = some (.error failure, after) ↔
        registry.edit made = .error failure ∧ after = store) ∧
      (Run.editShared made store = some (.ok (), after) ↔
        ∃ changed events, registry.edit made = .ok (changed, events) ∧
          after = { store with shared := changed }.report events) := by
  refine ⟨?_, fun made => editAll_skip, ?_⟩
  · intro name texts reference outcome
    constructor
    · rintro rfl
      exact edit_registers registry name texts reference
    · exact edit_of_registers
  · rintro σ store after made rfl
    exact ⟨fun failure => editShared_eq_error_iff, editShared_eq_ok_iff⟩

namespace Repeating

def size : Overload := ⟨"size", [⟨.list, [], .number⟩, ⟨.map, [], .number⟩], .native .count⟩

def strict : Registry := (withBuiltins.withPolicy .reject).push size

def texts : List String := ["String -> Number", "Object|Map -> Number"]

end Repeating

theorem registration_outcome_repeated :
    Repeating.strict.edit (.operation "size" Repeating.texts (.named "count")) =
        .error (.duplicatedOperation "size") ∧
      ∀ edits,
        Repeating.strict.editAll
            (.operation "size" Repeating.texts (.named "count") :: edits) =
          Repeating.strict.editAll edits ∧
        Run.editShared (.operation "size" Repeating.texts (.named "count"))
            { Store.new () with shared := Repeating.strict } =
          some (.error (.duplicatedOperation "size"),
            { Store.new () with shared := Repeating.strict }) := by
  obtain ⟨outcomes, skips, shared⟩ := registration_outcome Repeating.strict
  have read : List.Forall₂ (fun text list => Signature.parse text = .ok list) Repeating.texts
      [[⟨.string, [], .number⟩], [⟨.object, [], .number⟩, ⟨.map, [], .number⟩]] :=
    .cons rfl (.cons rfl .nil)
  have held : Repeating.strict.Holds "size"
      [⟨.string, [], .number⟩, ⟨.object, [], .number⟩, ⟨.map, [], .number⟩] :=
    ⟨Repeating.size, by decide, ⟨.map, [], .number⟩, by decide, by decide⟩
  have refused := (outcomes "size" Repeating.texts (.named "count") _).mpr
    (.repeated (.native .count) read rfl held)
  refine ⟨refused, fun edits => ⟨skips _ ⟨_, refused⟩ edits, ?_⟩⟩
  exact ((shared Unit _ _ _ rfl).1 _).mpr ⟨refused, rfl⟩

end Registry
end LazyDispatch
