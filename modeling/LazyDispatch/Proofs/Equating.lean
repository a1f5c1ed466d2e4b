import LazyDispatch.Proofs.Looking
import LazyDispatch.Value.Equality

/-! Equality of values without floats. Two of them are equal when they have one outline, in which a
stream is no more than what tells it from others. So equality is an equivalence among them; and
equal values read alike and are the same to native functions, up to equality of the results. -/

namespace LazyDispatch

theorem forall₂_iff_map_eq {α β γ : Type} {relation : α → β → Prop} {f : α → γ} {g : β → γ}
    {values : List α} {others : List β}
    (pointwise : ∀ value ∈ values, ∀ other ∈ others, relation value other ↔ f value = g other) :
    List.Forall₂ relation values others ↔ values.map f = others.map g := by
  induction values generalizing others with
  | nil => cases others <;> simp
  | cons value values ih =>
      cases others with
      | nil => simp
      | cons other others =>
          have rest := ih fun value member other inside =>
            pointwise value (List.mem_cons_of_mem _ member) other (List.mem_cons_of_mem _ inside)
          rw [List.forall₂_cons, List.map_cons, List.map_cons, List.cons.injEq, rest,
            pointwise value List.mem_cons_self other List.mem_cons_self]

namespace Value

/-- No float stands in the value. A stream, a function or a resource is one thing, whatever it was
made from. -/
inductive FloatFree : Value → Prop where
  | null : FloatFree null
  | bool {truth : Bool} : FloatFree (bool truth)
  | int {number : Int64} : FloatFree (int number)
  | string {text : String} : FloatFree (string text)
  | resource {handle : Resource} : FloatFree (resource handle)
  | function {callable : Callable} : FloatFree (function callable)
  | list {items : List Value} (each : ∀ item ∈ items, FloatFree item) : FloatFree (list items)
  | map {entries : List (Key × Value)} (each : ∀ entry ∈ entries, FloatFree entry.2) :
      FloatFree (map entries)
  | object {name : String} {fields : List (String × Value)}
      (each : ∀ field ∈ fields, FloatFree field.2) : FloatFree (object ⟨name, fields⟩)
  | error {fault : Fault} : FloatFree (error fault)
  | stream {pipeline : Stream Value} : FloatFree (stream pipeline)

mutual

/-- The value with its streams reduced to what tells them apart. -/
def outline : Value → Value
  | list items => list (outlines items)
  | map entries => map (entryOutlines entries)
  | object ⟨name, fields⟩ => object ⟨name, fieldOutlines fields⟩
  | stream pipeline => stream ⟨pipeline.cell, ⟨.empty⟩, null, pipeline.predicted, []⟩
  | value => value

def outlines : List Value → List Value
  | [] => []
  | value :: values => value.outline :: outlines values

def entryOutlines : List (Key × Value) → List (Key × Value)
  | [] => []
  | (key, value) :: entries => (key, value.outline) :: entryOutlines entries

def fieldOutlines : List (String × Value) → List (String × Value)
  | [] => []
  | (name, value) :: fields => (name, value.outline) :: fieldOutlines fields

end

theorem outlines_eq_map (values : List Value) : outlines values = values.map outline := by
  induction values with
  | nil => rfl
  | cons value values ih => simp [outlines, ih]

theorem entryOutlines_eq_map (entries : List (Key × Value)) :
    entryOutlines entries = entries.map fun entry => (entry.1, entry.2.outline) := by
  induction entries with
  | nil => rfl
  | cons entry entries ih => simp [entryOutlines, ih]

theorem fieldOutlines_eq_map (fields : List (String × Value)) :
    fieldOutlines fields = fields.map fun field => (field.1, field.2.outline) := by
  induction fields with
  | nil => rfl
  | cons field fields ih => simp [fieldOutlines, ih]

theorem eqvItems_iff {items others : List Value} :
    eqvItems items others = true ↔
      List.Forall₂ (fun one other => one.eqv other = true) items others := by
  induction items generalizing others with
  | nil => cases others <;> simp [eqvItems]
  | cons item items ih => cases others <;> simp [eqvItems, ih]

theorem eqvEntries_iff {entries others : List (Key × Value)} :
    eqvEntries entries others = true ↔
      List.Forall₂ (fun one other => one.1 = other.1 ∧ one.2.eqv other.2 = true)
        entries others := by
  induction entries generalizing others with
  | nil => cases others <;> simp [eqvEntries]
  | cons entry entries ih =>
      obtain ⟨key, value⟩ := entry
      rcases others with _ | ⟨⟨_, other⟩, others⟩ <;> simp [eqvEntries, ih]

theorem eqvFields_iff {fields others : List (String × Value)} :
    eqvFields fields others = true ↔
      List.Forall₂ (fun one other => one.1 = other.1 ∧ one.2.eqv other.2 = true)
        fields others := by
  induction fields generalizing others with
  | nil => cases others <;> simp [eqvFields]
  | cons field fields ih =>
      obtain ⟨name, value⟩ := field
      rcases others with _ | ⟨⟨_, other⟩, others⟩ <;> simp [eqvFields, ih]

theorem FloatFree.eqv_iff {one other : Value} (free : FloatFree one) (also : FloatFree other) :
    one.eqv other = true ↔ one.outline = other.outline := by
  induction free generalizing other with
  | list each ih =>
      cases also with
      | list others =>
          rw [eqv, eqvItems_iff, outline, outline, list.injEq, outlines_eq_map, outlines_eq_map]
          exact forall₂_iff_map_eq fun item member twin inside =>
            ih item member (others twin inside)
      | _ => simp [eqv, outline]
  | map each ih =>
      cases also with
      | map others =>
          rw [eqv, eqvEntries_iff, outline, outline, map.injEq, entryOutlines_eq_map,
            entryOutlines_eq_map]
          refine forall₂_iff_map_eq fun entry member twin inside => ?_
          rw [ih entry member (others twin inside), Prod.mk.injEq]
      | _ => simp [eqv, outline]
  | object each ih =>
      cases also with
      | object others =>
          rw [eqv, Bool.and_eq_true, beq_iff_eq, eqvFields_iff, outline, outline, object.injEq,
            Record.mk.injEq, fieldOutlines_eq_map, fieldOutlines_eq_map]
          refine and_congr_right fun _ => forall₂_iff_map_eq fun field member twin inside => ?_
          rw [ih field member (others twin inside), Prod.mk.injEq]
      | _ => simp [eqv, outline]
  | stream => cases also <;> simp [eqv, outline, Stream.same]
  | _ => cases also <;> simp [eqv, outline]

theorem FloatFree.display_outline {value : Value} (free : FloatFree value) :
    value.outline.display = value.display := by
  induction free with
  | list each ih =>
      rw [outline, display, display, outlines_eq_map, displays_eq_map, displays_eq_map,
        List.map_map]
      exact congrArg bracketed (List.map_congr_left ih)
  | map each ih =>
      have displays := List.map_congr_left ih
      simp only [outline, display, entryOutlines_eq_map, entryDisplays_eq_map, List.map_map,
        Function.comp_def, displays]
  | object each ih =>
      have displays := List.map_congr_left ih
      simp only [outline, display, fieldOutlines_eq_map, fieldDisplays_eq_map, List.map_map,
        Function.comp_def, displays]
  | _ => rfl

theorem tag_outline (value : Value) : value.outline.tag = value.tag := by
  cases value with
  | map entries => simp only [outline, tag, entryOutlines_eq_map, List.map_map, Function.comp_def]
  | _ => rfl

theorem string?_outline (value : Value) : value.outline.string? = value.string? := by
  cases value <;> rfl

theorem int?_outline (value : Value) : value.outline.int? = value.int? := by
  cases value <;> rfl

theorem eq_int_of_int? {value : Value} {number : Int64} (found : value.int? = some number) :
    value = .int number := by
  cases value with
  | int other =>
      cases found
      rfl
  | _ => cases found

theorem items?_outline (value : Value) :
    value.outline.items? = value.items?.map (List.map outline) := by
  cases value <;> simp [outline, items?, outlines_eq_map, entryOutlines_eq_map]

theorem keysOf_outline (value : Value) : Native.keysOf value.outline = Native.keysOf value := by
  cases value with
  | list items => simp only [outline, Native.keysOf, outlines_eq_map, List.length_map]
  | map entries =>
      simp only [outline, Native.keysOf, entryOutlines_eq_map, List.map_map, Function.comp_def]
  | _ => rfl

theorem FloatFree.of_items {value : Value} (free : FloatFree value) {items : List Value}
    (collected : value.items? = some items) : ∀ item ∈ items, FloatFree item := by
  cases free with
  | list each =>
      cases collected
      exact each
  | map each =>
      cases collected
      exact List.forall_mem_map.mpr each
  | _ => cases collected

structure Equal (one other : Value) : Prop where
  free : FloatFree one
  also : FloatFree other
  outline : one.outline = other.outline

namespace Equal

variable {one other : Value}

theorem eqv (equal : Equal one other) : (one == other) = true :=
  (equal.free.eqv_iff equal.also).mpr equal.outline

theorem refl {value : Value} (free : FloatFree value) : Equal value value := ⟨free, free, rfl⟩

theorem list {items others : List Value} (alike : List.Forall₂ Equal items others) :
    Equal (list items) (list others) := by
  induction alike with
  | nil => exact .refl (.list (List.forall_mem_nil _))
  | cons head _ ih =>
      obtain ⟨free, also, rest⟩ := ih
      cases free with
      | list each =>
          cases also with
          | list twins =>
              refine ⟨.list (List.forall_mem_cons.mpr ⟨head.free, each⟩),
                .list (List.forall_mem_cons.mpr ⟨head.also, twins⟩), ?_⟩
              simp only [Value.outline, outlines, list.injEq, List.cons.injEq] at rest ⊢
              exact ⟨head.outline, rest⟩

theorem items (equal : Equal one other) :
    Option.Rel (List.Forall₂ Equal) one.items? other.items? := by
  have outlines : one.items?.map (List.map Value.outline) =
      other.items?.map (List.map Value.outline) := by
    rw [← items?_outline, equal.outline, items?_outline]
  cases collected : one.items? with
  | none =>
      rw [collected, Option.map_none, eq_comm, Option.map_eq_none_iff] at outlines
      rw [outlines]
      exact .none
  | some items =>
      rw [collected, Option.map_some, eq_comm, Option.map_eq_some_iff] at outlines
      obtain ⟨others, also, outlines⟩ := outlines
      have free := equal.free.of_items collected
      have twins := equal.also.of_items also
      rw [also]
      refine .some ((forall₂_iff_map_eq fun item member twin inside => ?_).mpr outlines.symm)
      exact ⟨Equal.outline, fun outline => ⟨free item member, twins twin inside, outline⟩⟩

end Equal

theorem floatFree_keysOf {value keys : Value} (made : Native.keysOf value = .ok keys) :
    FloatFree keys := by
  cases value with
  | list items =>
      cases made
      exact .list (List.forall_mem_map.mpr fun _ _ => .int)
  | map entries =>
      cases made
      refine .list (List.forall_mem_map.mpr fun entry _ => ?_)
      cases entry.1 with
      | int index => exact .int
      | text name => exact .string
  | _ => cases made

theorem Equal.looks {one other : Value} (equal : Equal one other) :
    Native.Looks Equal one other where
  tag := by rw [← tag_outline one, equal.outline, tag_outline]
  string := by rw [← string?_outline one, equal.outline, string?_outline]
  int := by rw [← int?_outline one, equal.outline, int?_outline]
  items := equal.items
  keys := by
    refine .of_eq ?_ fun keys made => .refl (floatFree_keysOf made)
    rw [← keysOf_outline one, equal.outline, keysOf_outline]
  display := by
    rw [← equal.free.display_outline, equal.outline, equal.also.display_outline]

theorem Equal.add {one other : Value} (equal : Equal one other) {total : Native.Total}
    (whole : total.anyFloat = false) :
    Outcomes (fun next twin => next = twin ∧ next.anyFloat = false) (total.add one)
      (total.add other) := by
  have not_int {value : Value} (free : FloatFree value) (none : value.int? = none) :
      total.add value = .error (Callable.expected "sum" "numbers" value) := by
    cases free with
    | int => cases none
    | _ => rfl
  have same := equal.looks.int
  cases found : other.int? with
  | none =>
      rw [not_int equal.free (same.trans found), not_int equal.also found, equal.looks.expected]
      exact .failure
  | some number =>
      rw [eq_int_of_int? (same.trans found), eq_int_of_int? found, Native.Total.add]
      cases fit? (total.integers.toInt + number.toInt) with
      | none => exact .failure
      | some integers => exact .value ⟨rfl, whole⟩

theorem Equal.foldlM_add {items others : List Value} (alike : List.Forall₂ Equal items others)
    {total : Native.Total} (whole : total.anyFloat = false) :
    Outcomes (fun last twin => last = twin ∧ last.anyFloat = false)
      (items.foldlM Native.Total.add total) (others.foldlM Native.Total.add total) := by
  induction alike generalizing total with
  | nil => exact .value ⟨rfl, whole⟩
  | cons head _ ih =>
      rw [List.foldlM_cons, List.foldlM_cons]
      refine (head.add whole).bind ?_
      rintro next _ ⟨rfl, whole⟩
      exact ih whole

theorem kept_equal : Native.Kept Equal where
  null := .refl .null
  int _ := .refl .int
  string _ := .refl .string
  list := .list
  sum alike := by
    refine (Equal.foldlM_add alike rfl).bind ?_
    rintro last _ ⟨rfl, whole⟩
    rw [Native.Total.value, whole]
    exact .value (.refl .int)

/-- Among values without floats, at any depth, equality is an equivalence. Equal values read alike,
and a native function makes equal values of them, or comes to the same failure or panic, in any
place among its arguments. -/
theorem equality_congruence :
    (∀ a, FloatFree a → (a == a) = true) ∧
      (∀ a b, FloatFree a → FloatFree b → (a == b) = true → (b == a) = true) ∧
      (∀ a b c, FloatFree a → FloatFree b → FloatFree c → (a == b) = true → (b == c) = true →
        (a == c) = true) ∧
      ∀ a b, FloatFree a → FloatFree b → (a == b) = true →
        a.display = b.display ∧
          ∀ (native : Native) before after,
            Outcomes (fun result twin => (result == twin) = true)
              (native.run (before ++ a :: after)) (native.run (before ++ b :: after)) := by
  have equal {a b : Value} (free : FloatFree a) (also : FloatFree b) (same : (a == b) = true) :
      Equal a b := ⟨free, also, (free.eqv_iff also).mp same⟩
  refine ⟨?_, ?_, ?_, ?_⟩
  · intro a free
    exact (Equal.refl free).eqv
  · intro a b free also same
    exact (also.eqv_iff free).mpr (equal free also same).outline.symm
  · intro a b c first second third same next
    have outlines := (equal first second same).outline.trans (equal second third next).outline
    exact (first.eqv_iff third).mpr outlines
  · intro a b free also same
    have looks := (equal free also same).looks
    refine ⟨looks.display, fun native before after => ?_⟩
    exact (Native.run_alike kept_equal looks native before after).imp fun _ _ => Equal.eqv

namespace Repeated

def value : Value :=
  .map [(.text "a", .list [.int 1, .null]), (.text "a", .object ⟨"Point", [("x", .int 2)]⟩)]

theorem free : FloatFree value := by
  have items : ∀ item ∈ [Value.int 1, .null], FloatFree item :=
    List.forall_mem_cons.mpr ⟨.int, List.forall_mem_singleton.mpr .null⟩
  have fields : ∀ field ∈ [("x", Value.int 2)], FloatFree field.2 :=
    List.forall_mem_singleton.mpr .int
  exact .map (List.forall_mem_cons.mpr
    ⟨.list items, List.forall_mem_singleton.mpr (.object fields)⟩)

end Repeated

theorem equality_congruence_repeated :
    FloatFree Repeated.value ∧ (Repeated.value == Repeated.value) = true ∧
      Outcomes (fun result twin => (result == twin) = true)
        (Native.reverse.run [Repeated.value]) (Native.reverse.run [Repeated.value]) := by
  obtain ⟨refl, -, -, congruent⟩ := equality_congruence
  have same := refl _ Repeated.free
  exact ⟨Repeated.free, same, (congruent _ _ Repeated.free Repeated.free same).2 .reverse [] []⟩

end Value
end LazyDispatch
