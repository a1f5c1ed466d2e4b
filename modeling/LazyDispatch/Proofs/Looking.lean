import LazyDispatch.Native
import Mathlib.Data.List.Forall2
import Mathlib.Data.Option.Basic

/-! What native functions see of a value: its type, its text or number, its items, its keys and how
it reads. Values that agree in these are the same to every native function, in any place among the
arguments; and where their items only correspond, so do the results. -/

namespace LazyDispatch

open Callable (unary binary expected)

inductive Outcomes {ε α β : Type} (same : α → β → Prop) : Except ε α → Except ε β → Prop where
  | value {one : α} {other : β} (alike : same one other) : Outcomes same (.ok one) (.ok other)
  | failure {reason : ε} : Outcomes same (.error reason) (.error reason)

namespace Outcomes

variable {ε α β γ δ : Type} {same : α → β → Prop} {next : γ → δ → Prop}

theorem of_eq {same : α → α → Prop} {one other : Except ε α} (equal : one = other)
    (refl : ∀ value, other = .ok value → same value value) : Outcomes same one other := by
  subst equal
  cases one with
  | ok value => exact .value (refl value rfl)
  | error reason => exact .failure

theorem eq {one other : Except ε α} (alike : Outcomes Eq one other) : one = other := by
  cases alike with
  | value same => rw [same]
  | failure => rfl

theorem imp {one : Except ε α} {other : Except ε β} (alike : Outcomes same one other)
    {like : α → β → Prop} (weaker : ∀ value twin, same value twin → like value twin) :
    Outcomes like one other := by
  cases alike with
  | value alike => exact .value (weaker _ _ alike)
  | failure => exact .failure

theorem bind {one : Except ε α} {other : Except ε β} (alike : Outcomes same one other)
    {f : α → Except ε γ} {g : β → Except ε δ}
    (onward : ∀ value twin, same value twin → Outcomes next (f value) (g twin)) :
    Outcomes next (one >>= f) (other >>= g) := by
  cases alike with
  | value alike => exact onward _ _ alike
  | failure => exact .failure

theorem bind_same (outcome : Except ε α) {f : α → Except ε γ} {g : α → Except ε δ}
    (onward : ∀ value, Outcomes next (f value) (g value)) :
    Outcomes next (outcome >>= f) (outcome >>= g) := by
  refine (of_eq rfl fun _ _ => rfl).bind ?_
  rintro value _ rfl
  exact onward value

theorem lift {one : Except Failure α} {other : Except Failure β}
    (alike : Outcomes same one other) :
    Outcomes same (Halt.ofFailure one) (Halt.ofFailure other) := by
  cases alike with
  | value alike => exact .value alike
  | failure => exact .failure

end Outcomes

namespace Native

/-- Two values that native functions see alike, as far as their items correspond. -/
structure Looks (same : Value → Value → Prop) (one other : Value) : Prop where
  tag : one.tag = other.tag
  string : one.string? = other.string?
  int : one.int? = other.int?
  items : Option.Rel (List.Forall₂ same) one.items? other.items?
  keys : Outcomes same (keysOf one) (keysOf other)
  display : one.display = other.display

/-- A correspondence of values that holds between what native functions make of parts that
correspond. -/
structure Kept (same : Value → Value → Prop) : Prop where
  null : same .null .null
  int : ∀ number, same (.int number) (.int number)
  string : ∀ text, same (.string text) (.string text)
  list : ∀ {items others}, List.Forall₂ same items others → same (.list items) (.list others)
  sum : ∀ {items others}, List.Forall₂ same items others →
    Outcomes same (summed items) (summed others)

section

variable {same : Value → Value → Prop} {one other : Value}

namespace Looks

theorem expected (looks : Looks same one other) (name what : String) :
    expected name what one = expected name what other := by
  rw [Callable.expected, Callable.expected, looks.tag]

theorem text (looks : Looks same one other) (name : String) : text name one = text name other := by
  rw [Native.text, Native.text, looks.string, looks.expected]

theorem times (looks : Looks same one other) : times one = times other := by
  have by_int (value : Value) : Native.times value =
      value.int?.elim (.error (Callable.expected "str_repeat" "a non-negative integer" value))
        fun number =>
          if 0 ≤ number.toInt then .ok number.toInt.toNat
          else .error (Callable.expected "str_repeat" "a non-negative integer" value) := by
    cases value <;> rfl
  rw [by_int, by_int, looks.int, looks.expected]

theorem collection (looks : Looks same one other) (name : String) :
    Outcomes (List.Forall₂ same) (collection name one) (collection name other) := by
  have items := looks.items
  rw [Native.collection, Native.collection, looks.expected]
  generalize one.items? = ones at items ⊢
  generalize other.items? = others at items ⊢
  cases items with
  | none => exact .failure
  | some alike => exact .value alike

theorem mapText (looks : Looks same one other) (kept : Kept same) (name : String)
    (f : List Char → List Char) : Outcomes same (mapText name f one) (mapText name f other) := by
  rw [Native.mapText, Native.mapText, looks.text]
  exact .bind_same _ fun text => .value (kept.string _)

theorem reversed (looks : Looks same one other) (kept : Kept same) :
    Outcomes same (reversed one) (reversed other) := by
  have by_string (value : Value) : Native.reversed value =
      value.string?.elim
        (value.items?.elim
          (.error (Callable.expected "reverse" "a string or a collection" value))
          fun items => .ok (.list items.reverse))
        fun text => .ok (.string (String.ofList text.toList.reverse)) := by
    cases value <;> rfl
  have items := looks.items
  rw [by_string, by_string, looks.string, looks.expected]
  generalize one.items? = ones at items ⊢
  generalize other.items? = others at items ⊢
  cases other.string? with
  | some text => exact .value (kept.string _)
  | none =>
      cases items with
      | none => exact .failure
      | some alike => exact .value (kept.list (List.rel_reverse alike))

theorem unary (looks : Looks same one other) (name : String) (before after : List Value) :
    Outcomes (Looks same) (unary name (before ++ one :: after))
      (unary name (before ++ other :: after)) := by
  match before, after with
  | [], [] => exact .value looks
  | [], _ :: _ => exact .failure
  | [_], _ => exact .failure
  | _ :: _ :: before, after =>
      simp only [Callable.unary, List.cons_append, List.length_append, List.length_cons]
      exact .failure

theorem binary (looks : Looks same one other) (name : String) (before after : List Value) :
    Outcomes (fun pair twin => (∀ name, Native.text name pair.1 = Native.text name twin.1) ∧
        Native.times pair.2 = Native.times twin.2)
      (binary name (before ++ one :: after)) (binary name (before ++ other :: after)) := by
  match before, after with
  | [], [] => exact .failure
  | [], [_] => exact .value ⟨looks.text, rfl⟩
  | [], _ :: _ :: _ => exact .failure
  | [_], [] => exact .value ⟨fun _ => rfl, looks.times⟩
  | [_], _ :: _ => exact .failure
  | [_, _], _ => exact .failure
  | _ :: _ :: _ :: before, after =>
      simp only [Callable.binary, List.cons_append, List.length_append, List.length_cons]
      exact .failure

end Looks

namespace Kept

theorem first (kept : Kept same) {items others : List Value}
    (alike : List.Forall₂ same items others) :
    same (.ofOption items.head?) (.ofOption others.head?) := by
  cases alike with
  | nil => exact kept.null
  | cons head _ => exact head

theorem last (kept : Kept same) {items others : List Value}
    (alike : List.Forall₂ same items others) :
    same (.ofOption items.getLast?) (.ofOption others.getLast?) := by
  rw [← List.head?_reverse, ← List.head?_reverse]
  exact kept.first (List.rel_reverse alike)

theorem repeated (kept : Kept same) {subject twin copies others : Value}
    (text : ∀ name, text name subject = text name twin) (times : times copies = times others) :
    Outcomes same (repeated subject copies) (repeated twin others) := by
  rw [Native.repeated, Native.repeated, text, times]
  refine .bind_same _ fun text => .bind_same _ fun copies => ?_
  split
  · exact .value (kept.string _)
  · exact .failure

end Kept

/-- Native functions make the same of values that they see alike, in any place among the
arguments. -/
theorem run_alike (kept : Kept same) (looks : Looks same one other) (native : Native)
    (before after : List Value) :
    Outcomes same (native.run (before ++ one :: after))
      (native.run (before ++ other :: after)) := by
  have alone {f : Value → Except Halt Value}
      (onward : ∀ {one other}, Looks same one other → Outcomes same (f one) (f other)) :
      Outcomes same (Halt.ofFailure (unary native.name (before ++ one :: after)) >>= f)
        (Halt.ofFailure (unary native.name (before ++ other :: after)) >>= f) :=
    (looks.unary _ before after).lift.bind fun _ _ => onward
  have collected {f : List Value → Except Halt Value}
      (onward : ∀ {items others}, List.Forall₂ same items others →
        Outcomes same (f items) (f others)) :
      Outcomes same
        (Halt.ofFailure (unary native.name (before ++ one :: after)) >>= fun value =>
          Halt.ofFailure (collection native.name value) >>= f)
        (Halt.ofFailure (unary native.name (before ++ other :: after)) >>= fun value =>
          Halt.ofFailure (collection native.name value) >>= f) :=
    alone fun looks => (looks.collection _).lift.bind fun _ _ => onward
  cases native with
  | count =>
      refine collected fun alike => ?_
      rw [alike.length_eq]
      exact .value (kept.int _)
  | head => exact collected fun alike => .value (kept.first alike)
  | keys => exact alone fun looks => looks.keys.lift
  | last => exact collected fun alike => .value (kept.last alike)
  | reverse => exact alone fun looks => (looks.reversed kept).lift
  | strRepeat =>
      refine (looks.binary _ before after).lift.bind ?_
      rintro ⟨subject, copies⟩ ⟨twin, others⟩ ⟨text, times⟩
      exact kept.repeated text times
  | strlen =>
      refine alone fun looks => ?_
      rw [looks.text]
      exact .bind_same _ fun text => .value (kept.int _)
  | strtolower => exact alone fun looks => (looks.mapText kept _ _).lift
  | strtoupper => exact alone fun looks => (looks.mapText kept _ _).lift
  | sum => exact collected fun alike => (kept.sum alike).lift
  | toText =>
      refine alone fun looks => ?_
      rw [looks.display]
      exact .value (kept.string _)
  | trim => exact alone fun looks => (looks.mapText kept _ _).lift
  | values => exact collected fun alike => .value (kept.list alike)

end

end Native
end LazyDispatch
