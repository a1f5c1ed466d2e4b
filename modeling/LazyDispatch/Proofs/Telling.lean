import LazyDispatch.Proofs.Equating
import LazyDispatch.Proofs.Tagging

/-! Equal values before dispatch. Equality compares numbers across their two kinds and looks into
collections, yet it never joins values of different types. So dispatch, which goes by types alone,
cannot tell equal values apart. -/

namespace LazyDispatch

/-- Equal values have one type. Only numbers of different kinds are equal without being alike, and
equal maps have the same keys, so that either both count as lists or neither does. -/
theorem Value.tag_eq_of_eqv {one other : Value} (equal : one.eqv other = true) :
    one.tag = other.tag := by
  cases one with
  | map entries =>
      cases other with
      | map others =>
          rw [eqv, eqvEntries_iff] at equal
          rw [tag, tag, map_eq_of_forall₂ equal fun _ _ => And.left]
      | _ => simp [eqv] at equal
  | _ => cases other <;> simp [eqv, tag] at equal ⊢

structure Call.Equal (asked other : Call) : Prop where
  operation : asked.operation = other.operation
  args : List.Forall₂ (fun arg twin => (arg == twin) = true) asked.args other.args

theorem Call.Equal.parallel {asked other : Call} (equal : asked.Equal other) :
    asked.Parallel other :=
  ⟨equal.operation, map_eq_of_forall₂ equal.args fun _ _ => Value.tag_eq_of_eqv⟩

/-- Equal values are one to dispatch. They have one type; and two chains of calls over a snapshot,
from equal sources and with equal arguments, are accepted up to the same call and refused there with
the same failure, and up to there they keep the same candidates and predict the same types. -/
theorem equal_values_dispatch_alike :
    (∀ one other : Value, (one == other) = true → one.tag = other.tag) ∧
      ∀ {σ : Type} (snapshot : Snapshot) (source twin : Value) (calls others : List Call)
        (store : Store σ), (source == twin) = true → List.Forall₂ Call.Equal calls others →
          ∀ place, ChainsParallel (snapshot.chain source (calls.take place) store)
            (snapshot.chain twin (others.take place) store) := by
  constructor
  · intro one other equal
    exact Value.tag_eq_of_eqv equal
  · intro σ snapshot source twin calls others store equal alike place
    have parallel := alike.imp fun _ _ => Call.Equal.parallel
    exact snapshot.chain_parallel (Value.tag_eq_of_eqv equal) (List.forall₂_take place parallel)
      store

namespace Close

def source : Value := .map [(.int 0, .float 0.3), (.int 1, .string "abc")]

def twin : Value := .map [(.int 0, .float (0.1 + 0.2)), (.int 1, .string "abc")]

def snapshot : Snapshot :=
  ⟨NameTable.empty.put "scale" [⟨"scale", ⟨.list, [.number], .list⟩, .custom 0 "scale"⟩]⟩

def calls (factor : Float) : List Call := [⟨"scale", [.float factor]⟩, ⟨"scale", [.null]⟩]

def store : Store Unit := .new ()

theorem close : closeTo 0.3 (0.1 + 0.2) = true := by decide +kernel

theorem equal : (source == twin) = true := by
  have entries : source.eqv twin = true := by
    simp [source, twin, Value.eqv, Value.eqvEntries, close]
  exact entries

theorem alike : List.Forall₂ Call.Equal (calls 0.3) (calls (0.1 + 0.2)) := by
  have factor : (Value.float 0.3).eqv (.float (0.1 + 0.2)) = true := by simp [Value.eqv, close]
  have null : Value.null.eqv .null = true := by simp [Value.eqv]
  exact .cons ⟨rfl, .cons factor .nil⟩ (.cons ⟨rfl, .cons null .nil⟩ .nil)

end Close

theorem equal_values_dispatch_alike_close :
    (Close.source == Close.twin) = true ∧
      List.Forall₂ Call.Equal (Close.calls 0.3) (Close.calls (0.1 + 0.2)) ∧
      Close.source.tag = Close.twin.tag ∧
      ∀ place, ChainsParallel
        (Close.snapshot.chain Close.source ((Close.calls 0.3).take place) Close.store)
        (Close.snapshot.chain Close.twin ((Close.calls (0.1 + 0.2)).take place) Close.store) := by
  obtain ⟨tags, chains⟩ := equal_values_dispatch_alike
  exact ⟨Close.equal, Close.alike, tags _ _ Close.equal,
    chains Close.snapshot _ _ _ _ Close.store Close.equal Close.alike⟩

end LazyDispatch
