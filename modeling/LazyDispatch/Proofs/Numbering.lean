import LazyDispatch.Proofs.Looking
import LazyDispatch.Proofs.Tagging

/-! Maps whose keys are the places of their entries. Such a map is tagged as a list, and nothing
tells it from the list of its values: not how it reads, not the native functions, and not
dispatch. -/

namespace LazyDispatch

def Numbered (entries : List (Key × Value)) : Prop :=
  ∀ (place : Nat) (entry : Key × Value), entries[place]? = some entry →
    ∃ index : Int64, entry.1 = .int index ∧ index.toInt = place

theorem countsFrom_iff {first : Nat} {keys : List Key} :
    countsFrom first keys = true ↔ ∀ (place : Nat) (key : Key), keys[place]? = some key →
      ∃ index : Int64, key = .int index ∧ index.toInt = (first + place : Nat) := by
  induction keys generalizing first with
  | nil => simp [countsFrom]
  | cons key keys ih =>
      constructor
      · intro counts place found hit
        cases key with
        | text name => cases counts
        | int index =>
            rw [countsFrom, Bool.and_eq_true, beq_iff_eq] at counts
            cases place with
            | zero =>
                cases hit
                exact ⟨index, rfl, counts.1⟩
            | succ place =>
                obtain ⟨other, same, later⟩ := ih.mp counts.2 place found hit
                refine ⟨other, same, later.trans ?_⟩
                omega
      · intro each
        obtain ⟨index, rfl, here⟩ := each 0 key rfl
        rw [countsFrom, Bool.and_eq_true, beq_iff_eq]
        refine ⟨here, ih.mpr fun place found hit => ?_⟩
        obtain ⟨other, same, later⟩ := each (place + 1) found hit
        refine ⟨other, same, later.trans ?_⟩
        omega

theorem numbered_iff {entries : List (Key × Value)} :
    Numbered entries ↔ countsFrom 0 (entries.map Prod.fst) = true := by
  rw [countsFrom_iff]
  simp only [List.getElem?_map, Option.map_eq_some_iff, Nat.zero_add]
  constructor
  · rintro numbered place _ ⟨entry, found, rfl⟩
    exact numbered place entry found
  · intro each place entry found
    exact each place _ ⟨entry, found, rfl⟩

namespace Numbered

variable {entries : List (Key × Value)}

theorem keys (numbered : Numbered entries) :
    entries.map (fun entry => entry.1.toValue) =
      (List.range (entries.map Prod.snd).length).map Value.ofNat := by
  apply List.ext_getElem?
  intro place
  rw [List.getElem?_map, List.getElem?_map, List.length_map]
  cases found : entries[place]? with
  | none =>
      have outside := List.getElem?_eq_none_iff.mp found
      rw [List.getElem?_eq_none (by rwa [List.length_range])]
      rfl
  | some entry =>
      obtain ⟨inside, -⟩ := List.getElem?_eq_some_iff.mp found
      obtain ⟨index, key, here⟩ := numbered place entry found
      have same : index = Int64.ofNat place := by
        rw [← Int64.ofInt_eq_ofNat, ← here, Int64.ofInt_toInt]
      rw [List.getElem?_range inside, Option.map_some, Option.map_some, key, same]
      rfl

theorem tag (numbered : Numbered entries) : (Value.map entries).tag = .list := by
  rw [Value.tag, if_pos (numbered_iff.mp numbered)]

theorem display (numbered : Numbered entries) :
    (Value.map entries).display = (Value.list (entries.map Prod.snd)).display := by
  have counts := numbered_iff.mp numbered
  simp only [Value.display, counts, if_true, Value.entryDisplays_eq_map, Value.displays_eq_map,
    List.map_map, Function.comp_def]

theorem looks (numbered : Numbered entries) :
    Native.Looks Eq (.map entries) (.list (entries.map Prod.snd)) where
  tag := numbered.tag
  string := rfl
  int := rfl
  items := .some (List.forall₂_refl _)
  keys := .value (congrArg Value.list numbered.keys)
  display := numbered.display

end Numbered

theorem Native.kept_eq : Native.Kept Eq where
  null := rfl
  int _ := rfl
  string _ := rfl
  list alike := congrArg Value.list (List.forall₂_eq_eq_eq ▸ alike)
  sum alike := .of_eq (congrArg Native.summed (List.forall₂_eq_eq_eq ▸ alike)) fun _ _ => rfl

def Value.Swapped (one other value twin : Value) : Prop :=
  value = twin ∨ value = one ∧ twin = other

structure Call.Swapped (one other : Value) (asked also : Call) : Prop where
  operation : asked.operation = also.operation
  args : List.Forall₂ (Value.Swapped one other) asked.args also.args

/-- One value does in place of another: in what is read of it, in calls of native functions, and in
chains of calls over any snapshot. -/
structure Value.Interchangeable (one other : Value) : Prop where
  tag : one.tag = other.tag
  display : one.display = other.display
  entryCount : one.entryCount? = other.entryCount?
  items : one.items? = other.items?
  natives : ∀ (native : Native) args others, List.Forall₂ (Swapped one other) args others →
    native.run args = native.run others
  chains : ∀ {σ : Type} (snapshot : Snapshot) source twin calls others (store : Store σ),
    Swapped one other source twin → List.Forall₂ (Call.Swapped one other) calls others →
      ChainsParallel (snapshot.chain source calls store) (snapshot.chain twin others store)

section

variable {one other : Value}

theorem Value.eq_of_swapped {α : Type} {f : List Value → α}
    (single : ∀ before after, f (before ++ one :: after) = f (before ++ other :: after))
    {args others : List Value} (swapped : List.Forall₂ (Swapped one other) args others)
    (before : List Value) : f (before ++ args) = f (before ++ others) := by
  induction swapped generalizing before with
  | nil => rfl
  | cons head _ ih =>
      have onward (value : Value) := ih (before ++ [value])
      simp only [List.append_assoc, List.singleton_append] at onward
      rcases head with rfl | ⟨rfl, rfl⟩
      · exact onward _
      · exact (single before _).trans (onward _)

theorem Value.Swapped.tag (same : one.tag = other.tag) {value twin : Value}
    (swapped : Swapped one other value twin) : value.tag = twin.tag := by
  rcases swapped with rfl | ⟨rfl, rfl⟩
  · rfl
  · exact same

theorem Call.Swapped.parallel (same : one.tag = other.tag) {asked also : Call}
    (swapped : asked.Swapped one other also) : asked.Parallel also :=
  ⟨swapped.operation, map_eq_of_forall₂ swapped.args fun _ _ => Value.Swapped.tag same⟩

end

/-- A map keyed by the places of its entries, the empty one included, is a list by its tag, and does
in place of the list of its values everywhere. -/
theorem numbered_map_interchangeable {entries : List (Key × Value)} (numbered : Numbered entries) :
    (Value.map entries).tag = .list ∧
      (Value.map entries).Interchangeable (.list (entries.map Prod.snd)) := by
  refine ⟨numbered.tag, numbered.tag, numbered.display, ?_, rfl, ?_, ?_⟩
  · simp only [Value.entryCount?, List.length_map]
  · intro native args others swapped
    have single (before after : List Value) :
        native.run (before ++ .map entries :: after) =
          native.run (before ++ .list (entries.map Prod.snd) :: after) :=
      (Native.run_alike Native.kept_eq numbered.looks native before after).eq
    exact Value.eq_of_swapped single swapped []
  · intro σ snapshot source twin calls others store swapped alike
    exact snapshot.chain_parallel (swapped.tag numbered.tag)
      (alike.imp fun _ _ => Call.Swapped.parallel numbered.tag) store

namespace Nested

def entries : List (Key × Value) :=
  [(.int 0, .map [(.int 0, .string "a")]), (.int 1, .list [.int 1, .map [(.text "b", .null)]])]

theorem numbered : Numbered entries := numbered_iff.mpr (by decide)

end Nested

theorem numbered_map_interchangeable_nested :
    Numbered Nested.entries ∧ (Value.map Nested.entries).tag = .list ∧
      Native.sum.run [.map Nested.entries] =
        Native.sum.run [.list (Nested.entries.map Prod.snd)] := by
  obtain ⟨tag, interchangeable⟩ := numbered_map_interchangeable Nested.numbered
  exact ⟨Nested.numbered, tag,
    interchangeable.natives .sum _ _ (.cons (.inr ⟨rfl, rfl⟩) .nil)⟩

end LazyDispatch
