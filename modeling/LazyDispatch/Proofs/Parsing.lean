import LazyDispatch.Proofs.Cutting
import LazyDispatch.Proofs.Expansion

/-! What signature texts mean. A text is legible when it has two groups or more and every
alternative names a type; it then means all choices of one type from each group. Any other text is
refused as it was given. -/

namespace LazyDispatch

theorem mapM_eq_some_iff {α β : Type} {f : α → Option β} {values : List α} {images : List β} :
    values.mapM f = some images ↔
      List.Forall₂ (fun value image => f value = some image) values images := by
  induction values generalizing images with
  | nil => cases images <;> simp
  | cons value values ih =>
      cases first : f value with
      | none => cases images <;> simp [first]
      | some image =>
          cases rest : values.mapM f with
          | none => cases images <;> simp [first, rest, ← ih]
          | some others => cases images <;> simp [first, rest, ← ih]

theorem exists_forall₂_iff {α β : Type} {relation : α → β → Prop} {values : List α} :
    (∃ images, List.Forall₂ relation values images) ↔
      ∀ value ∈ values, ∃ image, relation value image := by
  induction values with
  | nil => simp
  | cons value values ih =>
      rw [List.forall_mem_cons, ← ih]
      constructor
      · rintro ⟨images, related⟩
        cases related with
        | cons first rest => exact ⟨⟨_, first⟩, _, rest⟩
      · rintro ⟨⟨image, first⟩, images, rest⟩
        exact ⟨image :: images, .cons first rest⟩

namespace Tag

/-- The words of the vocabulary: the names of the tags, and an older one. -/
inductive Word : String → Tag → Prop where
  | name (tag : Tag) : Word tag.name tag
  | array : Word "Array" map

def Spells (letters : List Char) (tag : Tag) : Prop :=
  ∃ word, Word word tag ∧ fold letters = fold word.toList

def Names (letters : List Char) (tag : Tag) : Prop :=
  ∃ word, Text.Trims letters word ∧ Spells word tag

theorem ofLetters?_of_word {word : String} {tag : Tag} (known : Word word tag) :
    ofLetters? word.toList = some tag := by
  cases known with
  | name => cases tag <;> decide
  | array => decide

theorem ofLetters?_eq_some_iff {letters : List Char} {tag : Tag} :
    ofLetters? letters = some tag ↔ Spells letters tag := by
  constructor
  · intro read
    rw [ofLetters?] at read
    split at read
    · rename_i array
      cases read
      refine ⟨"Array", .array, array.trans ?_⟩
      decide
    · have same := List.find?_some read
      exact ⟨tag.name, .name tag, (of_decide_eq_true same).symm⟩
  · rintro ⟨word, known, same⟩
    rw [← ofLetters?_of_word known, ofLetters?, ofLetters?, same]

theorem ofLetters?_trim_eq_some_iff {letters : List Char} {tag : Tag} :
    ofLetters? (Text.trim letters) = some tag ↔ Names letters tag := by
  rw [ofLetters?_eq_some_iff]
  constructor
  · intro spells
    exact ⟨_, Text.trims_iff.mpr rfl, spells⟩
  · rintro ⟨word, trims, spells⟩
    rw [← Text.trims_iff.mp trims]
    exact spells

end Tag

namespace Signature

/-- The text is groups with an arrow between them, and a group alternatives with bars. -/
def Written (letters : List Char) (groups : List (List (List Char))) : Prop :=
  ∃ fields, Text.Cuts Text.arrow letters fields ∧ List.Forall₂ (Text.Cuts Text.bar) fields groups

/-- There are a parameter and a return type at least, and every alternative names a type. -/
structure Legible (groups : List (List (List Char))) : Prop where
  two : 2 ≤ groups.length
  named : ∀ group ∈ groups, ∀ alternative ∈ group, ∃ tag, Tag.Names alternative tag

def Denote : List (List (List Char)) → List (List Tag) → Prop :=
  List.Forall₂ (List.Forall₂ Tag.Names)

def groupsOf (letters : List Char) : List (List (List Char)) :=
  (Text.cutArrows letters).map (Text.cutAt '|')

theorem written_iff {letters : List Char} {groups : List (List (List Char))} :
    Written letters groups ↔ groups = groupsOf letters := by
  have bars : List.Forall₂ (Text.Cuts Text.bar) =
      List.Forall₂ fun field group => group = Text.cutAt '|' field := by
    congr
    funext field group
    exact propext (Text.cuts_cutAt '|' field group)
  rw [Written, bars]
  constructor
  · rintro ⟨fields, arrows, cut⟩
    rw [(Text.cuts_cutArrows letters fields).mp arrows] at cut
    have same := List.forall₂_map_left_iff.mpr (cut.imp fun _ _ => Eq.symm)
    exact (List.forall₂_eq_eq_eq ▸ same).symm
  · rintro rfl
    refine ⟨_, (Text.cuts_cutArrows letters _).mpr rfl, ?_⟩
    rw [groupsOf, List.forall₂_map_right_iff, List.forall₂_same]
    intro field member
    rfl

theorem readGroups_eq_some_iff {letters : List Char} {types : List (List Tag)} :
    (Text.cutArrows letters).mapM readGroup = some types ↔ Denote (groupsOf letters) types := by
  rw [mapM_eq_some_iff, Denote, groupsOf, List.forall₂_map_left_iff]
  simp only [readGroup, mapM_eq_some_iff, Tag.ofLetters?_trim_eq_some_iff]

theorem Legible.iff_denote {groups : List (List (List Char))} :
    Legible groups ↔ 2 ≤ groups.length ∧ ∃ types, Denote groups types := by
  simp only [Denote, exists_forall₂_iff]
  constructor
  · rintro ⟨two, named⟩
    exact ⟨two, named⟩
  · rintro ⟨two, named⟩
    exact ⟨two, named⟩

theorem exists_ofTypes? {row : List Tag} (two : 2 ≤ row.length) :
    ∃ signature, ofTypes? row = some signature ∧ signature.types = row := by
  match row, two with
  | receiver :: second :: rest, _ =>
      refine ⟨_, rfl, ?_⟩
      simp only [types, params, List.cons_append, List.dropLast_concat_getLast]

theorem types_filterMap {rows : List (List Tag)} (two : ∀ row ∈ rows, 2 ≤ row.length) :
    (rows.filterMap ofTypes?).map types = rows := by
  induction rows with
  | nil => rfl
  | cons row rows ih =>
      obtain ⟨here, rest⟩ := List.forall_mem_cons.mp two
      obtain ⟨signature, made, same⟩ := exists_ofTypes? here
      rw [List.filterMap_cons, made, List.map_cons, same, ih rest]

theorem types_expand {groups : List (List Tag)} (two : 2 ≤ groups.length) :
    ((expand groups).filterMap ofTypes?).map types = expand groups := by
  apply types_filterMap
  intro row member
  rw [(((enumerates_expand groups).mem row).mp member).length_eq]
  exact two

theorem read_eq_some_iff {letters : List Char} {signatures : List Signature} :
    read letters = some signatures ↔ 2 ≤ (groupsOf letters).length ∧
      ∃ types, Denote (groupsOf letters) types ∧
        signatures = (expand types).filterMap ofTypes? := by
  cases named : (Text.cutArrows letters).mapM readGroup with
  | none =>
      have silent : ∀ types, ¬ Denote (groupsOf letters) types := by
        intro types denote
        rw [← readGroups_eq_some_iff, named] at denote
        cases denote
      simp [read, named, silent]
  | some types =>
      have denote := readGroups_eq_some_iff.mp named
      have length : (groupsOf letters).length = types.length := List.Forall₂.length_eq denote
      have only : ∀ others, Denote (groupsOf letters) others ↔ others = types := by
        intro others
        rw [← readGroups_eq_some_iff, named, Option.some.injEq, eq_comm]
      simp only [read, named, Option.bind_eq_bind, Option.bind_some, length, only,
        exists_eq_left]
      split
      · rename_i few
        simp [Nat.not_le.mpr few]
      · rename_i enough
        rw [Option.some.injEq, eq_comm, and_iff_right (Nat.not_lt.mp enough)]

/-- A text has one reading as groups of alternatives. It is parsed exactly when that is legible, and
then means every choice of one type from each group, once and in order; otherwise the failure holds
the text itself. -/
theorem parse_exact (text : String) :
    ∃ groups, (∀ others, Written text.toList others ↔ others = groups) ∧
      ((∃ signatures, parse text = .ok signatures) ↔ Legible groups) ∧
      (¬ Legible groups → parse text = .error (.invalidSignature text)) ∧
      ∀ signatures, parse text = .ok signatures →
        ∃ types, Denote groups types ∧ Enumerates types (signatures.map Signature.types) := by
  have parsed {signatures : List Signature} :
      parse text = .ok signatures ↔ read text.toList = some signatures := by
    rw [parse]
    cases read text.toList <;> simp
  have legible : (∃ signatures, parse text = .ok signatures) ↔ Legible (groupsOf text.toList) := by
    simp only [parsed, read_eq_some_iff, Legible.iff_denote]
    constructor
    · rintro ⟨signatures, two, types, denote, -⟩
      exact ⟨two, types, denote⟩
    · rintro ⟨two, types, denote⟩
      exact ⟨_, two, types, denote, rfl⟩
  refine ⟨groupsOf text.toList, fun others => written_iff, legible, ?_, ?_⟩
  · intro illegible
    cases outcome : read text.toList with
    | none => rw [parse, outcome]
    | some signatures => exact absurd (legible.mp ⟨signatures, parsed.mpr outcome⟩) illegible
  · intro signatures ok
    obtain ⟨two, types, denote, rfl⟩ := read_eq_some_iff.mp (parsed.mp ok)
    refine ⟨types, denote, ?_⟩
    rw [List.Forall₂.length_eq denote] at two
    rw [types_expand two]
    exact enumerates_expand types

end Signature
end LazyDispatch
