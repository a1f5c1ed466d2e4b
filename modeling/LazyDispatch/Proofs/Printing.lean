import LazyDispatch.Console
import LazyDispatch.Proofs.Cutting
import LazyDispatch.Script.Step
import Mathlib.Data.List.DropRight

/-! Console lines and the operations they name. A line has one place for the name of its operation,
and nothing else in it depends on that name. The name stands there as it was registered, except in
the line of the registration itself, which drops the double quotes around it. -/

namespace LazyDispatch

namespace Text

theorem trimBy_eq_self_iff {p : Char → Bool} {letters : List Char} :
    trimBy p letters = letters ↔
      (∀ c ∈ letters.head?, ¬ p c) ∧ ∀ c ∈ letters.getLast?, ¬ p c := by
  have first : (∀ c ∈ letters.head?, ¬ p c) ↔ letters.dropWhile p = letters := by
    rw [List.dropWhile_eq_self_iff]
    cases letters <;> simp
  have last : (∀ c ∈ letters.getLast?, ¬ p c) ↔ letters.rdropWhile p = letters := by
    rw [List.rdropWhile_eq_self_iff]
    rcases letters.eq_nil_or_concat with rfl | ⟨init, c, rfl⟩ <;> simp
  have both : trimBy p letters = (letters.dropWhile p).rdropWhile p := rfl
  rw [first, last, both]
  constructor
  · intro same
    have short := (List.rdropWhile_prefix p (l := letters.dropWhile p)).length_le
    rw [same] at short
    have front := (List.dropWhile_suffix p (l := letters)).eq_of_length_le short
    rw [front] at same
    exact ⟨front, same⟩
  · rintro ⟨front, back⟩
    rw [front, back]

end Text

namespace Console

/-- A text that shows its argument at one place, between texts that do not depend on it. -/
def Frames (line : String → String) : Prop :=
  ∃ before after, ∀ name, line name = before ++ name ++ after

section

variable {line : String → String}

theorem frames_id : Frames fun name => name := ⟨"", "", fun name => by simp⟩

theorem Frames.after (frames : Frames line) (text : String) :
    Frames fun name => text ++ line name := by
  obtain ⟨before, after, same⟩ := frames
  exact ⟨text ++ before, after, fun name => by simp only [same, String.append_assoc]⟩

theorem Frames.before (frames : Frames line) (text : String) :
    Frames fun name => line name ++ text := by
  obtain ⟨before, after, same⟩ := frames
  exact ⟨before, after ++ text, fun name => by simp only [same, String.append_assoc]⟩

theorem Frames.dim (frames : Frames line) (hue : Hue) : Frames fun name => dim hue (line name) :=
  (frames.after _).before _

theorem Frames.bold (frames : Frames line) : Frames fun name => bold (line name) :=
  (frames.after _).before _

theorem Frames.injective (frames : Frames line) : Function.Injective line := by
  obtain ⟨before, after, same⟩ := frames
  intro name other alike
  rw [same, same] at alike
  simpa using alike

end

def Unquoted (name : String) : Prop :=
  (∀ c ∈ name.toList.head?, c ≠ '"') ∧ ∀ c ∈ name.toList.getLast?, c ≠ '"'

theorem text_displayed_eq_self_iff {name : String} :
    (Recorded.displayed name).text = name ↔ Unquoted name := by
  rw [Recorded.text, ← String.toList_inj, String.toList_ofList, Text.trimBy_eq_self_iff, Unquoted]
  simp only [beq_iff_eq, ne_eq]

end Console

namespace Event

open Console

def operation? : Event → Option String
  | operationRegistered operation _ => some operation
  | ambiguousSignature clash => some clash.operation
  | stepAppended operation .. => some operation
  | stepResolved operation .. => some operation
  | wrongTransformationArgs operation .. => some operation
  | operationsRemoved _ => none
  | streamCreated _ => none
  | streamResolved .. => none

def isRegistration : Event → Bool
  | operationRegistered .. => true
  | _ => false

/-- The line of an event with a name in the place of the operation. -/
def lineWith (event : Event) (stamp name : String) : String :=
  printed stamp event.target event.level { event.fields with operation := some name }

def shows (event : Event) (operation : String) : String :=
  if event.isRegistration then (Recorded.displayed operation).text else operation

section

variable {event : Event} {operation : String}

theorem isPrefixOf_target (event : Event) : "opstream".isPrefixOf event.target = true := by
  cases event <;> simp only [target] <;> decide +kernel

theorem print_at_trace (event : Event) (stamp : String) :
    event.print stamp (fun _ => some .trace) =
      printed stamp event.target event.level event.fields := by
  have passes : event.level.passes (some .trace) = true := by
    cases event <;> rfl
  rw [print, if_pos passes]

theorem operation_fields (about : event.operation? = some operation) :
    event.fields.operation = some (event.shows operation) := by
  cases event <;> cases about <;> rfl

theorem frames_lineWith (about : event.operation? = some operation) (stamp : String) :
    Frames (event.lineWith stamp) := by
  have title : Frames fun name => bold (dim .white name) := (frames_id.dim .white).bold
  change Frames fun name => event.lineWith stamp name
  cases event
  case operationsRemoved | streamCreated | streamResolved => cases about
  all_goals
    simp only [lineWith, printed, isPrefixOf_target, fields, texts, numbers, level, List.foldl_cons,
      List.foldl_nil, Fields.recordText, Fields.recordNumber, Fields.line?, Fields.title,
      Recorded.text, if_true, Option.getD_some]
    refine Frames.before (Frames.after ?_ (stamp ++ " ")) "\n"
  case operationRegistered => exact (((title.after _).before _).before _).before _
  case ambiguousSignature => exact ((title.after _).before _).before _
  case stepAppended =>
    exact ((((((title.after _).before _).before _).before _).before _).before _).before _
  case stepResolved => exact ((((frames_id.after _).before _).before _).before _).before _
  case wrongTransformationArgs =>
    exact (((((title.after _).before _).before _).before _).before _).before _

theorem shows_eq_self_iff :
    event.shows operation = operation ↔ (event.isRegistration → Unquoted operation) := by
  rw [shows]
  cases event.isRegistration with
  | true => simpa using text_displayed_eq_self_iff
  | false => simp

end

/-- At the finest level, the line of an event names its operation at one place, and is otherwise the
same for every name. What stands there is the name itself, except that a registration leaves out the
double quotes around it. So lines name different operations differently, as far as no name is
registered that begins or ends with a double quote. -/
theorem lines_name_operations {event : Event} {operation : String}
    (about : event.operation? = some operation) (stamp : String) :
    event.print stamp (fun _ => some .trace) = event.lineWith stamp (event.shows operation) ∧
      Frames (event.lineWith stamp) ∧
      (event.shows operation = operation ↔ (event.isRegistration → Unquoted operation)) ∧
      ∀ (twin : Event) (other : String), twin.operation? = some other →
        (event.isRegistration → Unquoted operation) → (twin.isRegistration → Unquoted other) →
          (event.shows operation = twin.shows other ↔ operation = other) := by
  refine ⟨?_, frames_lineWith about stamp, shows_eq_self_iff, ?_⟩
  · rw [print_at_trace, lineWith, ← operation_fields about]
  · intro twin other about' plain plain'
    rw [shows_eq_self_iff.mpr plain, shows_eq_self_iff.mpr plain']

end Event

namespace Quoted

open Console Script

def session : Session := { Session.new with places := NameTable.empty.put "main" (.own .empty) }

def steps : List Step :=
  [.operation "\"size\"" ["List -> Number"] (.named "count"), .start (.list []) none "items",
    .invoke "items" "\"size\"" [] "sized"]

def registered : Event := .operationRegistered "\"size\"" 1

def appended : Event := .stepAppended "\"size\"" [.list] 1 .number

end Quoted

namespace Event

open Console

theorem lines_name_operations_appended :
    Quoted.appended.operation? = some "\"size\"" ∧
      Quoted.appended.print unstarted (fun _ => some .trace) =
        Quoted.appended.lineWith unstarted "\"size\"" := by
  have about : Quoted.appended.operation? = some "\"size\"" := rfl
  exact ⟨about, (lines_name_operations about unstarted).1⟩

/-- The two lines of a script about one operation name it differently: its registration shows the
name of another one. -/
theorem registration_line_drops_quotes :
    Script.Session.new.openMain .empty = .ok Quoted.session ∧
      (Quoted.session.play Quoted.steps).map Script.Turn.events =
        [[Quoted.registered], [.streamCreated .list], [Quoted.appended]] ∧
      Quoted.registered.print unstarted (fun _ => some .trace) =
        Quoted.registered.lineWith unstarted "size" ∧
      Quoted.registered.print unstarted (fun _ => some .trace) =
        (operationRegistered "size" 1).print unstarted (fun _ => some .trace) ∧
      Quoted.registered.print unstarted (fun _ => some .trace) ≠
        Quoted.registered.lineWith unstarted "\"size\"" ∧
      Quoted.appended.print unstarted (fun _ => some .trace) =
        Quoted.appended.lineWith unstarted "\"size\"" := by
  have registered : Quoted.registered.print unstarted (fun _ => some .trace) =
      Quoted.registered.lineWith unstarted "size" := by
    rw [print_at_trace]
    rfl
  refine ⟨rfl, by decide +kernel, registered, ?_, ?_, ?_⟩
  · rw [print_at_trace, print_at_trace]
    rfl
  · intro same
    have frames : Frames (Quoted.registered.lineWith unstarted) := frames_lineWith rfl unstarted
    have alike := frames.injective (registered.symm.trans same)
    exact absurd alike (by decide)
  · rw [print_at_trace]
    rfl

end Event

end LazyDispatch
