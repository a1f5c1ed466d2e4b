import LazyDispatch.Registry.Edit
import LazyDispatch.Text.Letters

/-! Console lines: one colored line for each event, `step_resolved` at the finest level only. The
layer reads events as named fields, so it also takes fields that no event of this library has. -/

namespace LazyDispatch.Console

inductive Level where
  | error
  | warn
  | info
  | debug
  | trace
  deriving DecidableEq, Repr

def Level.rank : Level → Nat
  | error => 1
  | warn => 2
  | info => 3
  | debug => 4
  | trace => 5

def Level.passes (level : Level) (limit : Option Level) : Bool :=
  limit.any fun finest => level.rank ≤ finest.rank

inductive Recorded where
  | verbatim (text : String)
  /-- Recorded by its display, which loses the double quotes around it. -/
  | displayed (text : String)

def Recorded.text : Recorded → String
  | verbatim text => text
  | displayed text => String.ofList (Text.trimBy (· == '"') text.toList)

structure Fields where
  event : Option String := none
  operation : Option String := none
  signature : Option String := none
  argTypes : Option String := none
  sourceType : Option String := none
  predicted : Option String := none
  resultType : Option String := none
  signatures : Option Nat := none
  candidates : Option Nat := none
  count : Option Nat := none
  steps : Option Nat := none
  step : Option Nat := none
  deriving DecidableEq, Repr

namespace Fields

def recordText (fields : Fields) (name : String) (recorded : Recorded) : Fields :=
  let text := some recorded.text
  match name with
  | "event" => { fields with event := text }
  | "operation" => { fields with operation := text }
  | "signature" => { fields with signature := text }
  | "arg_types" => { fields with argTypes := text }
  | "source_type" => { fields with sourceType := text }
  | "predicted" => { fields with predicted := text }
  | "result_type" => { fields with resultType := text }
  | _ => fields

/-- Records a number, negative ones in two's complement of 64 bits; other names are ignored. -/
def recordNumber (fields : Fields) (name : String) (number : Int) : Fields :=
  let number := some (number % 0x10000000000000000).toNat
  match name with
  | "signatures" => { fields with signatures := number }
  | "candidates" => { fields with candidates := number }
  | "count" => { fields with count := number }
  | "steps" => { fields with steps := number }
  | "step" => { fields with step := number }
  | _ => fields

end Fields

inductive Hue where
  | black
  | red
  | green
  | yellow
  | blue
  | magenta
  | cyan
  | white
  deriving DecidableEq, Repr

def Hue.code : Hue → Nat
  | black => 0
  | red => 1
  | green => 2
  | yellow => 3
  | blue => 4
  | magenta => 5
  | cyan => 6
  | white => 7

def escape (code : Nat) : String := "\x1b[" ++ toString code ++ "m"

def dim (hue : Hue) (text : String) : String := escape (30 + hue.code) ++ text ++ escape 39

def bright (hue : Hue) (text : String) : String := escape (90 + hue.code) ++ text ++ escape 39

def bold (text : String) : String := escape 1 ++ text ++ escape 0

def typeName (name : String) : String :=
  if name = "Any" then dim .yellow name else bright .magenta name

def padLeft (width : Nat) (text : String) : String :=
  String.ofList (List.replicate (width - text.length) ' ') ++ text

namespace Fields

def title (fields : Fields) : String := bold (dim .white (fields.operation.getD "?"))

def number (count : Option Nat) : String := toString (count.getD 0)

def line? (fields : Fields) (level : Level) : Option String :=
  let types := fields.argTypes.getD ""
  let signature := fields.signature.getD ""
  match fields.event with
  | some "operation_registered" =>
    some (bold (bright .green "+") ++ " " ++ fields.title ++ " │ " ++
      bright .yellow (number fields.signatures) ++ " signature(s)")
  | some "operations_removed" =>
    some (bold (bright .red "-") ++ " " ++ bright .yellow (number fields.count) ++
      " operation(s) removed")
  | some "stream_created" =>
    some (bold (bright .green "▶") ++ " Stream(" ++ typeName (fields.sourceType.getD "?") ++ ")")
  | some "step_appended" =>
    some (bright .blue "·" ++ " " ++ fields.title ++ "(" ++ types ++ ") │ " ++
      bright .yellow (number fields.candidates) ++ " candidate(s) │ → " ++
      typeName (fields.predicted.getD "?"))
  | some "step_resolved" =>
    if level = .trace then
      some (bright .green "✓" ++ " Step " ++ bright .black (padLeft 4 (number fields.step)) ++
        " │ " ++ fields.operation.getD "?" ++ "(" ++ types ++ ") │ " ++ bright .black signature)
    else none
  | some "stream_resolved" =>
    some (bold (bright .cyan "■") ++ " Resolved │ " ++ dim .white (number fields.steps) ++
      " step(s) │ " ++ typeName (fields.resultType.getD "?"))
  | some "ambiguous_signature" =>
    some (bold (bright .red "!") ++ " " ++ fields.title ++ " │ ambiguous signature " ++
      bright .red signature)
  | some "wrong_transformation_args" =>
    some (bold (bright .red "✗") ++ " " ++ fields.title ++ " │ step " ++ number fields.step ++
      " │ no candidate for (" ++ bright .red types ++ ")")
  | _ => none

end Fields

def unstarted : String := bright .black "  0.000s"

def printed (stamp target : String) (level : Level) (fields : Fields) : String :=
  if "opstream".isPrefixOf target then
    match fields.line? level with
    | some line => stamp ++ " " ++ line ++ "\n"
    | none => ""
  else ""

end Console

namespace Event

open Console

def level : Event → Level
  | operationRegistered .. => .debug
  | operationsRemoved .. => .debug
  | ambiguousSignature .. => .warn
  | streamCreated .. => .debug
  | stepAppended .. => .debug
  | stepResolved .. => .trace
  | wrongTransformationArgs .. => .warn
  | streamResolved .. => .debug

def target : Event → String
  | operationRegistered .. => "opstream_dynamic::registry"
  | operationsRemoved .. => "opstream_dynamic::registry"
  | ambiguousSignature .. => "opstream_dynamic::registry::snapshot"
  | streamCreated .. => "opstream_dynamic::stream"
  | stepAppended .. => "opstream_dynamic::stream::dispatch"
  | stepResolved .. => "opstream_dynamic::stream::resolve"
  | wrongTransformationArgs .. => "opstream_dynamic::stream::resolve"
  | streamResolved .. => "opstream_dynamic::stream"

/-- The text fields as they are recorded. A registration shows its name by display, the other events
verbatim. -/
def texts : Event → List (String × Recorded)
  | operationRegistered operation _ =>
    [("event", .verbatim "operation_registered"), ("operation", .displayed operation)]
  | operationsRemoved _ => [("event", .verbatim "operations_removed")]
  | ambiguousSignature clash =>
    [("event", .verbatim "ambiguous_signature"), ("operation", .verbatim clash.operation),
      ("signature", .displayed clash.signature.display)]
  | streamCreated source =>
    [("event", .verbatim "stream_created"), ("source_type", .displayed source.name)]
  | stepAppended operation args _ predicted =>
    [("event", .verbatim "step_appended"), ("operation", .verbatim operation),
      ("arg_types", .displayed (Tag.row args)), ("predicted", .displayed predicted.name)]
  | stepResolved operation _ args signature =>
    [("event", .verbatim "step_resolved"), ("operation", .verbatim operation),
      ("arg_types", .displayed (Tag.row args)), ("signature", .displayed signature.display)]
  | wrongTransformationArgs operation _ args =>
    [("event", .verbatim "wrong_transformation_args"), ("operation", .verbatim operation),
      ("arg_types", .displayed (Tag.row args))]
  | streamResolved _ result =>
    [("event", .verbatim "stream_resolved"), ("result_type", .displayed result.name)]

def numbers : Event → List (String × Nat)
  | operationRegistered _ signatures => [("signatures", signatures)]
  | operationsRemoved count => [("count", count)]
  | ambiguousSignature _ => []
  | streamCreated _ => []
  | stepAppended _ _ candidates _ => [("candidates", candidates)]
  | stepResolved _ step _ _ => [("step", step)]
  | wrongTransformationArgs _ step _ => [("step", step)]
  | streamResolved steps _ => [("steps", steps)]

def fields (event : Event) : Fields :=
  let named := event.texts.foldl (fun fields (name, text) => fields.recordText name text) {}
  event.numbers.foldl (fun fields (name, number) => fields.recordNumber name number) named

def print (stamp : String) (limit : String → Option Level) (event : Event) : String :=
  if event.level.passes (limit event.target) then
    printed stamp event.target event.level event.fields
  else ""

end Event
end LazyDispatch
