import LazyDispatch.Store
import LazyDispatch.Proofs.Evolving
import LazyDispatch.Proofs.Growth
import LazyDispatch.Proofs.Likeness
import LazyDispatch.Proofs.Validation

/-! Streams keep to their snapshot. Registries may change between any two acts on the streams of a
program, and while one of them is resolved: nothing that the streams do depends on it. -/

namespace LazyDispatch

inductive Change where
  | edit (edit : Edit)
  | restart (config : Config)
  | close (guard : Guard)
  | own (edit : Edit)

inductive Act where
  | change (change : Change)
  | invoke (place : Nat) (asked : Call)
  | result (place : Nat)

inductive Reply where
  | accepted (predicted : Tag) (steps : List (PendingStep Value))
  | refused (failure : Failure)
  | resolved (outcome : Except Failure Value) (ran : List Application)

inductive Base where
  | injected
  | shared

section

variable {σ : Type}

def Run.editOwn (edit : Edit) : Run (Registry × σ) Unit := do
  let (changed, events) ← ofExcept ((← store).host.1.edit edit)
  update fun store => { store with host := (changed, store.host.2) }.report events

def Change.run : Change → Run (Registry × σ) Unit
  | edit made => Run.editShared made
  | restart config => Run.restart config
  | close guard => guard.close
  | own made => Run.editOwn made

namespace Stream

def create (source : Value) : Base → Run (Registry × σ) (Stream Value)
  | .injected => do start (← Run.takeSnapshot (← Run.store).host.1) source
  | .shared => startShared source

def watched (stream : Stream Value) (call : Callable → List Value → Run σ Value) (store : Store σ) :
    Option ((Except Failure Value × List Application) × Store σ) :=
  (stream.result (journaled call) (store.beside [])).map fun ended =>
    ((ended.1, ended.2.host.2), ended.2.plain)

end Stream

/-- The replies to the acts of a program, on streams made before and by itself. An act on a stream
that is not there does nothing. -/
def play (call : Callable → List Value → Run (Registry × σ) Value) :
    List (Stream Value) → Store (Registry × σ) → List Act → Option (List Reply)
  | _, _, [] => some []
  | streams, store, .change change :: acts =>
    (change.run store).bind fun ended => play call streams ended.2 acts
  | streams, store, .invoke place asked :: acts =>
    match streams[place]? with
    | none => play call streams store acts
    | some stream =>
      match stream.invoke asked.operation asked.args store with
      | none => none
      | some (.error failure, after) => (play call streams after acts).map (.refused failure :: ·)
      | some (.ok longer, after) =>
        (play call (streams ++ [longer]) after acts).map
          (.accepted longer.predicted longer.steps :: ·)
  | streams, store, .result place :: acts =>
    match streams[place]? with
    | none => play call streams store acts
    | some stream =>
      (stream.watched call store).bind fun ended =>
        (play call streams ended.2 acts).map (.resolved ended.1.1 ended.1.2 :: ·)

/-- Two programs that differ in changes of registries alone, wherever these come. -/
inductive Differ : List Act → List Act → Prop where
  | nil : Differ [] []
  | left {acts others : List Act} (change : Change) (rest : Differ acts others) :
      Differ (.change change :: acts) others
  | right {acts others : List Act} (change : Change) (rest : Differ acts others) :
      Differ acts (.change change :: others)
  | both {acts others : List Act} (act : Act) (rest : Differ acts others) :
      Differ (act :: acts) (act :: others)

/-- The calls of candidates that a program may come to, over a snapshot. -/
inductive Involved (snapshot : Snapshot) (acts : List Act) : Callable → List Value → Prop where
  | intro {place : Nat} {asked : Call} {candidates : List Candidate} {candidate : Candidate}
      {current : Value} (act : .invoke place asked ∈ acts)
      (known : snapshot.candidates? asked.operation = some candidates)
      (member : candidate ∈ candidates)
      (accepts : candidate.accepts (Value.tags current.tag asked.args) = true) :
      Involved snapshot acts candidate.callable (current :: asked.args)

/-- The callables of two runs do not depend on registries, though each may change them: called on
stores that are alike they come to the same, and leave stores that are alike. -/
def Unswayed (like : Likeness σ) (involved : Callable → List Value → Prop)
    (call other : Callable → List Value → Run (Registry × σ) Value) : Prop :=
  ∀ cells callable args one two, involved callable args → like.Alike cells one two →
    EndsAlike (like.Alike cells) (call callable args one) (other callable args two)

/-- A stream of the one run, and what it is in the other. -/
structure Followed (snapshot : Snapshot) (acts : List Act) (cells : List (Nat × Nat))
    (stream twin : Stream Value) : Prop where
  same : twin = stream.moved twin.cell
  paired : (stream.cell, twin.cell) ∈ cells
  keeps : stream.snapshot = snapshot
  steps : ∀ step ∈ stream.steps, ∀ current candidate, step.choose? current = some candidate →
    Involved snapshot acts candidate.callable (current :: step.args)

theorem Run.editOwn_ends (edit : Edit) (store : Store (Registry × σ)) :
    ∃ outcome changed events, editOwn edit store =
      some (outcome, { store with host := (changed, store.host.2) }.report events) := by
  have read : Run.store store = some (.ok store, store) := rfl
  cases edited : store.host.1.edit edit with
  | error failure =>
      refine ⟨.error failure, store.host.1, [], ?_⟩
      simp only [editOwn, bind_of_ok read, edited, Store.report, List.append_nil]
      rfl
  | ok result =>
      obtain ⟨changed, events⟩ := result
      refine ⟨.ok (), changed, events, ?_⟩
      simp only [editOwn, bind_of_ok read, edited]
      rfl

theorem Change.run_matches (change : Change) (store : Store (Registry × σ)) :
    ∃ outcome after, change.run store = some (outcome, after) ∧ store.Matches after := by
  have shared (made : Edit) : ∃ outcome after, Run.editShared made store = some (outcome, after) ∧
      store.Matches after := by
    obtain ⟨outcome, changed, events, ran⟩ := Run.editShared_ends made store
    exact ⟨outcome, _, ran, rfl, rfl⟩
  cases change with
  | edit made => exact shared made
  | restart config => exact ⟨_, _, rfl, rfl, rfl⟩
  | close guard => exact shared (.remove guard.names)
  | own made =>
      obtain ⟨outcome, changed, events, ran⟩ := Run.editOwn_ends made store
      exact ⟨outcome, _, ran, rfl, rfl⟩

theorem Run.of_takeSnapshot_eq_ok {registry : Registry} {snapshot : Snapshot}
    {store after : Store (Registry × σ)}
    (taken : takeSnapshot registry store = some (.ok snapshot, after)) : after = store := by
  rw [takeSnapshot_apply] at taken
  cases found : registry.clash? with
  | none =>
      rw [found] at taken
      cases taken
      rfl
  | some clash =>
      rw [found] at taken
      cases taken

theorem Stream.of_create_eq_ok {base : Base} {source : Value} {store after : Store (Registry × σ)}
    {stream : Stream Value} (created : create source base store = some (.ok stream, after)) :
    stream = ⟨store.nextCell, stream.snapshot, source, source.tag, []⟩ ∧
      after = (store.report [.streamCreated source.tag]).allocate := by
  have taken (registry : Registry) (made : (Run.takeSnapshot registry >>= fun snapshot =>
      start snapshot source) store = some (.ok stream, after)) :
      stream = ⟨store.nextCell, stream.snapshot, source, source.tag, []⟩ ∧
        after = (store.report [.streamCreated source.tag]).allocate := by
    rcases Run.of_bind_eq_some made with ⟨snapshot, middle, taken, made⟩ | ⟨failure, -, failed⟩
    · rw [Run.of_takeSnapshot_eq_ok taken, start_apply] at made
      cases made
      exact ⟨rfl, rfl⟩
    · cases failed
  cases base with
  | injected => exact taken store.host.1 created
  | shared => exact taken store.shared created

section

variable {like : Likeness σ} {snapshot : Snapshot} {acts others : List Act}
  {cells : List (Nat × Nat)} {stream twin : Stream Value}
  {call other : Callable → List Value → Run (Registry × σ) Value}
  {one two : Store (Registry × σ)}

namespace Followed

theorem mono (followed : Followed snapshot acts cells stream twin) (pair : Nat × Nat) :
    Followed snapshot acts (pair :: cells) stream twin :=
  ⟨followed.same, List.mem_cons_of_mem pair followed.paired, followed.keeps, followed.steps⟩

theorem longer (followed : Followed snapshot acts cells stream twin) {place : Nat} {asked : Call}
    {step : PendingStep Value} {next : Tag} (act : .invoke place asked ∈ acts)
    (planned : stream.snapshot.plan stream.predicted asked.operation asked.args = .ok (step, next))
    (left right : Nat) :
    Followed snapshot acts ((left, right) :: cells) (stream.longer left step next)
      (twin.longer right step next) := by
  constructor
  · rw [followed.same]
    rfl
  · exact List.mem_cons_self
  · exact followed.keeps
  · intro added member current candidate choice
    rcases List.mem_append.mp member with old | new
    · exact followed.steps added old current candidate choice
    · obtain ⟨candidates, known, rfl, -⟩ := Snapshot.plan_eq_ok.mp planned
      cases List.mem_singleton.mp new
      rw [followed.keeps] at known
      have held := List.mem_filter.mp (List.mem_of_find?_eq_some choice)
      have accepts := List.find?_some choice
      exact .intro act known held.1 accepts

theorem invoke_alike (followed : Followed snapshot acts cells stream twin) {place : Nat}
    {asked : Call} (act : .invoke place asked ∈ acts) (alike : like.Alike cells one two) :
    (∃ failure, stream.invoke asked.operation asked.args one = some (.error failure, one) ∧
        twin.invoke asked.operation asked.args two = some (.error failure, two)) ∨
      ∃ longer further pair after later,
        stream.invoke asked.operation asked.args one = some (.ok longer, after) ∧
        twin.invoke asked.operation asked.args two = some (.ok further, later) ∧
        Followed snapshot acts (pair :: cells) longer further ∧
        like.Alike (pair :: cells) after later := by
  have same : twin.snapshot.plan twin.predicted asked.operation asked.args =
      stream.snapshot.plan stream.predicted asked.operation asked.args := by
    rw [followed.same]
    rfl
  cases planned : stream.snapshot.plan stream.predicted asked.operation asked.args with
  | error failure =>
      have also := same.trans planned
      exact .inl ⟨failure, Stream.invoke_of_refused planned one, Stream.invoke_of_refused also two⟩
  | ok plan =>
      obtain ⟨step, next⟩ := plan
      have also := same.trans planned
      exact .inr ⟨_, _, _, _, _, Stream.invoke_of_planned planned one,
        Stream.invoke_of_planned also two, followed.longer act planned _ _,
        like.allocates (like.reports alike _ _)⟩

theorem watched_alike (followed : Followed snapshot acts cells stream twin)
    (unswayed : Unswayed like (Involved snapshot acts) call other)
    (alike : like.Alike cells one two) :
    EndsAlike (like.Alike cells) (stream.watched call one) (twin.watched other two) := by
  have calls : StepsAlike (like.Beside cells) (journaled call) (journaled other) stream.steps := by
    intro step member current candidate choice left right alike
    exact like.journaled_alike alike (unswayed cells _ _ _ _
      (followed.steps step member current candidate choice) alike.1)
  have ends : EndsAlike (like.Beside cells) (stream.result (journaled call) (one.beside []))
      ((stream.moved twin.cell).result (journaled other) (two.beside [])) :=
    Stream.result_alike (like.follows followed.paired) calls ⟨alike, rfl⟩
  rw [followed.same, Stream.watched, Stream.watched]
  generalize stream.result (journaled call) (one.beside []) = left at ends ⊢
  generalize (stream.moved twin.cell).result (journaled other) (two.beside []) = right at ends ⊢
  cases ends with
  | deep => exact .deep
  | ended alike =>
      simp only [Option.map_some, alike.2]
      exact .ended alike.1

end Followed

theorem forall₂_getElem? {streams twins : List (Stream Value)}
    {Related : Stream Value → Stream Value → Prop} (related : List.Forall₂ Related streams twins)
    (place : Nat) : Option.Rel Related streams[place]? twins[place]? := by
  induction related generalizing place with
  | nil => exact .none
  | cons head _ ih =>
      cases place with
      | zero => simpa using Option.Rel.some head
      | succ place => simpa using ih place

theorem play_eq (unswayed : Unswayed like (Involved snapshot acts) call other)
    {streams twins : List (Stream Value)} {rest later : List Act} (within : rest ⊆ acts)
    (differ : Differ rest later)
    (followed : List.Forall₂ (Followed snapshot acts cells) streams twins)
    (alike : like.Alike cells one two) :
    play call streams one rest = play other twins two later := by
  -- The runs are compared where they next do the same; a change that only one of them makes keeps
  -- the stores alike and is passed over there.
  induction differ generalizing cells streams twins one two with
  | nil => rfl
  | left change rest ih =>
      obtain ⟨outcome, after, ran, same⟩ := change.run_matches one
      rw [play, ran, Option.bind_some]
      exact ih (List.subset_of_cons_subset within) followed (like.blind alike same (.refl two))
  | right change rest ih =>
      obtain ⟨outcome, after, ran, same⟩ := change.run_matches two
      rw [play.eq_2 other, ran, Option.bind_some]
      exact ih within followed (like.blind alike (.refl one) same)
  | both act rest ih =>
      have onward := List.subset_of_cons_subset within
      cases act with
      | change change =>
          obtain ⟨outcome, after, ran, same⟩ := change.run_matches one
          obtain ⟨also, beyond, further, twice⟩ := change.run_matches two
          rw [play, play.eq_2 other, ran, further, Option.bind_some, Option.bind_some]
          exact ih onward followed (like.blind alike same twice)
      | invoke place asked =>
          have act := within List.mem_cons_self
          have there := forall₂_getElem? followed place
          rw [play, play.eq_3 other]
          generalize streams[place]? = stream at there ⊢
          generalize twins[place]? = twin at there ⊢
          cases there with
          | none => simp only [ih onward followed alike]
          | some here =>
              rcases here.invoke_alike act alike with ⟨failure, refused, also⟩ |
                ⟨longer, further, pair, after, beyond, accepted, also, grown, alike⟩
              · simp only [refused, also]
                rw [ih onward followed alike]
              · have appended := List.rel_append (followed.imp fun _ _ old => old.mono pair)
                  (.cons grown .nil)
                have reply : Reply.accepted longer.predicted longer.steps =
                    .accepted further.predicted further.steps := by
                  rw [grown.same]
                  rfl
                simp only [accepted, also]
                rw [ih onward appended alike, reply]
      | result place =>
          have there := forall₂_getElem? followed place
          rw [play, play.eq_4 other]
          generalize streams[place]? = stream at there ⊢
          generalize twins[place]? = twin at there ⊢
          cases there with
          | none => simp only [ih onward followed alike]
          | some here =>
              rename_i stream twin
              have ends := here.watched_alike unswayed alike
              simp only
              generalize stream.watched call one = left at ends ⊢
              generalize twin.watched other two = right at ends ⊢
              cases ends with
              | deep => rw [Option.bind_none, Option.bind_none]
              | ended alike => simp only [Option.bind_some, ih onward followed alike]

end

/-- Streams are isolated from registries. A stream is created from a registry, and after that two
runs make the same calls and ask for the same results, while registries change in either run in any
way and at any time, be it from within the callables. As long as what the callables return does not
depend on registries, all replies are the same. -/
theorem snapshot_isolation {like : Likeness σ} {base : Base} {source : Value} {stream : Stream Value}
    {store after : Store (Registry × σ)} (alike : like.Alike [] store store)
    (created : Stream.create source base store = some (.ok stream, after))
    {acts others : List Act} (differ : Differ acts others)
    {call other : Callable → List Value → Run (Registry × σ) Value}
    (unswayed : Unswayed like (Involved stream.snapshot acts) call other) :
    play call [stream] after acts = play other [stream] after others := by
  obtain ⟨begun, allocated⟩ := Stream.of_create_eq_ok created
  have both := like.allocates
    (like.reports alike [.streamCreated source.tag] [.streamCreated source.tag])
  rw [← allocated] at both
  refine play_eq unswayed (List.Subset.refl acts) differ ?_ both
  refine .cons ⟨rfl, ?_, rfl, ?_⟩ .nil
  · rw [begun]
    exact List.mem_cons_self
  · intro step member
    rw [begun] at member
    cases member

end

namespace Isolated

def host : Host (Registry × Unit) := fun _ _ =>
  .edit .clear fun _ => .write (.empty, ()) (.answer (.int 2))

def quiet : Host (Registry × Unit) := fun _ _ => .answer (.int 2)

def registry : Registry :=
  Registry.empty.push ⟨"size", [⟨.list, [], .number⟩], .custom 0 "measure"⟩

def store : Store (Registry × Unit) := .new (registry, ())

def source : Value := .list [.null, .null]

def candidate : Candidate := ⟨"size", ⟨.list, [], .number⟩, .custom 0 "measure"⟩

def stream : Stream Value := ⟨0, ⟨registry.candidates⟩, source, .list, []⟩

def acts : List Act :=
  [.invoke 0 ⟨"size", []⟩, .change (.own .clear), .invoke 0 ⟨"size", []⟩, .result 1,
    .change (.restart {}), .result 2]

def others : List Act :=
  [.change (.close ⟨["then"]⟩), .invoke 0 ⟨"size", []⟩, .invoke 0 ⟨"size", []⟩, .result 1, .result 2]

theorem differ : Differ acts others :=
  .right _ (.both _ (.left _ (.both _ (.both _ (.left _ (.both _ .nil))))))

theorem unswayed :
    Unswayed Likeness.exact (Involved stream.snapshot acts) (host.call 1) (quiet.call 1) := by
  intro cells callable args one two involved alike
  cases involved with
  | intro act known member accepts =>
      rename_i place asked candidates candidate current
      have size : asked = ⟨"size", []⟩ := by
        simp [acts] at act
        exact act.2
      have held : stream.snapshot.candidates? "size" = some [Isolated.candidate] := rfl
      rw [size, held] at known
      cases known
      cases List.mem_singleton.mp member
      exact .ended ⟨⟨alike.1.results, rfl⟩, alike.2⟩

end Isolated

theorem snapshot_isolation_changed :
    Likeness.exact.Alike [] Isolated.store Isolated.store ∧
      ∃ after, Stream.create Isolated.source .injected Isolated.store =
        some (.ok Isolated.stream, after) ∧ Differ Isolated.acts Isolated.others ∧
      Unswayed Likeness.exact (Involved Isolated.stream.snapshot Isolated.acts)
        (Isolated.host.call 1) (Isolated.quiet.call 1) ∧
      play (Isolated.host.call 1) [Isolated.stream] after Isolated.acts =
        play (Isolated.quiet.call 1) [Isolated.stream] after Isolated.others := by
  have alike : Likeness.exact.Alike [] Isolated.store Isolated.store := ⟨.refl _, by simp⟩
  have created : Stream.create Isolated.source .injected Isolated.store =
      some (.ok Isolated.stream, _) := rfl
  exact ⟨alike, _, created, Isolated.differ, Isolated.unswayed,
    snapshot_isolation alike created Isolated.differ Isolated.unswayed⟩

end LazyDispatch
