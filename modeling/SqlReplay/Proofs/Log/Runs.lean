import SqlReplay.Log.Session
import SqlReplay.Proofs.Log.Line

/-! What lines tell of the runs they belong to. Runs are nested blocks with calls in them; which
blocks are open around a call is known from the program, and compared with the id that stands in the
line of the call and with the one that is active after a block. -/

namespace SqlReplay.Log

def idKey : Text := "correlation_id"

namespace Entry

theorem lookup_ownFields (e : Entry) (time : Text) (active : Option Text) :
    (e.ownFields time active).lookup idKey = e.correlationId? active := by
  have standard : (e.standardFields time).lookup idKey = none := rfl
  rw [ownFields, List.lookup_append, standard, Option.none_or]
  cases e.correlationId? active <;> rfl

/-- A line tells the id of its entry, or without one what the event has under that key. -/
theorem lookup_fields (e : Entry) (time : Text) (active : Option Text) :
    (e.fields time active).lookup idKey =
      (e.correlationId? active).or ((e.event.fields.getD []).lookup idKey) := by
  have joined := FieldsOf.lookup_foldl_setDefault idKey (e.ownFields time active)
    (e.event.fields.getD [])
  rw [lookup_ownFields] at joined
  rw [← joined, fields, ← ownFields]
  cases e.event.failure with
  | none => rfl
  | some failure => exact FieldsOf.lookup_set_of_ne (by decide) _ _

end Entry

/-- A program of calls in nested blocks. What is raised in a block ends the block, and the one
around it too unless it is caught there. -/
inductive Program
  | done
  | raise
  | call (here : Surroundings) (level : Level) (logger message : Text) (fields : Fields)
    (next : Program)
  | block (here : Surroundings) (id : Option Text) (body : Program) (caught : Bool)
    (next : Program)

/-- A call with the ids of the blocks around it, the innermost first, the fields that were passed,
the object that is written for it if any, and what happened to the console and to the files. -/
structure Call where
  within : List Text
  passed : Fields
  written : Option Fields
  console : Text
  before : FileTree
  after : FileTree

/-- An id that can be told: it is not empty, and not what stands for none. -/
abbrev Tellable (id : Text) : Prop := id ≠ [] ∧ id ≠ noId

/-- What can be watched: a call, and which id is active after a block has been left. -/
inductive Moment
  | called (call : Call)
  | left (within : List Text) (active : Option Text)

/-- The object of an entry's line, unless its time has no words or it is nested too deep. -/
def Entry.object? (host : Host) (e : Entry) (active : Option Text) : Option Fields :=
  match e.time.text with
  | .ok time =>
    if (JsonOf.obj (e.fields time active)).depth ≤ host.writeDepth then
      some (e.fields time active)
    else none
  | .error _ => none

def Session.written? (here : Surroundings) (s : Session) (event : Event) : Option Fields :=
  s.setup.bind fun setup =>
    if setup.threshold ≤ event.level then (s.entry here event).object? here.host s.currentId
    else none

/-- The id that is due in a block: its own, or where it has none the next one that is made up. -/
def dueId (here : Surroundings) (s : Session) (id : Option Text) : Text :=
  (id.filter (· ≠ [])).getD (here.freshId (s.generated + 1))

/-- What was watched of a program, the session it leaves, and whether something was raised. -/
structure Outcome where
  moments : List Moment
  session : Session
  raised : Bool

/-- What a program does in a session, inside of some blocks. A call with a reserved name raises, and
a block is closed however it is left. -/
def Program.perform (within : List Text) : Program → Session → Outcome
  | done, s => ⟨[], s, false⟩
  | raise, s => ⟨[], s, true⟩
  | call here level logger message fields next, s =>
    match Event.withFields level logger message fields with
    | .error _ => ⟨[], s, true⟩
    | .ok event =>
      let emitted := s.emit here [event]
      let later := next.perform within emitted.1
      { later with moments := .called ⟨within, fields, s.written? here event, emitted.2.console,
          s.files, emitted.1.files⟩ :: later.moments }
  | block here id body caught next, s =>
    let inside := body.perform (dueId here s id :: within) (s.enter here id).1
    let after := inside.session.leave
    let moments := inside.moments ++ [.left within after.currentId]
    if inside.raised && !caught then ⟨moments, after, true⟩
    else
      let later := next.perform within after
      { later with moments := moments ++ later.moments }

def lineOf (written : Option Fields) : Text :=
  (written.map fun fields => Json.encode (.obj fields) ++ ['\n']).getD []

theorem Entry.of_object? {host : Host} {e : Entry} {active : Option Text} {fields : Fields}
    (written : e.object? host active = some fields) : ∃ time, fields = e.fields time active := by
  unfold object? at written
  split at written
  next time _ =>
    split at written
    next => exact ⟨time, (Option.some.inj written).symm⟩
    next => contradiction
  next => contradiction

theorem Entry.line_eq (host : Host) (e : Entry) (active : Option Text) :
    (e.line host .structured active).toOption =
      (e.object? host active).map fun fields => Json.encode (.obj fields) := by
  unfold Entry.object?
  cases timed : e.time.text with
  | error fault =>
    have line : e.line host .structured active = .error (.time fault) := by
      rw [Entry.line, Entry.lineWith, Entry.timeText, timed]
      rfl
    rw [line]
    rfl
  | ok time =>
    have line : e.line host .structured active = e.structured host time active :=
      Entry.lineWith_structured timed rfl active
    rw [line, Entry.structured]
    split
    next fits => simp [fits, Except.toOption]
    next deep => simp [deep, Except.toOption]

namespace Session

variable {here : Surroundings} {s : Session} {setup : Setup} {event : Event}

theorem lines_structured (host : Host) (active : Option Text) (e : Entry) :
    lines host .structured active [e] = lineOf (e.object? host active) := by
  rw [lines, List.filterMap_cons, Entry.line_eq]
  cases e.object? host active with
  | none => rfl
  | some fields => simp [lineOf]

theorem lines_heard (here : Surroundings) (installed : s.setup = some setup) (event : Event) :
    lines here.host .structured s.currentId
      (([event].filter (setup.threshold ≤ ·.level)).map (s.entry here)) =
      lineOf (s.written? here event) := by
  rw [written?, installed, Option.bind_some]
  by_cases heard : setup.threshold ≤ event.level
  · rw [List.filter_cons_of_pos (by simpa using heard), if_pos heard]
    exact lines_structured here.host s.currentId (s.entry here event)
  · rw [List.filter_cons_of_neg (by simpa using heard), if_neg heard]
    rfl

/-- With structured lines, the console and the file are given the same text. -/
theorem emit_structured (here : Surroundings) (installed : s.setup = some setup)
    (structured : setup.style = .structured) (event : Event) :
    (s.emit here [event]).2.console = lineOf (s.written? here event) ∧
      (s.emit here [event]).1.files = setup.file.elim s.files fun path =>
        s.files.append path (Utf8.encode (lineOf (s.written? here event))) := by
  have line := lines_heard here installed event
  unfold emit
  rw [installed]
  simp only [structured, line, true_and]
  cases setup.file <;> rfl

/-- An entry is asked for its own stamp first, which is the active id, or what stands for none. -/
theorem id?_ofActive (active : Option Text) :
    ((Stamp.ofActive active).id? <|> active.map .str) = some (.str (active.getD noId)) := by
  cases active with
  | none => rfl
  | some id => cases id <;> rfl

theorem correlationId?_entry (here : Surroundings) (s : Session) (event : Event) :
    (s.entry here event).correlationId? s.currentId =
      (s.currentId.filter fun id => Tellable id).map .str := by
  have stamp : (s.entry here event).stamp = .ofActive s.currentId := rfl
  rw [Entry.correlationId?, stamp, id?_ofActive]
  cases s.currentId with
  | none => rfl
  | some id =>
    by_cases tellable : Tellable id
    · rw [Option.filter_some_pos (by simpa using tellable),
        Option.filter_some_pos (by simpa using tellable)]
      rfl
    · rw [Option.filter_some_neg (by simpa using tellable),
        Option.filter_some_neg (by simpa using tellable)]
      rfl

theorem object?_of_written {fields : Fields} (written : s.written? here event = some fields) :
    (s.entry here event).object? here.host s.currentId = some fields := by
  obtain ⟨setup, -, heard⟩ := Option.bind_eq_some_iff.1 written
  split at heard
  next => exact heard
  next => contradiction

theorem lookup_written {fields : Fields} (written : s.written? here event = some fields) :
    fields.lookup idKey = ((s.currentId.filter fun id => Tellable id).map .str).or
      ((event.fields.getD []).lookup idKey) := by
  obtain ⟨time, rfl⟩ := Entry.of_object? (object?_of_written written)
  rw [Entry.lookup_fields, correlationId?_entry]
  rfl

@[simp] theorem setup_enter (here : Surroundings) (s : Session) (id : Option Text) :
    (s.enter here id).1.setup = s.setup := by
  unfold enter; split <;> rfl

/-- A run that is opened has the id that is due, and that is the one it is told. -/
theorem scopes_enter (here : Surroundings) (s : Session) (id : Option Text) :
    (s.enter here id).1.scopes = dueId here s id :: s.scopes ∧
      (s.enter here id).2 = dueId here s id := by
  cases id with
  | none => exact ⟨rfl, rfl⟩
  | some id => cases id <;> exact ⟨rfl, rfl⟩

@[simp] theorem setup_emit (here : Surroundings) (s : Session) (events : List Event) :
    (s.emit here events).1.setup = s.setup := by
  unfold emit; split <;> rfl

theorem configure_inv {after : Session} {w : Wish} {heard : Heard}
    (configured : s.configure here w = .ok (after, heard)) : ∃ setup,
      after.setup = some setup ∧ setup.style = .named w.style ∧ after.scopes = s.scopes := by
  unfold configure at configured
  split at configured
  next => contradiction
  next setup asked =>
    obtain ⟨rfl, -⟩ := Prod.mk.inj (Except.ok.inj configured)
    refine ⟨setup, rfl, ?_, rfl⟩
    unfold Setup.ofWish at asked
    split at asked
    next => exact congrArg Setup.style (Except.ok.inj asked).symm
    next => contradiction

end Session

/-- The id of the innermost block around a call, as a line has to tell it. -/
def Call.due (c : Call) : Option Json := c.within.head?.map .str

/-- The id that a line does tell: the one around the call if it can be told, or else one that is
passed to the call. -/
def Call.told (c : Call) : Option Json :=
  ((c.within.head?.filter fun id => Tellable id).map .str).or (c.passed.lookup idKey)

/-- The line of a call, on the console and in the file, tells a certain id or none; after a block
the id of the one around is active again. -/
def Moment.Tells (id? : Call → Option Json) (file : Option FilePath) : Moment → Prop
  | called c => c.console = lineOf c.written ∧
      c.after = file.elim c.before (fun path => c.before.append path (Utf8.encode c.console)) ∧
      ∀ fields, c.written = some fields → fields.lookup idKey = id? c
  | left within active => active = within.head?

/-- The id around a call can be told, or is passed to it; outside of blocks none is passed. -/
def Call.Clear (c : Call) : Prop :=
  match c.within.head? with
  | some id => Tellable id ∨ c.passed.lookup idKey = some (.str id)
  | none => c.passed.lookup idKey = none

theorem Call.told_eq_due_iff (c : Call) : c.told = c.due ↔ c.Clear := by
  unfold told due Clear
  cases c.within.head? with
  | none => rfl
  | some id =>
    by_cases tellable : Tellable id
    · rw [Option.filter_some_pos (by simpa using tellable)]
      exact iff_of_true rfl (.inl tellable)
    · rw [Option.filter_some_neg (by simpa using tellable)]
      exact (or_iff_right tellable).symm

theorem Moment.tells_due_iff {file : Option FilePath} {m : Moment} (law : m.Tells Call.told file) :
    m.Tells Call.due file ↔ ∀ c, m = .called c → c.written ≠ none → c.Clear := by
  cases m with
  | left within active => exact iff_of_true law nofun
  | called c =>
    obtain ⟨console, files, told⟩ := law
    constructor
    · rintro ⟨-, -, due⟩ _ ⟨⟩ written
      obtain ⟨fields, object⟩ := Option.ne_none_iff_exists'.1 written
      exact c.told_eq_due_iff.1 ((told fields object).symm.trans (due fields object))
    · intro clear
      refine ⟨console, files, fun fields object => ?_⟩
      rw [told fields object]
      exact c.told_eq_due_iff.2 (clear c rfl (by simp [object]))

theorem fields_of_withFields {level : Level} {logger message : Text} {fields : Fields}
    {event : Event} (made : Event.withFields level logger message fields = .ok event) :
    event.fields = some fields := by
  unfold Event.withFields at made
  split at made
  next => contradiction
  next => rw [← Except.ok.inj made]

theorem tells_emit (here : Surroundings) {s : Session} {setup : Setup} {event : Event}
    {fields : Fields} (installed : s.setup = some setup) (structured : setup.style = .structured)
    (passed : event.fields = some fields) :
    (Moment.called ⟨s.scopes, fields, s.written? here event, (s.emit here [event]).2.console,
      s.files, (s.emit here [event]).1.files⟩).Tells Call.told setup.file := by
  obtain ⟨console, files⟩ := Session.emit_structured here installed structured event
  refine ⟨console, by rw [files, console], fun written object => ?_⟩
  rw [Session.lookup_written object, passed]
  rfl

/-- A whole program: each block gives back the blocks around it, and each call tells its id. -/
theorem Program.perform_tells (p : Program) {s : Session} {setup : Setup}
    (installed : s.setup = some setup) (structured : setup.style = .structured) :
    (∀ m ∈ (p.perform s.scopes s).moments, m.Tells Call.told setup.file) ∧
      (p.perform s.scopes s).session.setup = some setup ∧
      (p.perform s.scopes s).session.scopes = s.scopes := by
  -- What carries the induction: the ids around a program are those that the session has open.
  induction p generalizing s with
  | done => exact ⟨nofun, installed, rfl⟩
  | raise => exact ⟨nofun, installed, rfl⟩
  | call here level logger message fields next ih =>
    rw [perform]
    cases made : Event.withFields level logger message fields with
    | error fault => exact ⟨nofun, installed, rfl⟩
    | ok event =>
      have line := tells_emit here installed structured (fields_of_withFields made)
      have later := ih (s := (s.emit here [event]).1) (by rw [Session.setup_emit, installed])
      rw [Session.scopes_emit] at later
      exact ⟨List.forall_mem_cons.2 ⟨line, later.1⟩, later.2⟩
  | block here id body caught next body_ih next_ih =>
    have inside := body_ih (s := (s.enter here id).1) (by rw [Session.setup_enter, installed])
    rw [(s.scopes_enter here id).1] at inside
    obtain ⟨within, kept, opened⟩ := inside
    rw [perform]
    generalize body.perform (dueId here s id :: s.scopes) (s.enter here id).1 = done
      at within kept opened
    have closed : done.session.leave.scopes = s.scopes := congrArg List.tail opened
    have left : (Moment.left s.scopes done.session.leave.currentId).Tells Call.told setup.file :=
      congrArg List.head? closed
    have moments : ∀ m ∈ done.moments ++ [.left s.scopes done.session.leave.currentId],
        m.Tells Call.told setup.file :=
      List.forall_mem_append.2 ⟨within, List.forall_mem_singleton.2 left⟩
    dsimp only
    split
    next => exact ⟨moments, kept, closed⟩
    next =>
      have later := next_ih (s := done.session.leave) kept
      rw [closed] at later
      exact ⟨List.forall_mem_append.2 ⟨moments, later.1⟩, later.2⟩

/-- After a set-up for structured lines, everything that can be watched of a program is as it is
due, unless a line is written for a call in a block whose id cannot be told, or for one outside of
blocks to which an id is passed. -/
theorem Program.perform_due_iff {here : Surroundings} {before s : Session} {w : Wish}
    {heard : Heard} (configured : before.configure here w = .ok (s, heard))
    (structured : w.style = Style.structured.text) (outside : before.scopes = []) (p : Program) :
    (∀ m ∈ (p.perform [] s).moments, m.Tells Call.due (s.setup.bind Setup.file)) ↔
      ∀ c, .called c ∈ (p.perform [] s).moments → c.written ≠ none → c.Clear := by
  obtain ⟨setup, installed, style, scopes⟩ := Session.configure_inv configured
  have named : setup.style = .structured := by rw [style, structured]; rfl
  rw [outside] at scopes
  have law := (p.perform_tells installed named).1
  rw [scopes] at law
  rw [installed, Option.bind_some]
  constructor
  · intro due c member
    exact (Moment.tells_due_iff (law _ member)).1 (due _ member) c rfl
  · intro clear m member
    refine (Moment.tells_due_iff (law m member)).2 ?_
    rintro c rfl
    exact clear c member

/-- Every block has an id that can be told, and no id is passed to calls outside of blocks. -/
def Program.Tidy (outside : Bool) : Program → Prop
  | done | raise => True
  | call _ _ _ _ fields next =>
    (outside = true → fields.lookup idKey = none) ∧ next.Tidy outside
  | block here id body _ next =>
    (∀ t, id = some t → t ≠ noId) ∧ (∀ n, Tellable (here.freshId n)) ∧ body.Tidy false ∧
      next.Tidy outside

theorem tellable_dueId {here : Surroundings} {id : Option Text}
    (named : ∀ t, id = some t → t ≠ noId) (fresh : ∀ n, Tellable (here.freshId n)) (s : Session) :
    Tellable (dueId here s id) := by
  cases own : id.filter (· ≠ []) with
  | none =>
    rw [dueId, own]
    exact fresh _
  | some t =>
    obtain ⟨given, filled⟩ := Option.filter_eq_some_iff.1 own
    rw [dueId, own]
    exact ⟨of_decide_eq_true filled, named t given⟩

theorem Program.clear_of_tidy {p : Program} {outside : Bool} (tidy : p.Tidy outside)
    {within : List Text} (first : ∀ id, within.head? = some id → Tellable id)
    (none : within = [] → outside = true) (s : Session) :
    ∀ c, .called c ∈ (p.perform within s).moments → c.Clear := by
  induction p generalizing outside within s with
  | done => exact nofun
  | raise => exact nofun
  | call here level logger message fields next ih =>
    obtain ⟨passed, tidy⟩ := tidy
    rw [perform]
    cases Event.withFields level logger message fields with
    | error fault => exact nofun
    | ok event =>
      intro c member
      obtain same | later := List.mem_cons.1 member
      · obtain rfl := Moment.called.inj same
        cases within with
        | nil => exact passed (none rfl)
        | cons id within => exact .inl (first id rfl)
      · exact ih tidy first none _ c later
  | block here id body caught next body_ih next_ih =>
    obtain ⟨named, fresh, inside, after⟩ := tidy
    have around : dueId here s id :: within = [] → false = true := nofun
    have innermost : ∀ t, (dueId here s id :: within).head? = some t → Tellable t := by
      rintro _ ⟨⟩
      exact tellable_dueId named fresh s
    have inner := body_ih inside innermost around (s.enter here id).1
    rw [perform]
    generalize body.perform (dueId here s id :: within) (s.enter here id).1 = done at inner
    have clear : ∀ c, .called c ∈ done.moments ++ [.left within done.session.leave.currentId] →
        c.Clear := by
      intro c member
      obtain inBlock | atEnd := List.mem_append.1 member
      · exact inner c inBlock
      · cases List.mem_singleton.1 atEnd
    dsimp only
    split
    next => exact clear
    next =>
      intro c member
      obtain before | later := List.mem_append.1 member
      · exact clear c before
      · exact next_ih after first none _ c later

/-- At the beginning of time, where made-up ids are numbers. -/
def origin : Surroundings := ⟨.roomy, ⟨0, 0⟩, ⟨"mod", some "func".toList, 0⟩, Text.ofNat⟩

theorem tellable_origin (n : Nat) : Tellable (origin.freshId n) := by
  refine ⟨Json.ofNat_ne_nil n, fun same => ?_⟩
  have dash : Text.ofNat n = noId := same
  have digit : '-' ∈ Text.ofNat n := dash ▸ List.mem_cons_self
  exact absurd (Json.isDigit_of_mem_ofNat digit) (by decide)

def listening : Session :=
  (({} : Session).install origin ⟨.debug, .structured, none, 0⟩ "DEBUG" "structured").1

theorem configure_listening : ∃ heard,
    ({} : Session).configure origin ⟨"debug", "structured", none, 0⟩ = .ok (listening, heard) :=
  ⟨_, rfl⟩

/-- A call in a block that is passed another id, one in a block within it where something is raised,
and one after both. -/
def nestedBlocks : Program :=
  .block origin (some "outer".toList)
    (.call origin .info rootLogger "started" [("correlation_id", .str "inner")]
      (.block origin none (.call origin .debug rootLogger "detail" [("step", .int 1)] .raise) false
        .done))
    true
    (.call origin .warning rootLogger "finished" [] .done)

/-- The messages of the lines that are written, each with the id it tells. -/
def toldIn (moments : List Moment) : List (Option Json × Option Json) :=
  moments.filterMap fun
    | .called c => c.written.map fun fields => (fields.lookup "message".toList, fields.lookup idKey)
    | .left .. => none

theorem nestedBlocks_tell : nestedBlocks.Tidy true ∧
    (∀ m ∈ (nestedBlocks.perform [] listening).moments,
      m.Tells Call.due (listening.setup.bind Setup.file)) ∧
    toldIn (nestedBlocks.perform [] listening).moments =
      [(some (.str "started"), some (.str "outer")), (some (.str "detail"), some (.str "1")),
        (some (.str "finished"), none)] := by
  obtain ⟨_, configured⟩ := configure_listening
  have tidy : nestedBlocks.Tidy true := by
    have outer : ∀ t, some "outer".toList = some t → t ≠ noId := by
      rintro _ ⟨⟩
      decide
    simp only [nestedBlocks, Program.Tidy]
    exact ⟨outer, tellable_origin, ⟨nofun, nofun, tellable_origin, ⟨nofun, trivial⟩, trivial⟩,
      fun _ => rfl, trivial⟩
  have none : ∀ id, ([] : List Text).head? = some id → Tellable id := nofun
  have tell := (nestedBlocks.perform_due_iff configured rfl rfl).2 fun c member _ =>
    Program.clear_of_tidy tidy none (fun _ => rfl) listening c member
  exact ⟨tidy, tell, rfl⟩

def strayCall : Program :=
  .call origin .info rootLogger "note" [("correlation_id", .str "run-7")] .done

def dashedBlock : Program :=
  .block origin (some noId) (.call origin .info rootLogger "note" [] .done) false .done

theorem stray_and_dashed_mistold :
    (toldIn (strayCall.perform [] listening).moments =
        [(some (.str "note"), some (.str "run-7"))] ∧
      ¬ ∀ m ∈ (strayCall.perform [] listening).moments,
        m.Tells Call.due (listening.setup.bind Setup.file)) ∧
    toldIn (dashedBlock.perform [] listening).moments = [(some (.str "note"), none)] ∧
      ¬ ∀ m ∈ (dashedBlock.perform [] listening).moments,
        m.Tells Call.due (listening.setup.bind Setup.file) := by
  refine ⟨⟨rfl, fun due => ?_⟩, rfl, fun due => ?_⟩
  · obtain ⟨-, -, told⟩ := due _ List.mem_cons_self
    have passed : some (JsonOf.str "run-7".toList) = none := told _ rfl
    contradiction
  · obtain ⟨-, -, told⟩ := due _ List.mem_cons_self
    have untold : none = some (JsonOf.str noId) := told _ rfl
    contradiction

end SqlReplay.Log
