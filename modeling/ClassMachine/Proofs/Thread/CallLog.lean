import ClassMachine.Proofs.Thread.Footprint

set_option autoImplicit false

/-!
# The log of calls and returns

An instruction pushes or removes at most one frame, and the log is told in the same breath. What
fails before that has done neither, although a call may have taken its arguments already. What fails
after it has done both, as a return does whose value finds no room in the next frame. So the log,
read from its first event on as pushes and pops, gives the methods of the frames at every moment.
-/

namespace ClassMachine

open Outcome

namespace Event

/-- It tells of a frame that was pushed or removed. -/
def marksFrame : Event → Bool
  | .entering .. | .leaving .. => true
  | _ => false

/-- What the event makes of the names of the methods that run, the innermost one first. A method is
entered at the depth that it then has, and only the innermost method is left. -/
def replay (names : List String) : Event → Option (List String)
  | .entering method depth => if depth = names.length + 1 then some (method :: names) else none
  | .leaving method =>
    match names with
    | [] => none
    | innermost :: callers => if method = innermost then some callers else none
  | _ => some names

theorem replay_of_not_marksFrame {event : Event} (quiet : event.marksFrame = false)
    (names : List String) : replay names event = some names := by
  cases event with
  | entering method depth | leaving method => cases quiet
  | _ => rfl

end Event

namespace CallLog

/-- The methods that run after these events, if they ran before. -/
def replay (names : List String) (events : List Event) : Option (List String) :=
  events.foldlM Event.replay names

theorem replay_nil (names : List String) : replay names [] = some names := rfl

theorem replay_cons (names : List String) (event : Event) (events : List Event) :
    replay names (event :: events) =
      (event.replay names).bind fun between => replay between events :=
  List.foldlM_cons

theorem replay_append (names : List String) (first second : List Event) :
    replay names (first ++ second) =
      (replay names first).bind fun between => replay between second :=
  List.foldlM_append

theorem replay_filter (names : List String) (events : List Event) :
    replay names (events.filter Event.marksFrame) = replay names events := by
  induction events generalizing names with
  | nil => rfl
  | cons event events inductionHypothesis =>
    cases marked : event.marksFrame with
    | true =>
      rw [List.filter_cons_of_pos marked, replay_cons, replay_cons]
      simp only [inductionHypothesis]
    | false =>
      rw [List.filter_cons_of_neg (by simp [marked]), inductionHypothesis, replay_cons,
        Event.replay_of_not_marksFrame marked, Option.bind_some]

/-- Each method that is entered is left again, and between that only methods which it called are
entered and left. The depth is that of the frames beneath. -/
inductive Balanced : Nat → List Event → Prop where
  | nil (depth : Nat) : Balanced depth []
  | quiet {depth : Nat} {event : Event} {rest : List Event} (unmarked : event.marksFrame = false)
      (others : Balanced depth rest) : Balanced depth (event :: rest)
  | call {depth : Nat} {inner rest : List Event} (method : String)
      (within : Balanced (depth + 1) inner) (others : Balanced depth rest) :
      Balanced depth (.entering method (depth + 1) :: inner ++ .leaving method :: rest)

/-- The methods with these names are left one after the other, the innermost one first, and what
happens before, between and after that is balanced. -/
def Closes : List String → List Event → Prop
  | [], events => Balanced 0 events
  | method :: callers, events => ∃ inner rest, events = inner ++ .leaving method :: rest ∧
      Balanced (callers.length + 1) inner ∧ Closes callers rest

theorem Closes.prepend (front : List Event) {names : List String} {events : List Event}
    (balanced : ∀ rest, Balanced names.length rest → Balanced names.length (front ++ rest))
    (closes : Closes names events) : Closes names (front ++ events) := by
  cases names with
  | nil => exact balanced events closes
  | cons method callers =>
    obtain ⟨inner, rest, rfl, within, others⟩ := closes
    exact ⟨front ++ inner, rest, by simp, balanced inner within, others⟩

theorem closes_of_replay {names : List String} {events : List Event}
    (replayed : replay names events = some []) : Closes names events := by
  induction events generalizing names with
  | nil =>
    cases replayed
    exact .nil 0
  | cons event events inductionHypothesis =>
    rw [replay_cons, Option.bind_eq_some_iff] at replayed
    obtain ⟨between, first, others⟩ := replayed
    have closes := inductionHypothesis others
    cases event with
    | entering method depth =>
      obtain ⟨rfl, rfl⟩ : depth = names.length + 1 ∧ method :: names = between := by
        simpa [Event.replay] using first
      obtain ⟨inner, rest, rfl, within, callers⟩ := closes
      have called := callers.prepend
        (.entering method (names.length + 1) :: inner ++ [.leaving method])
        fun rest balanced => by simpa using Balanced.call method within balanced
      simpa using called
    | leaving method =>
      cases names with
      | nil => cases first
      | cons innermost callers =>
        obtain ⟨rfl, rfl⟩ : method = innermost ∧ callers = between := by
          simpa [Event.replay] using first
        exact ⟨[], events, rfl, .nil _, closes⟩
    | _ =>
      cases first
      exact closes.prepend [_] fun rest balanced => .quiet rfl balanced

end CallLog

namespace Thread

/-- The names of the methods that run, the innermost one first. -/
def methodNames (thread : Thread) : List String :=
  thread.frames.map fun frame => thread.classFile.methodName frame.methodIndex

theorem length_methodNames (thread : Thread) : thread.methodNames.length = thread.depth :=
  List.length_map _

/-- The same methods run, and the log was not told of any that was entered or left. -/
structure Quiet (before after : Thread) : Prop where
  classFile_eq : after.classFile = before.classFile
  methodNames_eq : after.methodNames = before.methodNames
  told : ∃ told, after.events = before.events ++ told ∧ told.filter Event.marksFrame = []

instance : Chain Quiet where
  refl thread := ⟨rfl, rfl, [], by simp⟩
  trans first second := by
    obtain ⟨told, events_eq, silent⟩ := first.told
    obtain ⟨later, later_eq, later_silent⟩ := second.told
    refine ⟨second.classFile_eq.trans first.classFile_eq,
      second.methodNames_eq.trans first.methodNames_eq, told ++ later, ?_, ?_⟩
    · rw [later_eq, events_eq, List.append_assoc]
    · rw [List.filter_append, silent, later_silent, List.append_nil]

/-- The names of the methods that run before and after, and what the log is told of it: at most one
method is entered or left. The depth of one that is entered is how many run after that. -/
inductive Marks : List String → List String → List Event → Prop where
  | same (names : List String) : Marks names names []
  | entered (method : String) (callers : List String) :
    Marks callers (method :: callers) [.entering method (callers.length + 1)]
  | left (method : String) (callers : List String) :
    Marks (method :: callers) callers [.leaving method]

theorem Marks.eq_of_length_eq {names after : List String} {marks : List Event}
    (marked : Marks names after marks) (length_eq : after.length = names.length) :
    after = names ∧ marks = [] := by
  cases marked with
  | same => exact ⟨rfl, rfl⟩
  | entered method | left method =>
    rw [List.length_cons] at length_eq
    omega

theorem Marks.replay_eq {names after : List String} {marks : List Event}
    (marked : Marks names after marks) : CallLog.replay names marks = some after := by
  cases marked <;> simp [CallLog.replay_cons, CallLog.replay_nil, Event.replay]

structure Records (before after : Thread) : Prop where
  classFile_eq : after.classFile = before.classFile
  told : ∃ told, after.events = before.events ++ told ∧
    Marks before.methodNames after.methodNames (told.filter Event.marksFrame)

section Records

variable {before between after : Thread}

theorem Quiet.records (quiet : Quiet before after) : Records before after := by
  obtain ⟨told, events_eq, silent⟩ := quiet.told
  refine ⟨quiet.classFile_eq, told, events_eq, ?_⟩
  rw [quiet.methodNames_eq, silent]
  exact .same _

theorem Records.after_quiet (first : Quiet before between) (second : Records between after) :
    Records before after := by
  obtain ⟨told, events_eq, silent⟩ := first.told
  obtain ⟨later, later_eq, marks⟩ := second.told
  refine ⟨second.classFile_eq.trans first.classFile_eq, told ++ later, ?_, ?_⟩
  · rw [later_eq, events_eq, List.append_assoc]
  · rwa [List.filter_append, silent, List.nil_append, ← first.methodNames_eq]

theorem Records.before_quiet (first : Records before between) (second : Quiet between after) :
    Records before after := by
  obtain ⟨told, events_eq, marks⟩ := first.told
  obtain ⟨later, later_eq, silent⟩ := second.told
  refine ⟨second.classFile_eq.trans first.classFile_eq, told ++ later, ?_, ?_⟩
  · rw [later_eq, events_eq, List.append_assoc]
  · rwa [List.filter_append, silent, List.append_nil, second.methodNames_eq]

/-- As long as there are as many frames as before, nothing was entered or left. -/
theorem Records.quiet (records : Records before after) (depth_eq : after.depth = before.depth) :
    Quiet before after := by
  obtain ⟨told, events_eq, marks⟩ := records.told
  obtain ⟨methodNames_eq, silent⟩ := marks.eq_of_length_eq (by simpa [length_methodNames])
  exact ⟨records.classFile_eq, methodNames_eq, told, events_eq, silent⟩

end Records

section Operations

variable {thread : Thread}

theorem respects_tell {event : Event} (unmarked : event.marksFrame = false) :
    Respects Quiet (tell event) where
  related _ := ⟨rfl, rfl, [event], List.reverse_cons, by simp [unmarked]⟩

instance respects_remember (methodIndex : Nat) (code : Code) :
    Respects Quiet (modify fun thread =>
      { thread with codeCache := (methodIndex, code) :: thread.codeCache } :
        ThreadOperation Unit) where
  related _ := ⟨rfl, rfl, [], (List.append_nil _).symm, rfl⟩

instance respects_codeOf (methodIndex : Nat) : Respects Quiet (codeOf methodIndex) := by
  unfold codeOf
  refine @respects_bind _ _ _ _ _ _ get _ _ fun thread => ?_
  split
  next => infer_instance
  next =>
    split
    next method found =>
      refine @respects_bind _ _ _ _ _ _ (ofExcept _) _ _ fun decoded => ?_
      split
      next code =>
        have told : Respects Quiet (tell (.ignoringHandlers code.handlers.length
            (thread.classFile.methodName methodIndex))) := respects_tell rfl
        split <;> infer_instance
      next => infer_instance
    next => infer_instance

theorem quiet_onFrame {α : Type} {frame : Frame} {callers : List Frame}
    (frames_eq : thread.frames = frame :: callers) (operation : EStateM Fault Frame α)
    (kept : Frame.KeepsCode frame (state (operation frame))) :
    Quiet thread (state (onFrame frame callers operation thread)) := by
  have withFrame {changed : Frame} (kept : Frame.KeepsCode frame changed) :
      Quiet thread { thread with frames := changed :: callers } :=
    ⟨rfl, by simp [methodNames, frames_eq, kept.1], [], (List.append_nil _).symm, rfl⟩
  unfold onFrame
  cases outcome : operation frame with
  | ok value changed | error fault changed =>
    rw [outcome] at kept
    exact withFrame kept

instance respects_popArguments (count : Nat) : Respects Quiet (popArguments count) where
  related thread := by
    unfold popArguments
    rw [get_bind_apply]
    cases frames_eq : thread.frames with
    | nil => exact Chain.refl thread
    | cons frame callers =>
      exact quiet_onFrame frames_eq (onStack (OperandStack.popCells count)) (Respects.related frame)

theorem Quiet.extend {α : Type} {origin : Thread} (quiet : Quiet origin thread)
    (operation : ThreadOperation α) [Respects Quiet operation] :
    Quiet origin (state (operation thread)) :=
  Chain.trans quiet (Respects.related thread)

/-- After an operation that is quiet, it is up to what follows. -/
theorem records_bind {α β : Type} {origin : Thread} {first : ThreadOperation α}
    {next : α → ThreadOperation β} (head : Quiet origin (state (first thread)))
    (tail : ∀ value between, Quiet origin between → Records origin (state (next value between))) :
    Records origin (state ((first >>= next) thread)) := by
  cases outcome : first thread with
  | ok value between =>
    rw [outcome] at head
    rw [bind_of_ok outcome]
    exact tail value between head
  | error fault between =>
    rw [outcome] at head
    rw [bind_of_error outcome]
    exact head.records

/-- A frame is pushed right after the log is told, at the depth that the thread then has. -/
theorem records_pushFrame (thread : Thread) (methodIndex : Nat) (arguments : List Cell) :
    Records thread (state (pushFrame methodIndex arguments thread)) := by
  have refused : Records thread thread := Quiet.records (Chain.refl thread)
  unfold pushFrame
  rw [get_bind_apply]
  split
  next => exact refused
  next =>
    split
    next method found =>
      refine records_bind (Respects.related thread) fun descriptor between quiet => ?_
      refine records_bind (quiet.extend _) fun _ between quiet => ?_
      refine records_bind (quiet.extend _) fun code between quiet => ?_
      refine records_bind (quiet.extend _) fun locals between quiet => ?_
      refine Records.after_quiet quiet ⟨rfl, _, List.reverse_cons, ?_⟩
      rw [← quiet.classFile_eq, ← length_methodNames, ← quiet.methodNames_eq]
      exact .entered (between.classFile.methodName methodIndex) between.methodNames
    next => exact refused

/-- A frame is removed right before the log is told. What its caller makes of the value comes after
that and is quiet. -/
theorem records_leaveFrame (thread : Thread) (value : Option Cell) :
    Records thread (state (leaveFrame value thread)) := by
  unfold leaveFrame
  rw [get_bind_apply]
  cases frames_eq : thread.frames with
  | nil => exact Quiet.records (Chain.refl thread)
  | cons frame callers =>
    let event : Event := .leaving (thread.classFile.methodName frame.methodIndex)
    have left : Records thread { thread with frames := callers, log := event :: thread.log } := by
      refine ⟨rfl, [event], List.reverse_cons, ?_⟩
      unfold methodNames
      rw [frames_eq]
      exact .left _ _
    cases callers with
    | nil => exact left
    | cons caller others =>
      cases value with
      | none => exact left
      | some cell =>
        have pushed : Frame.KeepsCode caller (state (onStack (OperandStack.push cell) caller)) :=
          Respects.related caller
        have delivered := left.before_quiet (quiet_onFrame rfl _ pushed)
        have running : ∀ _ : Unit, Respects (Keeps (Records thread))
            (pure .running : ThreadOperation StepOutcome) := fun _ => inferInstance
        have finished := state_bind delivered running
        exact finished

theorem records_callStatic (thread : Thread) (index : ConstantIndex) :
    Records thread (state (callStatic index thread)) := by
  unfold callStatic
  rw [get_bind_apply]
  refine records_bind (Respects.related thread) fun methodIndex between quiet => ?_
  refine records_bind (quiet.extend _) fun count between quiet => ?_
  refine records_bind (quiet.extend _) fun arguments between quiet => ?_
  have pushed := records_pushFrame between methodIndex arguments
  exact state_bind (pushed.after_quiet quiet) fun _ => inferInstance

theorem records_execute {origin : Thread} {frame : Frame} {callers : List Frame}
    (quiet : Quiet origin thread) (frames_eq : thread.frames = frame :: callers)
    {operation : EStateM Fault Frame Control}
    (kept : Frame.KeepsCode frame (state (operation frame))) :
    Records origin
      (state ((onFrame frame callers operation >>= fun control =>
        match control with
        | .continue => pure .running
        | .invokeStatic index => callStatic index
        | .leave value => leaveFrame value) thread)) := by
  have executed := Chain.trans quiet (quiet_onFrame frames_eq operation kept)
  refine records_bind executed fun control between quiet => Records.after_quiet quiet ?_
  cases control with
  | «continue» => exact Quiet.records (Chain.refl between)
  | invokeStatic index => exact records_callStatic between index
  | leave value => exact records_leaveFrame between value

theorem records_stepFrame {frame : Frame} {callers : List Frame}
    (frames_eq : thread.frames = frame :: callers) :
    Records thread (state (stepFrame frame callers thread)) := by
  unfold stepFrame
  cases fetched : frame.fetch with
  | error fault => exact Quiet.records (Chain.refl thread)
  | ok current =>
    obtain ⟨instruction, next⟩ := current
    have kept : Frame.KeepsCode frame
        (state (Frame.execute thread.classFile.constants instruction next frame)) :=
      Frame.keepsCode_execute thread.classFile.constants instruction
        (Instruction.next_le_length_of_decode fetched).2
    rw [ofExcept_ok, pure_bind]
    simp only [get_bind_apply]
    split
    next =>
      let event : Event := .executing thread.depth frame.pc frame.opcode? instruction
      have told : Quiet thread (state (tell event thread)) := (respects_tell rfl).related thread
      exact records_execute told frames_eq kept
    next => exact records_execute (Chain.refl thread) frames_eq kept

theorem records_step (thread : Thread) : Records thread (state (step thread)) := by
  unfold step
  cases frames_eq : thread.frames with
  | nil => exact Quiet.records (Chain.refl thread)
  | cons frame callers =>
    have records := records_stepFrame frames_eq
    dsimp only
    generalize stepFrame frame callers thread = outcome at records ⊢
    cases outcome <;> exact records

theorem records_invoke (thread : Thread) (name descriptor : String) (arguments : List Cell) :
    Records thread (state (invoke name descriptor arguments thread)) := by
  have refused : Records thread thread := Quiet.records (Chain.refl thread)
  unfold invoke
  cases thread.classFile.findMethodIndex name descriptor with
  | error error => exact refused
  | ok found =>
    cases found with
    | none => exact refused
    | some methodIndex =>
      simp only [Except.mapError, ofExcept_ok, pure_bind]
      have records := records_pushFrame thread methodIndex arguments
      generalize pushFrame methodIndex arguments thread = outcome at records ⊢
      cases outcome <;> exact records

end Operations

/-- Replaying what the log was told in between leads from the methods that ran before to those that
run after. -/
def Follows (before after : Thread) : Prop :=
  ∃ told, after.events = before.events ++ told ∧
    CallLog.replay before.methodNames told = some after.methodNames

instance : Chain Follows where
  refl thread := ⟨[], (List.append_nil _).symm, rfl⟩
  trans := by
    rintro first second third ⟨told, events_eq, replayed⟩ ⟨later, later_eq, later_replayed⟩
    refine ⟨told ++ later, ?_, ?_⟩
    · rw [later_eq, events_eq, List.append_assoc]
    · rw [CallLog.replay_append, replayed, Option.bind_some, later_replayed]

theorem Records.follows {before after : Thread} (records : Records before after) :
    Follows before after := by
  obtain ⟨told, events_eq, marks⟩ := records.told
  refine ⟨told, events_eq, ?_⟩
  rw [← CallLog.replay_filter, marks.replay_eq]

instance respects_step : Respects Follows step where
  related thread := (records_step thread).follows

instance respects_invoke (name descriptor : String) (arguments : List Cell) :
    Respects Follows (invoke name descriptor arguments) where
  related thread := (records_invoke thread name descriptor arguments).follows

section Runs

variable {classFile : ClassFile} {settings : Settings} {thread ended : Thread}

theorem Reachable.replay_events (reachable : Reachable classFile settings thread) :
    CallLog.replay [] thread.events = some thread.methodNames := by
  obtain ⟨calls, rfl⟩ := reachable
  have follows : Follows (new classFile settings) (after classFile settings calls) :=
    related_after (fun _ _ _ => inferInstance) inferInstance classFile settings calls
  obtain ⟨told, events_eq, replayed⟩ := follows
  rw [events_eq]
  exact replayed

theorem frames_eq_nil_of_finished (steady : thread.Steady classFile settings) {value : Option Cell}
    (finished : step thread = .ok (.finished value) ended) : ended.frames = [] := by
  have mirrors := mirrors_step steady
  rw [finished] at mirrors
  have advanced := mirrors.frames_eq.symm
  change FrameStack.advance _ _ thread.frames = .ok (.finished value) ended.frames at advanced
  cases frames_eq : thread.frames with
  | nil =>
    rw [frames_eq, FrameStack.advance, EStateM.Result.ok.injEq] at advanced
    exact advanced.2.symm
  | cons frame callers =>
    rw [frames_eq] at advanced
    generalize ended.frames = left at advanced
    cases FrameStack.moves_of_advance advanced
    rfl

theorem frames_eq_nil_of_runFor (steady : thread.Steady classFile settings) {steps : Nat}
    {value : Option Cell} (ran : runFor steps thread = .ok (some value) ended) :
    ended.frames = [] := by
  induction steps generalizing thread with
  | zero => cases ran
  | succ steps inductionHypothesis =>
    obtain ⟨outcome, between, stepped, rest⟩ := bind_eq_ok.mp ran
    have mirrors := mirrors_step steady
    rw [stepped] at mirrors
    cases outcome with
    | running => exact inductionHypothesis mirrors.steady rest
    | finished result =>
      cases rest
      exact frames_eq_nil_of_finished steady stepped

/-- A run of what is running, or of a method that is invoked first, comes to its end and leaves this
thread behind. -/
inductive Finishes (thread ended : Thread) : Prop where
  | run {steps : Nat} {value : Option Cell}
      (ran : runFor steps thread = .ok (some value) ended) : Finishes thread ended
  | invokeAndRun {steps : Nat} {name descriptor : String} {arguments : List Cell}
      {value : Option Cell}
      (ran : invokeAndRunFor steps name descriptor arguments thread = .ok (some value) ended) :
    Finishes thread ended

theorem Finishes.eq_perform (finishes : Finishes thread ended) :
    ∃ call, ended = thread.perform call := by
  cases finishes with
  | @run steps _ ran => exact ⟨.run steps, by simp [perform, ran]⟩
  | @invokeAndRun steps name descriptor arguments _ ran =>
    exact ⟨.invokeAndRun steps name descriptor arguments, by simp [perform, ran]⟩

theorem Finishes.frames_eq_nil (steady : thread.Steady classFile settings)
    (finishes : Finishes thread ended) : ended.frames = [] := by
  cases finishes with
  | run ran => exact frames_eq_nil_of_runFor steady ran
  | @invokeAndRun _ name descriptor arguments _ ran =>
    obtain ⟨_, between, invoked, rest⟩ := bind_eq_ok.mp ran
    have mirrors := mirrors_invoke steady name descriptor arguments
    rw [invoked] at mirrors
    exact frames_eq_nil_of_runFor mirrors.steady rest

theorem Finishes.closes (steady : thread.Steady classFile settings)
    (finishes : Finishes thread ended) :
    ∃ emitted, ended.events = thread.events ++ emitted ∧
      CallLog.Closes thread.methodNames emitted := by
  have methodNames_eq : ended.methodNames = [] := by
    simp [methodNames, finishes.frames_eq_nil steady]
  obtain ⟨call, rfl⟩ := finishes.eq_perform
  have follows : Follows thread (thread.perform call) :=
    related_perform (fun _ _ _ => inferInstance) inferInstance thread call
  obtain ⟨emitted, events_eq, replayed⟩ := follows
  rw [methodNames_eq] at replayed
  exact ⟨emitted, events_eq, CallLog.closes_of_replay replayed⟩

theorem Finishes.balanced (reachable : Reachable classFile settings thread)
    (finishes : Finishes thread ended) : CallLog.Balanced 0 ended.events := by
  have methodNames_eq : ended.methodNames = [] := by
    simp [methodNames, finishes.frames_eq_nil reachable.steady]
  obtain ⟨call, rfl⟩ := finishes.eq_perform
  have replayed := (reachable.perform call).replay_events
  rw [methodNames_eq] at replayed
  exact CallLog.closes_of_replay replayed

theorem quiet_of_invoke_eq_error (steady : thread.Steady classFile settings)
    {name descriptor : String} {arguments : List Cell} {error : ExecutionError}
    (failed : invoke name descriptor arguments thread = .error error ended) :
    Quiet thread ended := by
  have records := records_invoke thread name descriptor arguments
  have mirrors := mirrors_invoke steady name descriptor arguments
  rw [failed] at records mirrors
  have frames_eq : ended.frames = thread.frames := FrameStack.start_eq_error mirrors.frames_eq.symm
  exact records.quiet (congrArg List.length frames_eq)

theorem quiet_of_step_eq_error (steady : thread.Steady classFile settings) {error : ExecutionError}
    (failed : step thread = .error error ended) :
    Quiet thread ended ∨ ∃ frame callers, thread.frames = frame :: callers ∧
      FrameStack.ReturnOverflows frame callers := by
  have records := records_step thread
  have mirrors := mirrors_step steady
  rw [failed] at records mirrors
  cases frames_eq : thread.frames with
  | nil =>
    rw [frames_eq] at mirrors
    cases mirrors.frames_eq
  | cons frame callers =>
    rw [frames_eq] at mirrors
    have remains : FrameStack.Remains frame callers ended.frames :=
      FrameStack.remains_of_advance mirrors.frames_eq.symm
    generalize left_eq : ended.frames = left at remains
    cases remains with
    | innermost fits kept =>
      refine .inl (records.quiet ?_)
      simp [depth, left_eq, frames_eq]
    | callers overflows => exact .inr ⟨frame, callers, rfl, overflows⟩

/-- The log of calls and returns, replayed, gives the names of the methods of the frames, however the
thread was used before and whether it succeeded or failed. Every further instruction and invocation
enters or leaves at most one method, and tells the log of just that one, with its name and with the
number of frames that there are then. An invocation that fails tells of none, and neither does an
instruction that fails, except for a return whose value does not fit into the next frame. When a run
finishes, the whole log is balanced, and what the run added leaves each method that ran before. -/
theorem log_mirrors_frames (reachable : Reachable classFile settings thread) :
    CallLog.replay [] thread.events = some thread.methodNames ∧
    Records thread (state (step thread)) ∧
    (∀ name descriptor arguments,
      Records thread (state (invoke name descriptor arguments thread))) ∧
    (∀ name descriptor arguments error failed,
      invoke name descriptor arguments thread = .error error failed → Quiet thread failed) ∧
    (∀ error failed, step thread = .error error failed → Quiet thread failed ∨
      ∃ frame callers, thread.frames = frame :: callers ∧
        FrameStack.ReturnOverflows frame callers) ∧
    (∀ ended, Finishes thread ended → CallLog.Balanced 0 ended.events ∧
      ∃ emitted, ended.events = thread.events ++ emitted ∧
        CallLog.Closes thread.methodNames emitted) := by
  have steady := reachable.steady
  refine ⟨reachable.replay_events, records_step thread, records_invoke thread, ?_, ?_, ?_⟩
  · intro name descriptor arguments error failed invoked
    exact quiet_of_invoke_eq_error steady invoked
  · intro error failed stepped
    exact quiet_of_step_eq_error steady stepped
  · intro ended finishes
    exact ⟨finishes.balanced reachable, finishes.closes steady⟩

end Runs

/-- A class `A` with two static methods: `f:()V` calls `g:()V`, which returns at once. -/
def nesting : ClassFile where
  version := ⟨52, 0⟩
  constants := .ofList [.utf8 [67, 111, 100, 101], .utf8 [102], .utf8 [40, 41, 86], .utf8 [65],
    .classRef 4, .utf8 [103], .nameAndType 6 3, .methodRef 5 7 false]
  flags := ⟨0⟩
  thisClass := 5
  superClass := 0
  interfaces := []
  fields := []
  methods := [
    { flags := ⟨0x0008⟩
      name := 2
      descriptor := 3
      attributes := [⟨1, [0, 0, 0, 0, 0, 0, 0, 4, 0xb8, 0, 8, 0xb1, 0, 0, 0, 0]⟩] },
    { flags := ⟨0x0008⟩
      name := 6
      descriptor := 3
      attributes := [⟨1, [0, 0, 0, 0, 0, 0, 0, 1, 0xb1, 0, 0, 0, 0]⟩] }]
  attributes := []

/-- The thread after `f:()V` was invoked and has returned. -/
def nested : Thread := state (invokeAndRunFor 3 "f" "()V" [] (new nesting ⟨2, false⟩))

theorem log_mirrors_frames_nested :
    invokeAndRunFor 3 "f" "()V" [] (new nesting ⟨2, false⟩) = .ok (some none) nested ∧
    nested.events =
      [.entering "f:()V" 1, .entering "g:()V" 2, .leaving "g:()V", .leaving "f:()V"] ∧
    CallLog.Balanced 0 nested.events := by
  have ran : invokeAndRunFor 3 "f" "()V" [] (new nesting ⟨2, false⟩) = .ok (some none) nested := by
    cbv
  have events_eq : nested.events =
      [.entering "f:()V" 1, .entering "g:()V" 2, .leaving "g:()V", .leaving "f:()V"] := by cbv
  have reachable : Reachable nesting ⟨2, false⟩ (new nesting ⟨2, false⟩) := ⟨[], rfl⟩
  exact ⟨ran, events_eq,
    ((log_mirrors_frames reachable).2.2.2.2.2 nested (.invokeAndRun ran)).1⟩

end Thread

end ClassMachine
