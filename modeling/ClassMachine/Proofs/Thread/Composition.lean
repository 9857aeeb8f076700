import ClassMachine.Proofs.Thread.Soundness

set_option autoImplicit false

/-!
# Calls do not touch their callers

A method that runs on a thread without other frames runs just the same above the frames of its
callers: no instruction, no call and no return sees or changes a frame beneath, and the depth check
shifts by the number of those frames. Only its last instruction tells the difference, because the
result then goes to the innermost caller and not to the outside.
-/

namespace ClassMachine

open Outcome

namespace FrameStack

section Lifting

/-- Above other frames, the second operation does what the first one does without them. It does not
remove the frames that it was given. -/
def LiftsAbove {α : Type} (under : FrameStack) (operation above : EStateM Fault FrameStack α) :
    Prop :=
  ∀ frames value after, frames ≠ [] → operation frames = .ok value after →
    after ≠ [] ∧ above (frames ++ under) = .ok value (after ++ under)

variable {α β : Type} {under : FrameStack}

theorem liftsAbove_bind {first above : EStateM Fault FrameStack α}
    {next nextAbove : α → EStateM Fault FrameStack β} (head : LiftsAbove under first above)
    (tail : ∀ value, LiftsAbove under (next value) (nextAbove value)) :
    LiftsAbove under (first >>= next) (above >>= nextAbove) := by
  intro frames result after nonempty succeeded
  obtain ⟨value, between, first_eq, next_eq⟩ := bind_eq_ok.mp succeeded
  obtain ⟨between_nonempty, above_eq⟩ := head frames value between nonempty first_eq
  rw [bind_of_ok above_eq]
  exact tail value between result after between_nonempty next_eq

theorem liftsAbove_pure (value : α) : LiftsAbove under (pure value) (pure value) := by
  intro frames result after nonempty succeeded
  cases succeeded
  exact ⟨nonempty, rfl⟩

theorem liftsAbove_ofExcept (result : Except Fault α) :
    LiftsAbove under (ofExcept result) (ofExcept result) := by
  cases result with
  | ok value => exact liftsAbove_pure value
  | error fault =>
    intro frames value after _ succeeded
    cases succeeded

theorem onTop_append (under : FrameStack) {operation : EStateM Fault Frame α} {frame : Frame}
    {callers after : FrameStack} {value : α}
    (succeeded : onTop operation frame callers = .ok value after) :
    after ≠ [] ∧ onTop operation frame (callers ++ under) = .ok value (after ++ under) := by
  obtain ⟨changed, outcome, rfl⟩ := onTop_eq_ok.mp succeeded
  exact ⟨List.cons_ne_nil _ _, onTop_eq_ok.mpr ⟨changed, outcome, rfl⟩⟩

theorem liftsAbove_popArguments (count : Nat) :
    LiftsAbove under (popArguments count) (popArguments count) := by
  intro frames value after nonempty succeeded
  cases frames with
  | nil => exact absurd rfl nonempty
  | cons frame callers => exact onTop_append under succeeded

end Lifting

section Calls

variable {classFile : ClassFile} {limit deeper : Nat} {under : FrameStack}

/-- A call that is not too deep on its own is not too deep above other frames either, if the limit
allows as many more. -/
theorem enter_append {methodIndex : Nat} {arguments : List Cell} {frames after : FrameStack}
    (room : limit + under.length ≤ deeper)
    (succeeded : enter classFile limit methodIndex arguments frames = .ok () after) :
    after ≠ [] ∧
      enter classFile deeper methodIndex arguments (frames ++ under) = .ok () (after ++ under) := by
  obtain ⟨shallow, frame, made, rfl⟩ := enter_eq_ok.mp succeeded
  have shallow_append : (frames ++ under).length < deeper := by
    rw [List.length_append]
    omega
  exact ⟨List.cons_ne_nil _ _, enter_eq_ok.mpr ⟨shallow_append, frame, made, rfl⟩⟩

theorem liftsAbove_call (room : limit + under.length ≤ deeper) (index : ConstantIndex) :
    LiftsAbove under (call classFile limit index) (call classFile deeper index) := by
  unfold call
  refine liftsAbove_bind (liftsAbove_ofExcept _) fun methodIndex => ?_
  refine liftsAbove_bind (liftsAbove_ofExcept _) fun count => ?_
  refine liftsAbove_bind (liftsAbove_popArguments count) fun arguments => ?_
  refine liftsAbove_bind ?_ fun _ => liftsAbove_pure StepOutcome.running
  intro frames _ after _ succeeded
  exact enter_append room succeeded

theorem call_eq_ok {index : ConstantIndex} {outcome : StepOutcome} {frames after : FrameStack}
    (succeeded : call classFile limit index frames = .ok outcome after) : outcome = .running := by
  obtain ⟨methodIndex, _, _, rest⟩ := bind_eq_ok.mp succeeded
  obtain ⟨count, _, _, rest⟩ := bind_eq_ok.mp rest
  obtain ⟨arguments, _, _, rest⟩ := bind_eq_ok.mp rest
  obtain ⟨_, _, _, rest⟩ := bind_eq_ok.mp rest
  cases rest
  rfl

theorem deliver_append {value : Option Cell} {callers after : FrameStack}
    (succeeded : deliver value callers = .ok .running after) :
    after ≠ [] ∧ deliver value (callers ++ under) = .ok .running (after ++ under) := by
  cases callers with
  | nil => cases succeeded
  | cons caller others =>
    cases value with
    | none =>
      cases succeeded
      exact ⟨List.cons_ne_nil _ _, rfl⟩
    | some cell =>
      obtain ⟨_, between, pushed, rest⟩ := bind_eq_ok.mp succeeded
      cases rest
      obtain ⟨nonempty, pushed_above⟩ := onTop_append under pushed
      exact ⟨nonempty, bind_of_ok pushed_above⟩

theorem deliver_of_fits {cell : Cell} {caller : Frame} (others : FrameStack)
    (fits : caller.stack.depth + width cell ≤ caller.stack.capacity) :
    deliver (some cell) (caller :: others) =
      .ok .running ({ caller with stack := caller.stack.withCell cell } :: others) := by
  have pushed : onTop (Thread.onStack (OperandStack.push cell)) caller others =
      .ok () ({ caller with stack := caller.stack.withCell cell } :: others) := by
    simp [onTop, Thread.onStack, OperandStack.push, fits]
  exact bind_of_ok pushed

theorem deliver_of_full {cell : Cell} {caller : Frame} (others : FrameStack)
    (full : caller.stack.capacity < caller.stack.depth + width cell) :
    deliver (some cell) (caller :: others) = .error .operandStackOverflow (caller :: others) := by
  have refused : onTop (Thread.onStack (OperandStack.push cell)) caller others =
      .error .operandStackOverflow (caller :: others) := by
    simp [onTop, Thread.onStack, OperandStack.push, Nat.not_le_of_lt full]
  exact bind_of_error refused

theorem deliver_eq_finished {value result : Option Cell} {callers after : FrameStack}
    (succeeded : deliver value callers = .ok (.finished result) after) :
    callers = [] ∧ value = result := by
  cases callers with
  | nil =>
    cases succeeded
    exact ⟨rfl, rfl⟩
  | cons caller others =>
    cases value with
    | none => cases succeeded
    | some cell =>
      obtain ⟨_, between, _, rest⟩ := bind_eq_ok.mp succeeded
      cases rest

theorem advance_append_of_running {frames after : FrameStack}
    (room : limit + under.length ≤ deeper) (nonempty : frames ≠ [])
    (succeeded : advance classFile limit frames = .ok .running after) :
    after ≠ [] ∧ advance classFile deeper (frames ++ under) = .ok .running (after ++ under) := by
  cases frames with
  | nil => exact absurd rfl nonempty
  | cons frame callers =>
    obtain ⟨control, between, executed, responded⟩ := bind_eq_ok.mp succeeded
    obtain ⟨between_nonempty, executed_above⟩ := onTop_append under executed
    suffices lifted : after ≠ [] ∧
        respond classFile deeper control (between ++ under) = .ok .running (after ++ under) from
      ⟨lifted.1, (bind_of_ok executed_above).trans lifted.2⟩
    cases control with
    | «continue» => exact liftsAbove_pure _ between _ after between_nonempty responded
    | invokeStatic index =>
      exact liftsAbove_call room index between _ after between_nonempty responded
    | leave value =>
      cases between with
      | nil => exact absurd rfl between_nonempty
      | cons callee callers => exact deliver_append responded

theorem advance_append_of_finished {frames after : FrameStack} {result : Option Cell}
    (nonempty : frames ≠ [])
    (succeeded : advance classFile limit frames = .ok (.finished result) after) :
    advance classFile deeper (frames ++ under) = deliver result under := by
  cases frames with
  | nil => exact absurd rfl nonempty
  | cons frame callers =>
    obtain ⟨control, between, executed, responded⟩ := bind_eq_ok.mp succeeded
    obtain ⟨between_nonempty, executed_above⟩ := onTop_append under executed
    refine (bind_of_ok executed_above).trans ?_
    cases control with
    | «continue» => cases responded
    | invokeStatic index => cases call_eq_ok responded
    | leave value =>
      cases between with
      | nil => exact absurd rfl between_nonempty
      | cons callee callers =>
        obtain ⟨rfl, rfl⟩ := deliver_eq_finished responded
        rfl

end Calls

end FrameStack

namespace Thread

/-- That many instructions lead from one thread to the other, and none of them ends the run. -/
inductive RunsTo : Nat → Thread → Thread → Prop where
  | done (thread : Thread) : RunsTo 0 thread thread
  | step {count : Nat} {before between after : Thread} (stepped : step before = .ok .running between)
      (rest : RunsTo count between after) : RunsTo (count + 1) before after

/-- What comes of an instruction that returns this result to these callers: the innermost one gets
the value, if there is one and it has room for it, and otherwise they stay as they are. -/
def Returns (value : Option Cell) (callers : List Frame)
    (outcome : EStateM.Result ExecutionError Thread StepOutcome) : Prop :=
  match callers, value with
  | [], _ => ∃ thread, outcome = .ok (.finished value) thread ∧ thread.frames = []
  | caller :: others, none =>
    ∃ thread, outcome = .ok .running thread ∧ thread.frames = caller :: others
  | caller :: others, some cell =>
    if caller.stack.depth + width cell ≤ caller.stack.capacity then
      ∃ thread, outcome = .ok .running thread ∧
        thread.frames = { caller with stack := caller.stack.withCell cell } :: others
    else
      ∃ error thread, outcome = .error error thread ∧ error.fault = .operandStackOverflow ∧
        thread.frames = caller :: others

section Compose

variable {classFile : ClassFile} {settings loneSettings : Settings}

theorem Mirrors.returns {outcome : EStateM.Result ExecutionError Thread StepOutcome}
    {value : Option Cell} {callers : FrameStack}
    (mirrors : Mirrors classFile settings ExecutionError.fault outcome
      (FrameStack.deliver value callers)) : Returns value callers outcome := by
  cases callers with
  | nil =>
    obtain ⟨after, outcome_eq, frames_eq, _⟩ := mirrors.ok
    exact ⟨after, outcome_eq, frames_eq⟩
  | cons caller others =>
    cases value with
    | none =>
      obtain ⟨after, outcome_eq, frames_eq, _⟩ := mirrors.ok
      exact ⟨after, outcome_eq, frames_eq⟩
    | some cell =>
      by_cases fits : caller.stack.depth + width cell ≤ caller.stack.capacity
      · rw [FrameStack.deliver_of_fits others fits] at mirrors
        obtain ⟨after, outcome_eq, frames_eq, _⟩ := mirrors.ok
        simp only [Returns, if_pos fits]
        exact ⟨after, outcome_eq, frames_eq⟩
      · rw [FrameStack.deliver_of_full others (Nat.lt_of_not_le fits)] at mirrors
        obtain ⟨error, after, outcome_eq, fault_eq, frames_eq, _⟩ := mirrors.error
        simp only [Returns, if_neg fits]
        exact ⟨error, after, outcome_eq, fault_eq, frames_eq⟩

/-- Instructions that run without other frames run above other frames as well, on any thread of the
same class whose limit allows as many more frames. -/
theorem RunsTo.append {count : Nat} {before after above : Thread} {under : FrameStack}
    (room : loneSettings.maxCallDepth + under.length ≤ settings.maxCallDepth)
    (ran : RunsTo count before after) (nonempty : before.frames ≠ [])
    (steady : before.Steady classFile loneSettings) (steady_above : above.Steady classFile settings)
    (frames_eq : above.frames = before.frames ++ under) :
    ∃ afterAbove, RunsTo count above afterAbove ∧ afterAbove.Steady classFile settings ∧
      afterAbove.frames = after.frames ++ under ∧ after.frames ≠ [] ∧
      after.Steady classFile loneSettings := by
  induction ran generalizing above with
  | done thread => exact ⟨above, .done above, steady_above, frames_eq, nonempty, steady⟩
  | @step count before between after stepped rest inductionHypothesis =>
    have mirrors := mirrors_step steady
    rw [stepped] at mirrors
    obtain ⟨between_nonempty, advanced_above⟩ :=
      FrameStack.advance_append_of_running room nonempty mirrors.frames_eq.symm
    have mirrors_above := mirrors_step steady_above
    rw [frames_eq, advanced_above] at mirrors_above
    obtain ⟨betweenAbove, stepped_above, between_frames_eq, between_steady⟩ := mirrors_above.ok
    obtain ⟨afterAbove, rest_above, conclusion⟩ :=
      inductionHypothesis between_nonempty mirrors.steady between_steady between_frames_eq
    exact ⟨afterAbove, .step stepped_above rest_above, conclusion⟩

theorem RunsTo.first {count steps : Nat} {before after : Thread} (ran : RunsTo count before after)
    (steps_le : steps ≤ count) : ∃ between, RunsTo steps before between := by
  induction ran generalizing steps with
  | done thread =>
    obtain rfl := Nat.le_zero.mp steps_le
    exact ⟨thread, .done thread⟩
  | @step count before between after stepped rest inductionHypothesis =>
    cases steps with
    | zero => exact ⟨before, .done before⟩
    | succ steps =>
      obtain ⟨reached, ran⟩ := inductionHypothesis (Nat.le_of_succ_le_succ steps_le)
      exact ⟨reached, .step stepped ran⟩

/-- Suppose that a call, made on a thread without frames, returns a value after some instructions.
On any thread of the same class whose limit allows for its own frames on top of that, the same call
then runs for as many instructions and keeps the frames beneath as they are all along. The last
instruction returns the value to them. -/
theorem calls_compose {alone under started last ended : Thread} {methodIndex count : Nat}
    {arguments : List Cell} {value : Option Cell}
    (alone_reachable : Reachable classFile loneSettings alone) (alone_empty : alone.frames = [])
    (under_reachable : Reachable classFile settings under)
    (room : loneSettings.maxCallDepth + under.depth ≤ settings.maxCallDepth)
    (pushed : pushFrame methodIndex arguments alone = .ok () started)
    (ran : RunsTo count started last) (returned : step last = .ok (.finished value) ended) :
    ∃ startedAbove, pushFrame methodIndex arguments under = .ok () startedAbove ∧
      (∀ steps ≤ count, ∃ between betweenAbove, RunsTo steps started between ∧
        RunsTo steps startedAbove betweenAbove ∧
        betweenAbove.frames = between.frames ++ under.frames) ∧
      ∃ lastAbove, RunsTo count startedAbove lastAbove ∧
        Returns value under.frames (step lastAbove) := by
  -- The two threads agree on the frames that the call starts with.
  have steady := alone_reachable.steady
  have entered := mirrors_pushFrame steady methodIndex arguments
  rw [pushed, alone_empty] at entered
  obtain ⟨started_nonempty, entered_above⟩ :=
    FrameStack.enter_append room entered.frames_eq.symm
  have mirrors := mirrors_pushFrame under_reachable.steady methodIndex arguments
  rw [show under.frames = [] ++ under.frames from rfl, entered_above] at mirrors
  obtain ⟨startedAbove, pushed_above, frames_eq, steady_above⟩ := mirrors.ok
  refine ⟨startedAbove, pushed_above, ?_, ?_⟩
  · intro steps steps_le
    obtain ⟨between, ran⟩ := ran.first steps_le
    obtain ⟨betweenAbove, ran_above, _, between_eq, _⟩ :=
      ran.append room started_nonempty entered.steady steady_above frames_eq
    exact ⟨between, betweenAbove, ran, ran_above, between_eq⟩
  · obtain ⟨lastAbove, ran_above, last_steady_above, last_eq, last_nonempty, last_steady⟩ :=
      ran.append room started_nonempty entered.steady steady_above frames_eq
    have ends := mirrors_step last_steady
    rw [returned] at ends
    have ends_above := mirrors_step last_steady_above
    rw [last_eq, FrameStack.advance_append_of_finished last_nonempty ends.frames_eq.symm]
      at ends_above
    exact ⟨lastAbove, ran_above, ends_above.returns⟩

/-- A class whose only method, `f:()I`, is static and returns 42. -/
def answering : ClassFile where
  version := ⟨52, 0⟩
  constants := .ofList [.utf8 [67, 111, 100, 101], .utf8 [102], .utf8 [40, 41, 73]]
  flags := ⟨0⟩
  thisClass := 0
  superClass := 0
  interfaces := []
  fields := []
  methods := [
    { flags := ⟨0x0008⟩
      name := 2
      descriptor := 3
      attributes := [⟨1, [0, 1, 0, 0, 0, 0, 0, 3, 0x10, 42, 0xac, 0, 0, 0, 0]⟩] }]
  attributes := []

/-- A thread that is about to execute this method, and has no other frames. -/
def answeringAlone : Thread := state (pushFrame 0 [] (new answering ⟨1, false⟩))

/-- The method returns 42 to another activation of itself. -/
theorem calls_compose_answering :
    (after answering ⟨2, false⟩ [.invoke "f" "()I" []]).depth = 1 ∧
      ∃ startedAbove lastAbove,
        pushFrame 0 [] (after answering ⟨2, false⟩ [.invoke "f" "()I" []]) = .ok () startedAbove ∧
          RunsTo 1 startedAbove lastAbove ∧
          Returns (some (.narrow 42)) (after answering ⟨2, false⟩ [.invoke "f" "()I" []]).frames
            (step lastAbove) := by
  have pushed : pushFrame 0 [] (new answering ⟨1, false⟩) = .ok () answeringAlone := by cbv
  have stepped : step answeringAlone = .ok .running (state (step answeringAlone)) := by cbv
  have returned : step (state (step answeringAlone)) =
      .ok (.finished (some (.narrow 42))) (state (step (state (step answeringAlone)))) := by cbv
  have depth_eq : (after answering ⟨2, false⟩ [.invoke "f" "()I" []]).depth = 1 := by cbv
  have room : 1 + (after answering ⟨2, false⟩ [.invoke "f" "()I" []]).depth ≤ 2 :=
    Nat.le_of_eq (by rw [depth_eq])
  obtain ⟨startedAbove, pushed_above, _, lastAbove, ran, returns⟩ :=
    calls_compose ⟨[], rfl⟩ rfl ⟨_, rfl⟩ room pushed (.step stepped (.done _)) returned
  exact ⟨depth_eq, startedAbove, lastAbove, pushed_above, ran, returns⟩

end Compose

end Thread

end ClassMachine
