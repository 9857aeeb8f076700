import ClassMachine.Proofs.Thread.Agreement

set_option autoImplicit false

/-!
# What the limit on frames can change

The limit on the frames of a thread is only looked at when a method is entered, and there it can
only refuse. A call that is not refused for it therefore takes the same course under any larger
limit, and whether the instructions are traced makes no difference to it either.
-/

namespace ClassMachine

open Outcome

namespace FrameStack

/-- Except where the first operation has too many frames for a call, the second does the same. -/
def Relaxes {α : Type} (tight wide : EStateM Fault FrameStack α) : Prop :=
  ∀ frames, (∃ limit after, tight frames = .error (.callDepthExceeded limit) after) ∨
    wide frames = tight frames

section Relaxes

variable {α β : Type}

theorem relaxes_refl (operation : EStateM Fault FrameStack α) : Relaxes operation operation :=
  fun _ => .inr rfl

theorem relaxes_bind {tight wide : EStateM Fault FrameStack α}
    {next wideNext : α → EStateM Fault FrameStack β} (head : Relaxes tight wide)
    (tail : ∀ value, Relaxes (next value) (wideNext value)) :
    Relaxes (tight >>= next) (wide >>= wideNext) := by
  intro frames
  rcases head frames with ⟨limit, after, refused⟩ | same
  · exact .inl ⟨limit, after, bind_of_error refused⟩
  · cases outcome : tight frames with
    | ok value between =>
      rw [outcome] at same
      rw [bind_of_ok outcome, bind_of_ok same]
      exact tail value between
    | error fault between =>
      rw [outcome] at same
      rw [bind_of_error outcome, bind_of_error same]
      exact .inr rfl

end Relaxes

section Limits

variable {classFile : ClassFile} {limit wider : Nat}

theorem relaxes_enter (limit_le : limit ≤ wider) (methodIndex : Nat) (arguments : List Cell) :
    Relaxes (enter classFile limit methodIndex arguments)
      (enter classFile wider methodIndex arguments) := by
  intro frames
  by_cases full : limit ≤ frames.length
  · exact .inl ⟨limit, frames, enter_of_full full⟩
  · have room : frames.length < limit := Nat.lt_of_not_le full
    have wider_room : frames.length < wider := Nat.lt_of_lt_of_le room limit_le
    rw [enter_of_room room, enter_of_room wider_room]
    exact .inr rfl

theorem relaxes_start (limit_le : limit ≤ wider) (name descriptor : String)
    (arguments : List Cell) :
    Relaxes (start classFile limit name descriptor arguments)
      (start classFile wider name descriptor arguments) := by
  intro frames
  unfold start
  cases classFile.findMethodIndex name descriptor with
  | error error => exact .inr rfl
  | ok found =>
    cases found with
    | none => exact .inr rfl
    | some methodIndex => exact relaxes_enter limit_le methodIndex arguments frames

theorem relaxes_call (limit_le : limit ≤ wider) (index : ConstantIndex) :
    Relaxes (call classFile limit index) (call classFile wider index) := by
  unfold call
  apply relaxes_bind (relaxes_refl _)
  intro methodIndex
  apply relaxes_bind (relaxes_refl _)
  intro count
  apply relaxes_bind (relaxes_refl _)
  intro arguments
  apply relaxes_bind (relaxes_enter limit_le methodIndex arguments)
  intro _
  exact relaxes_refl _

theorem relaxes_advance (limit_le : limit ≤ wider) :
    Relaxes (advance classFile limit) (advance classFile wider) := by
  have responds (control : Control) :
      Relaxes (respond classFile limit control) (respond classFile wider control) := by
    cases control with
    | «continue» => exact relaxes_refl _
    | invokeStatic index => exact relaxes_call limit_le index
    | leave value => exact relaxes_refl _
  intro frames
  cases frames with
  | nil => exact .inr rfl
  | cons frame callers => exact relaxes_bind (relaxes_refl _) responds callers

end Limits

end FrameStack

namespace Thread

/-- A result, or an error other than that the call depth is exceeded. -/
def WithinLimit {α : Type} : Except ExecutionError α → Prop
  | .ok _ => True
  | .error error => ∀ limit, error.fault ≠ .callDepthExceeded limit

/-- A method that is invoked on this thread comes to this end with the instruction of this number:
it returns a value, or there is an error. The invocation itself does not count as an instruction. -/
inductive EndsAfter (thread : Thread) (name descriptor : String) (arguments : List Cell) :
    Nat → Except ExecutionError (Option Cell) → Prop where
  | refused {error : ExecutionError} {after : Thread}
      (failed : invoke name descriptor arguments thread = .error error after) :
      EndsAfter thread name descriptor arguments 0 (.error error)
  | returned {count : Nat} {started last after : Thread} {value : Option Cell}
      (invoked : invoke name descriptor arguments thread = .ok () started)
      (ran : RunsTo count started last) (finished : step last = .ok (.finished value) after) :
      EndsAfter thread name descriptor arguments (count + 1) (.ok value)
  | failed {count : Nat} {started last after : Thread} {error : ExecutionError}
      (invoked : invoke name descriptor arguments thread = .ok () started)
      (ran : RunsTo count started last) (failed : step last = .error error after) :
      EndsAfter thread name descriptor arguments (count + 1) (.error error)

section Widen

variable {classFile : ClassFile} {settings wider : Settings} {first second : Thread}

/-- Where a thread is not refused a frame, the frames alone do the same under a wider limit. -/
theorem Mirrors.eq_of_relaxes {α : Type} {outcome : EStateM.Result ExecutionError Thread α}
    {tight wide : EStateM Fault FrameStack α} {frames : FrameStack}
    (mirrors : Mirrors classFile settings ExecutionError.fault outcome (tight frames))
    (relaxes : FrameStack.Relaxes tight wide) (within : WithinLimit (result outcome)) :
    wide frames = tight frames := by
  rcases relaxes frames with ⟨limit, after, refused⟩ | same
  · rw [refused] at mirrors
    obtain ⟨error, after, rfl, fault_eq, -⟩ := mirrors.error
    exact absurd fault_eq (within limit)
  · exact same

theorem agree_step_of_le (limit_le : settings.maxCallDepth ≤ wider.maxCallDepth)
    (twins : Twins classFile settings wider first second)
    {outcome : EStateM.Result ExecutionError Thread StepOutcome} (stepped : step first = outcome)
    (within : WithinLimit (result outcome)) :
    Agree classFile settings wider outcome (step second) := by
  subst stepped
  have mirrors := mirrors_step twins.steady
  exact agree_step twins (mirrors.eq_of_relaxes (FrameStack.relaxes_advance limit_le) within)

theorem agree_invoke_of_le (limit_le : settings.maxCallDepth ≤ wider.maxCallDepth)
    (twins : Twins classFile settings wider first second) {name descriptor : String}
    {arguments : List Cell} {outcome : EStateM.Result ExecutionError Thread Unit}
    (invoked : invoke name descriptor arguments first = outcome)
    (within : WithinLimit (result outcome)) :
    Agree classFile settings wider outcome (invoke name descriptor arguments second) := by
  subst invoked
  have mirrors := mirrors_invoke twins.steady name descriptor arguments
  apply agree_invoke twins
  exact mirrors.eq_of_relaxes (FrameStack.relaxes_start limit_le name descriptor arguments) within

theorem RunsTo.widen (limit_le : settings.maxCallDepth ≤ wider.maxCallDepth) {count : Nat}
    {last : Thread} (ran : RunsTo count first last)
    (twins : Twins classFile settings wider first second) :
    ∃ otherLast, RunsTo count second otherLast ∧ Twins classFile settings wider last otherLast := by
  induction ran generalizing second with
  | done thread => exact ⟨second, .done second, twins⟩
  | @step count before between last stepped rest inductionHypothesis =>
    obtain ⟨otherBetween, other_stepped, between_twins⟩ :=
      (agree_step_of_le limit_le twins stepped trivial).ok
    obtain ⟨otherLast, other_rest, last_twins⟩ := inductionHypothesis between_twins
    exact ⟨otherLast, .step other_stepped other_rest, last_twins⟩

/-- A method that is invoked on a new thread, and comes to an end other than that the call depth is
exceeded, comes to the same end with the same instruction under any larger limit, whether or not the
instructions are traced. -/
theorem limit_only_refuses (limit_le : settings.maxCallDepth ≤ wider.maxCallDepth)
    {name descriptor : String} {arguments : List Cell} {count : Nat}
    {ending : Except ExecutionError (Option Cell)}
    (ends : EndsAfter (new classFile settings) name descriptor arguments count ending)
    (within : WithinLimit ending) :
    EndsAfter (new classFile wider) name descriptor arguments count ending := by
  have twins : Twins classFile settings wider (new classFile settings) (new classFile wider) :=
    Reachable.twins ⟨[], rfl⟩ ⟨[], rfl⟩ rfl
  -- An invocation that succeeds does so under the wider limit, and the same instructions follow.
  have follows {started last : Thread} {count : Nat}
      (invoked : invoke name descriptor arguments (new classFile settings) = .ok () started)
      (ran : RunsTo count started last) :
      ∃ otherStarted otherLast,
        invoke name descriptor arguments (new classFile wider) = .ok () otherStarted ∧
          RunsTo count otherStarted otherLast ∧ Twins classFile settings wider last otherLast := by
    obtain ⟨otherStarted, other_invoked, started_twins⟩ :=
      (agree_invoke_of_le limit_le twins invoked trivial).ok
    obtain ⟨otherLast, other_ran, last_twins⟩ := ran.widen limit_le started_twins
    exact ⟨otherStarted, otherLast, other_invoked, other_ran, last_twins⟩
  cases ends with
  | @refused error after failed =>
    obtain ⟨other, other_failed, -⟩ := (agree_invoke_of_le limit_le twins failed within).error
    exact .refused other_failed
  | @returned count started last after value invoked ran finished =>
    obtain ⟨otherStarted, otherLast, other_invoked, other_ran, last_twins⟩ := follows invoked ran
    obtain ⟨other, other_finished, -⟩ := (agree_step_of_le limit_le last_twins finished trivial).ok
    exact .returned other_invoked other_ran other_finished
  | @failed count started last after error invoked ran failed =>
    obtain ⟨otherStarted, otherLast, other_invoked, other_ran, last_twins⟩ := follows invoked ran
    obtain ⟨other, other_failed, -⟩ := (agree_step_of_le limit_le last_twins failed within).error
    exact .failed other_invoked other_ran other_failed

/-- The method returns 42 with its second instruction on a thread that may have five frames and
traces instructions, since it does so on one that may have one frame and does not trace them. -/
theorem limit_only_refuses_answering :
    EndsAfter (new answering ⟨5, true⟩) "f" "()I" [] 2 (.ok (some (.narrow 42))) := by
  have invoked : invoke "f" "()I" [] (new answering ⟨1, false⟩) = .ok () answeringAlone := by cbv
  have stepped : step answeringAlone = .ok .running (state (step answeringAlone)) := by cbv
  have finished : step (state (step answeringAlone)) =
      .ok (.finished (some (.narrow 42))) (state (step (state (step answeringAlone)))) := by cbv
  have ends : EndsAfter (new answering ⟨1, false⟩) "f" "()I" [] 2 (.ok (some (.narrow 42))) :=
    .returned invoked (.step stepped (.done _)) finished
  exact limit_only_refuses (by decide) ends trivial

end Widen

end Thread

end ClassMachine
