import ClassMachine.Proofs.Thread.Composition

set_option autoImplicit false

/-!
# Threads that cannot be told apart

What a call answers and which frames it leaves depends on the class, on the frames that there are
and on how many there may be. It does not depend on the code that a thread keeps, nor on what its
log is told. Hence a thread whose frames are gone is as good as new, whatever it has been through.
-/

namespace ClassMachine.Thread

open Outcome

/-- Two threads of one class that have the same frames. They may differ in their settings, in the
code that they keep and in what their logs were told. -/
structure Twins (classFile : ClassFile) (settings otherSettings : Settings)
    (first second : Thread) : Prop where
  steady : first.Steady classFile settings
  other_steady : second.Steady classFile otherSettings
  frames_eq : first.frames = second.frames

theorem Reachable.twins {classFile : ClassFile} {settings otherSettings : Settings}
    {first second : Thread} (reachable : Reachable classFile settings first)
    (other_reachable : Reachable classFile otherSettings second)
    (frames_eq : first.frames = second.frames) :
    Twins classFile settings otherSettings first second :=
  ⟨reachable.steady, other_reachable.steady, frames_eq⟩

/-- The same comes of an operation on two threads, and they are twins after it. -/
structure Agree {ε α : Type} (classFile : ClassFile) (settings otherSettings : Settings)
    (first second : EStateM.Result ε Thread α) : Prop where
  result_eq : result first = result second
  twins : Twins classFile settings otherSettings (state first) (state second)

section Agree

variable {ε α : Type} {classFile : ClassFile} {settings otherSettings : Settings}

theorem Agree.ok {after : Thread} {value : α} {second : EStateM.Result ε Thread α}
    (agree : Agree classFile settings otherSettings (.ok value after) second) :
    ∃ other, second = .ok value other ∧ Twins classFile settings otherSettings after other := by
  obtain ⟨result_eq, twins⟩ := agree
  cases second with
  | ok found other =>
    cases result_eq
    exact ⟨other, rfl, twins⟩
  | error error other => cases result_eq

theorem Agree.error {after : Thread} {error : ε} {second : EStateM.Result ε Thread α}
    (agree : Agree classFile settings otherSettings (.error error after) second) :
    ∃ other, second = .error error other ∧ Twins classFile settings otherSettings after other := by
  obtain ⟨result_eq, twins⟩ := agree
  cases second with
  | ok found other => cases result_eq
  | error found other =>
    cases result_eq
    exact ⟨other, rfl, twins⟩

/-- Outcomes agree if both mirror the one for the frames alone, and their errors say nothing beyond
the cause that depends on the thread. -/
theorem agree_of_mirrors {cause : ε → Fault} {first second : EStateM.Result ε Thread α}
    {bare : EStateM.Result Fault FrameStack α} (locate : Fault → ε)
    (located : ∀ error after, first = .error error after → error = locate (cause error))
    (other_located : ∀ error after, second = .error error after → error = locate (cause error))
    (mirrors : Mirrors classFile settings cause first bare)
    (other_mirrors : Mirrors classFile otherSettings cause second bare) :
    Agree classFile settings otherSettings first second := by
  cases bare with
  | ok value frames =>
    obtain ⟨after, rfl, rfl, steady⟩ := mirrors.ok
    obtain ⟨other, rfl, frames_eq, other_steady⟩ := other_mirrors.ok
    exact ⟨rfl, steady, other_steady, frames_eq.symm⟩
  | error fault frames =>
    obtain ⟨error, after, rfl, rfl, rfl, steady⟩ := mirrors.error
    obtain ⟨otherError, other, rfl, cause_eq, frames_eq, other_steady⟩ := other_mirrors.error
    refine ⟨?_, steady, other_steady, frames_eq.symm⟩
    have error_eq := located error after rfl
    have otherError_eq := other_located otherError other rfl
    rw [cause_eq, ← error_eq] at otherError_eq
    rw [otherError_eq, result_error, result_error]

variable {first second : Thread}

theorem agree_step (twins : Twins classFile settings otherSettings first second)
    (same : FrameStack.advance classFile otherSettings.maxCallDepth first.frames =
      FrameStack.advance classFile settings.maxCallDepth first.frames) :
    Agree classFile settings otherSettings (step first) (step second) := by
  obtain ⟨steady, other_steady, frames_eq⟩ := twins
  have mirrors := mirrors_step steady
  have other_mirrors := mirrors_step other_steady
  rw [← frames_eq, same] at other_mirrors
  cases split_eq : first.frames with
  | nil =>
    unfold step
    rw [← frames_eq, split_eq]
    exact ⟨rfl, steady, other_steady, frames_eq⟩
  | cons frame callers =>
    refine agree_of_mirrors (fun fault => ⟨classFile.methodName frame.methodIndex, frame.pc,
      frame.opcode?, fault⟩) ?_ ?_ mirrors other_mirrors
    · intro error after failed
      rw [← steady.classFile_eq]
      exact step_eq_error split_eq failed
    · intro error after failed
      rw [← other_steady.classFile_eq]
      exact step_eq_error (frames_eq.symm.trans split_eq) failed

theorem agree_invoke (twins : Twins classFile settings otherSettings first second)
    {name descriptor : String} {arguments : List Cell}
    (same : FrameStack.start classFile otherSettings.maxCallDepth name descriptor arguments
        first.frames =
      FrameStack.start classFile settings.maxCallDepth name descriptor arguments first.frames) :
    Agree classFile settings otherSettings (invoke name descriptor arguments first)
      (invoke name descriptor arguments second) := by
  have mirrors := mirrors_invoke twins.steady name descriptor arguments
  have other_mirrors := mirrors_invoke twins.other_steady name descriptor arguments
  rw [← twins.frames_eq, same] at other_mirrors
  exact agree_of_mirrors (fun fault => ⟨name ++ ":" ++ descriptor, 0, none, fault⟩)
    (fun _ _ => invoke_eq_error) (fun _ _ => invoke_eq_error) mirrors other_mirrors

end Agree

/-- The operation cannot tell twins with the same settings apart. -/
class Forgetful {ε α : Type} (operation : EStateM ε Thread α) : Prop where
  agree : ∀ {classFile settings first second}, Twins classFile settings settings first second →
    Agree classFile settings settings (operation first) (operation second)

section Forgetful

variable {ε α β : Type}

instance forgetful_pure (value : α) : Forgetful (pure value : EStateM ε Thread α) where
  agree twins := ⟨rfl, twins⟩

instance forgetful_bind (first : EStateM ε Thread α) (next : α → EStateM ε Thread β)
    [Forgetful first] [∀ value, Forgetful (next value)] : Forgetful (first >>= next) where
  agree {classFile settings thread other} twins := by
    have head : Agree classFile settings settings (first thread) (first other) :=
      Forgetful.agree twins
    cases outcome : first thread with
    | ok value between =>
      rw [outcome] at head
      obtain ⟨otherBetween, other_outcome, twins⟩ := head.ok
      rw [bind_of_ok outcome, bind_of_ok other_outcome]
      exact Forgetful.agree twins
    | error error between =>
      rw [outcome] at head
      obtain ⟨otherBetween, other_outcome, twins⟩ := head.error
      rw [bind_of_error outcome, bind_of_error other_outcome]
      exact ⟨rfl, twins⟩

instance forgetful_step : Forgetful step where
  agree twins := agree_step twins rfl

instance forgetful_invoke (name descriptor : String) (arguments : List Cell) :
    Forgetful (invoke name descriptor arguments) where
  agree twins := agree_invoke twins rfl

instance forgetful_runFor (steps : Nat) : Forgetful (runFor steps) := by
  induction steps with
  | zero => exact forgetful_pure none
  | succ steps inductionHypothesis =>
    refine @forgetful_bind _ _ _ step _ _ fun outcome => ?_
    cases outcome with
    | running => exact inductionHypothesis
    | finished value => exact forgetful_pure (some value)

instance forgetful_invokeAndRunFor (steps : Nat) (name descriptor : String)
    (arguments : List Cell) : Forgetful (invokeAndRunFor steps name descriptor arguments) :=
  forgetful_bind _ _

end Forgetful

/-- What a thread answers to a call that succeeds. -/
inductive Answer where
  | entered
  | stepped (outcome : StepOutcome)
  /-- The run ended with this value, or had not ended when it was looked at. -/
  | ran (value : Option (Option Cell))

def ask : Call → EStateM ExecutionError Thread Answer
  | .invoke name descriptor arguments => do
    invoke name descriptor arguments
    pure .entered
  | .step => do
    let outcome ← step
    pure (.stepped outcome)
  | .run steps => do
    let value ← runFor steps
    pure (.ran value)
  | .invokeAndRun steps name descriptor arguments => do
    let value ← invokeAndRunFor steps name descriptor arguments
    pure (.ran value)

theorem state_ask (call : Call) (thread : Thread) :
    state (ask call thread) = thread.perform call := by
  have kept {α : Type} (operation : EStateM ExecutionError Thread α) (answer : α → Answer) :
      state ((operation >>= fun value => pure (answer value)) thread) =
        state (operation thread) := by
    cases outcome : operation thread with
    | ok value after => exact congrArg state (bind_of_ok outcome)
    | error error after => exact congrArg state (bind_of_error outcome)
  cases call with
  | invoke name descriptor arguments => exact kept _ fun _ => .entered
  | step => exact kept _ .stepped
  | run steps => exact kept _ .ran
  | invokeAndRun steps name descriptor arguments => exact kept _ .ran

instance forgetful_ask (call : Call) : Forgetful (ask call) := by
  cases call <;> exact forgetful_bind _ _

/-- The answers and errors that come of these calls, each with the frames that the thread then has.
-/
def transcript (thread : Thread) : List Call → List (Except ExecutionError Answer × FrameStack)
  | [] => []
  | call :: calls =>
    (result (ask call thread), (thread.perform call).frames) ::
      (thread.perform call).transcript calls

theorem Twins.transcript_eq {classFile : ClassFile} {settings : Settings} {first second : Thread}
    (twins : Twins classFile settings settings first second) (calls : List Call) :
    first.transcript calls = second.transcript calls := by
  induction calls generalizing first second with
  | nil => rfl
  | cons call calls inductionHypothesis =>
    obtain ⟨result_eq, after⟩ := (forgetful_ask call).agree twins
    rw [state_ask, state_ask] at after
    unfold transcript
    rw [result_eq, after.frames_eq, inductionHypothesis after]

/-- A thread that has no frames left answers all calls, and has the frames after each of them, as a
new thread of the same class and settings does. -/
theorem reusable_without_frames {classFile : ClassFile} {settings : Settings} {history : List Call}
    (idle : (after classFile settings history).frames = []) (calls : List Call) :
    (after classFile settings history).transcript calls =
      (new classFile settings).transcript calls := by
  have used : Reachable classFile settings (after classFile settings history) := ⟨history, rfl⟩
  have unused : Reachable classFile settings (new classFile settings) := ⟨[], rfl⟩
  exact (used.twins unused idle).transcript_eq calls

/-- The class `answering` with a second method, `f:(I)I`, whose code has no local variable for its
argument. -/
def answeringOrCramped : ClassFile :=
  { answering with
    constants := .ofList [.utf8 [67, 111, 100, 101], .utf8 [102], .utf8 [40, 41, 73],
      .utf8 [40, 73, 41, 73]]
    methods := answering.methods ++ answering.methods.map fun method =>
      { method with descriptor := 4 } }

/-- An invocation that fails and one that returns both leave code behind, but no frame. -/
def usedHistory : List Call := [.invoke "f" "(I)I" [.narrow 1], .invokeAndRun 5 "f" "()I" []]

theorem reusable_without_frames_used :
    (after answeringOrCramped ⟨1, false⟩ usedHistory).codeCache.length = 2 ∧
      (after answeringOrCramped ⟨1, false⟩ usedHistory).transcript usedHistory =
        (new answeringOrCramped ⟨1, false⟩).transcript usedHistory := by
  have cached : (after answeringOrCramped ⟨1, false⟩ usedHistory).codeCache.length = 2 := by cbv
  have gone : (after answeringOrCramped ⟨1, false⟩ usedHistory).frames.length = 0 := by cbv
  exact ⟨cached, reusable_without_frames (List.length_eq_zero_iff.mp gone) usedHistory⟩

end ClassMachine.Thread
