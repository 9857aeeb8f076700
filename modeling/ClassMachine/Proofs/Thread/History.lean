import ClassMachine.Proofs.Thread.FrameStack

set_option autoImplicit false

/-!
# What a thread can have been through

Whoever holds a thread can invoke methods, step and run, in any order and also after a failure. What
invoking and stepping preserve therefore holds of every thread that there is.
-/

namespace ClassMachine.Thread

open Outcome

/-- What can be asked of a thread. A run that is asked for may be looked at after any number of
steps. -/
inductive Call where
  | invoke (name descriptor : String) (arguments : List Cell)
  | step
  | run (steps : Nat)
  | invokeAndRun (steps : Nat) (name descriptor : String) (arguments : List Cell)

/-- The thread that a call leaves behind, whether it succeeds or fails. -/
def perform (thread : Thread) : Call → Thread
  | .invoke name descriptor arguments => state (invoke name descriptor arguments thread)
  | .step => state (step thread)
  | .run steps => state (runFor steps thread)
  | .invokeAndRun steps name descriptor arguments =>
    state (invokeAndRunFor steps name descriptor arguments thread)

def after (classFile : ClassFile) (settings : Settings) (calls : List Call) : Thread :=
  calls.foldl perform (new classFile settings)

/-- Some calls lead to this thread. -/
def Reachable (classFile : ClassFile) (settings : Settings) (thread : Thread) : Prop :=
  ∃ calls, thread = after classFile settings calls

theorem Reachable.perform {classFile : ClassFile} {settings : Settings} {thread : Thread}
    (reachable : Reachable classFile settings thread) (call : Call) :
    Reachable classFile settings (thread.perform call) := by
  obtain ⟨calls, rfl⟩ := reachable
  exact ⟨calls ++ [call], by simp [after]⟩

section Relation

variable {relation : Thread → Thread → Prop} [Chain relation]

theorem respects_runFor [Respects relation step] (steps : Nat) :
    Respects relation (runFor steps) := by
  induction steps with
  | zero => exact respects_pure none
  | succ steps inductionHypothesis =>
    refine @respects_bind _ _ _ _ _ _ step _ _ fun outcome => ?_
    cases outcome with
    | running => exact inductionHypothesis
    | finished value => exact respects_pure (some value)

theorem related_perform
    (invoked : ∀ name descriptor arguments,
      Respects relation (invoke name descriptor arguments))
    (stepped : Respects relation step) (thread : Thread) (call : Call) :
    relation thread (thread.perform call) := by
  have ran (steps : Nat) : Respects relation (runFor steps) := respects_runFor steps
  cases call with
  | invoke name descriptor arguments => exact (invoked name descriptor arguments).related thread
  | step => exact stepped.related thread
  | run steps => exact (ran steps).related thread
  | invokeAndRun steps name descriptor arguments =>
    have first := invoked name descriptor arguments
    exact (respects_bind (invoke name descriptor arguments) fun _ => runFor steps).related thread

theorem related_after
    (invoked : ∀ name descriptor arguments,
      Respects relation (invoke name descriptor arguments))
    (stepped : Respects relation step) (classFile : ClassFile) (settings : Settings)
    (calls : List Call) :
    relation (new classFile settings) (after classFile settings calls) := by
  unfold after
  generalize new classFile settings = thread
  induction calls generalizing thread with
  | nil => exact Chain.refl thread
  | cons call calls inductionHypothesis =>
    exact Chain.trans (related_perform invoked stepped thread call) (inductionHypothesis _)

end Relation

theorem after_induction (property : Thread → Prop) {classFile : ClassFile} {settings : Settings}
    (initial : property (new classFile settings))
    (invoked : ∀ name descriptor arguments,
      Respects (Keeps property) (invoke name descriptor arguments))
    (stepped : Respects (Keeps property) step) (calls : List Call) :
    property (after classFile settings calls) := by
  have kept : Keeps property (new classFile settings) (after classFile settings calls) :=
    related_after invoked stepped classFile settings calls
  exact kept initial

section Frames

variable {classFile : ClassFile} {settings : Settings} {property : FrameStack → Prop}

theorem respects_of_mirrors {ε α : Type} {cause : ε → Fault} {operation : EStateM ε Thread α}
    {bare : EStateM Fault FrameStack α} (kept : Respects (Keeps property) bare)
    (mirrors : ∀ thread, thread.Steady classFile settings →
      Mirrors classFile settings cause (operation thread) (bare thread.frames)) :
    Respects (Keeps fun thread => thread.Steady classFile settings ∧ property thread.frames)
      operation where
  related thread := by
    rintro ⟨steady, holds⟩
    have mirrored := mirrors thread steady
    refine ⟨mirrored.steady, ?_⟩
    rw [mirrored.frames_state]
    exact kept.keeps holds

/-- What starting a method and executing an instruction preserve on the frames alone holds of the
frames of every thread. -/
theorem frames_induction (property : FrameStack → Prop) (initial : property [])
    (started : ∀ name descriptor arguments, Respects (Keeps property)
      (FrameStack.start classFile settings.maxCallDepth name descriptor arguments))
    (advanced : Respects (Keeps property)
      (FrameStack.advance classFile settings.maxCallDepth)) (calls : List Call) :
    (after classFile settings calls).Steady classFile settings ∧
      property (after classFile settings calls).frames := by
  refine after_induction
    (fun thread => thread.Steady classFile settings ∧ property thread.frames)
    ⟨⟨rfl, rfl, by simp [new]⟩, initial⟩ ?_ ?_ calls
  · intro name descriptor arguments
    exact respects_of_mirrors (started name descriptor arguments) fun thread steady =>
      mirrors_invoke steady name descriptor arguments
  · exact respects_of_mirrors advanced fun thread steady => mirrors_step steady

theorem Reachable.steady {thread : Thread} (reachable : Reachable classFile settings thread) :
    thread.Steady classFile settings := by
  obtain ⟨calls, rfl⟩ := reachable
  exact (frames_induction (fun _ => True) trivial (fun _ _ _ => ⟨fun _ => id⟩) ⟨fun _ => id⟩ calls).1

end Frames

end ClassMachine.Thread
