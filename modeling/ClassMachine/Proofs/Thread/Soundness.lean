import ClassMachine.Proofs.Frame.Bounds
import ClassMachine.Proofs.Thread.Entry
import ClassMachine.Proofs.Thread.FrameStack
import ClassMachine.Proofs.Thread.History

set_option autoImplicit false

/-!
# What is true of every thread

However a thread is used, it has no more frames than its settings allow, each of its frames runs the
code of a method of the class within the room that this code asks for, and the code that the thread
keeps is what decoding would give.
-/

namespace ClassMachine

open Outcome

namespace Frame

/-- The frame runs a method of this class, within what the code of the method asks for. -/
structure Runs (classFile : ClassFile) (frame : Frame) : Prop where
  hasCode : classFile.HasCode frame.methodIndex frame.code
  withinCode : frame.WithinCode

theorem KeepsCode.runs {classFile : ClassFile} {before after : Frame}
    (kept : KeepsCode before after) (runs : before.Runs classFile) : after.Runs classFile := by
  obtain ⟨methodIndex_eq, code_eq, within⟩ := kept
  refine ⟨?_, within runs.withinCode⟩
  rw [methodIndex_eq, code_eq]
  exact runs.hasCode

theorem runs_newFrame {classFile : ClassFile} {methodIndex : Nat} {arguments : List Cell}
    {frame : Frame} (made : classFile.newFrame methodIndex arguments = .ok frame) :
    frame.Runs classFile := by
  obtain ⟨code, accepts, rfl⟩ := ClassFile.newFrame_eq_ok.mp made
  have entered := withinCode_enter methodIndex code
  exact
    { hasCode := accepts.hasCode
      withinCode :=
        { pc_le := entered.pc_le
          capacity_eq := entered.capacity_eq
          depth_le := entered.depth_le
          size_eq := LocalVariables.size_holding accepts.fits } }

end Frame

namespace FrameStack

/-- There are not too many frames, and each of them runs a method of the class. -/
structure Sound (classFile : ClassFile) (limit : Nat) (frames : FrameStack) : Prop where
  length_le : frames.length ≤ limit
  runs : ∀ frame ∈ frames, frame.Runs classFile

section Operations

variable {classFile : ClassFile} {limit : Nat}

theorem Sound.tail {frame : Frame} {callers : FrameStack}
    (sound : Sound classFile limit (frame :: callers)) : Sound classFile limit callers where
  length_le := Nat.le_of_succ_le sound.length_le
  runs := (List.forall_mem_cons.mp sound.runs).2

theorem Sound.replaceTop {frame changed : Frame} {callers : FrameStack}
    (sound : Sound classFile limit (frame :: callers)) (kept : Frame.KeepsCode frame changed) :
    Sound classFile limit (changed :: callers) where
  length_le := sound.length_le
  runs := by
    obtain ⟨top, others⟩ := List.forall_mem_cons.mp sound.runs
    exact List.forall_mem_cons.mpr ⟨kept.runs top, others⟩

theorem Sound.onTop {α : Type} {frame : Frame} {callers : FrameStack}
    (sound : Sound classFile limit (frame :: callers)) (operation : EStateM Fault Frame α)
    [Respects Frame.KeepsCode operation] :
    Sound classFile limit (state (FrameStack.onTop operation frame callers)) := by
  rw [state_onTop]
  exact sound.replaceTop (Respects.related frame)

instance respects_enter (methodIndex : Nat) (arguments : List Cell) :
    Respects (Keeps (Sound classFile limit)) (enter classFile limit methodIndex arguments) where
  related frames sound := by
    unfold enter
    split
    next => exact sound
    next room =>
      split
      next => exact sound
      next frame made =>
        exact
          { length_le := Nat.succ_le_of_lt (Nat.lt_of_not_le room)
            runs := List.forall_mem_cons.mpr ⟨Frame.runs_newFrame made, sound.runs⟩ }

instance respects_start (name descriptor : String) (arguments : List Cell) :
    Respects (Keeps (Sound classFile limit)) (start classFile limit name descriptor arguments) where
  related frames sound := by
    unfold start
    split
    next => exact sound
    next => exact sound
    next methodIndex _ => exact (respects_enter methodIndex arguments).keeps sound

instance respects_popArguments (count : Nat) :
    Respects (Keeps (Sound classFile limit)) (popArguments count) where
  related frames sound := by
    cases frames with
    | nil => exact sound
    | cons frame callers => exact sound.onTop _

instance respects_call (index : ConstantIndex) :
    Respects (Keeps (Sound classFile limit)) (call classFile limit index) := by
  unfold call
  infer_instance

instance respects_deliver (value : Option Cell) :
    Respects (Keeps (Sound classFile limit)) (deliver value) where
  related callers sound := by
    cases callers with
    | nil => exact sound
    | cons caller others =>
      cases value with
      | none => exact sound
      | some cell => exact state_bind (sound.onTop _) fun _ => respects_pure StepOutcome.running

instance respects_leave (value : Option Cell) :
    Respects (Keeps (Sound classFile limit)) (leave value) where
  related frames sound := by
    cases frames with
    | nil => exact sound
    | cons frame callers => exact (respects_deliver value).keeps sound.tail

instance respects_respond (control : Control) :
    Respects (Keeps (Sound classFile limit)) (respond classFile limit control) := by
  cases control <;> unfold respond <;> infer_instance

/-- One instruction keeps the frames sound, whatever comes of it. -/
instance respects_advance :
    Respects (Keeps (Sound classFile limit)) (advance classFile limit) where
  related frames sound := by
    cases frames with
    | nil => exact sound
    | cons frame callers => exact state_bind (sound.onTop _) respects_respond

end Operations

end FrameStack

namespace Thread

/-- The thread has room for its frames, its frames have room for what they hold, and all code is
that of a method of the class. -/
structure Sound (thread : Thread) : Prop where
  depth_le : thread.depth ≤ thread.settings.maxCallDepth
  methodIndex_lt : ∀ frame ∈ thread.frames,
    frame.methodIndex < thread.classFile.methods.length
  hasCode : ∀ frame ∈ thread.frames, thread.classFile.HasCode frame.methodIndex frame.code
  pc_le : ∀ frame ∈ thread.frames, frame.pc ≤ frame.code.instructions.length
  stack_depth_eq : ∀ frame ∈ thread.frames, frame.stack.depth = totalWidth frame.stack.cells
  stack_depth_le : ∀ frame ∈ thread.frames, frame.stack.depth ≤ frame.code.maxStack.toNat
  locals_size_eq : ∀ frame ∈ thread.frames, frame.locals.size = frame.code.maxLocals.toNat
  cache_hasCode : ∀ entry ∈ thread.codeCache, thread.classFile.HasCode entry.1 entry.2

theorem sound_of_steady {classFile : ClassFile} {settings : Settings} {thread : Thread}
    (steady : thread.Steady classFile settings)
    (frames_sound : FrameStack.Sound classFile settings.maxCallDepth thread.frames) :
    thread.Sound := by
  obtain rfl := steady.classFile_eq
  obtain rfl := steady.settings_eq
  have runs := frames_sound.runs
  exact
    { depth_le := frames_sound.length_le
      methodIndex_lt := fun frame member => (runs frame member).hasCode.methodIndex_lt
      hasCode := fun frame member => (runs frame member).hasCode
      pc_le := fun frame member => (runs frame member).withinCode.pc_le
      stack_depth_eq := fun frame _ => frame.stack.depth_eq
      stack_depth_le := fun frame member => by
        rw [← (runs frame member).withinCode.capacity_eq]
        exact (runs frame member).withinCode.depth_le
      locals_size_eq := fun frame member => (runs frame member).withinCode.size_eq
      cache_hasCode := steady.cache_sound }

theorem Reachable.frames_sound {classFile : ClassFile} {settings : Settings} {thread : Thread}
    (reachable : Reachable classFile settings thread) :
    FrameStack.Sound classFile settings.maxCallDepth thread.frames := by
  obtain ⟨calls, rfl⟩ := reachable
  exact (frames_induction (FrameStack.Sound classFile settings.maxCallDepth)
    ⟨Nat.zero_le _, by simp⟩ FrameStack.respects_start FrameStack.respects_advance calls).2

/-- Every thread is sound, and still has the class and the settings that it was made with. -/
theorem sound_after (classFile : ClassFile) (settings : Settings) (calls : List Call) :
    (after classFile settings calls).classFile = classFile ∧
      (after classFile settings calls).settings = settings ∧
      (after classFile settings calls).Sound := by
  have reachable : Reachable classFile settings (after classFile settings calls) := ⟨calls, rfl⟩
  have steady := reachable.steady
  exact ⟨steady.classFile_eq, steady.settings_eq, sound_of_steady steady reachable.frames_sound⟩

end Thread

end ClassMachine
