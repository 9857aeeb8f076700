import ClassMachine.Cli.Run
import ClassMachine.Proofs.Cli.Argument
import ClassMachine.Proofs.Descriptor.Grammar
import ClassMachine.Proofs.Thread.Resolution

set_option autoImplicit false

/-!
# Requests fit the methods that they ask for

The arguments of a request are read as the types of the descriptor that the request spells. When the
method is entered, they are checked against the descriptor that the class spells for it. The method
was found by its descriptor, so both are the same text. A request that is understood is therefore
never refused for its arguments if the method is static; one that runs on an object asks for that
object too, which no request has.
-/

namespace ClassMachine

open Outcome

namespace Cli

section Split

variable {character : Char} {text name descriptor : List Char}

theorem splitMethod_cons (character : Char) (text : List Char) :
    splitMethod (character :: text) =
      if character = ':' ∧ text.head? = some '(' then some ([], text)
      else (splitMethod text).map fun (name, descriptor) => (character :: name, descriptor) := by
  rw [splitMethod.eq_def]
  split
  next rest text_eq =>
    cases text_eq
    simp
  next other rest elsewhere text_eq =>
    cases text_eq
    rw [if_neg]
    intro here
    obtain ⟨colon, opens⟩ := here
    obtain ⟨rest, rfl⟩ := List.head?_eq_some_iff.mp opens
    exact elsewhere rest colon rfl
  next text_eq => cases text_eq

theorem opens_within_cons :
    [':', '('] <:+: character :: name ↔
      character = ':' ∧ name.head? = some '(' ∨ [':', '('] <:+: name := by
  rw [List.infix_cons_iff, List.cons_prefix_cons, eq_comm]
  cases name <;> simp [@eq_comm _ '(']

theorem head?_append_cons :
    (name ++ ':' :: descriptor).head? = some '(' ↔ name.head? = some '(' := by
  cases name <;> simp

/-- The text is a name, a colon and a descriptor, which starts at the first parenthesis after a
colon. -/
def Splits (text name descriptor : List Char) : Prop :=
  text = name ++ ':' :: descriptor ∧ descriptor.head? = some '(' ∧ ¬[':', '('] <:+: name

theorem splits_nil :
    Splits (character :: text) [] descriptor ↔
      (character = ':' ∧ text.head? = some '(') ∧ text = descriptor := by
  unfold Splits
  constructor
  · intro splits
    obtain ⟨text_eq, opens, -⟩ := splits
    obtain ⟨rfl, rfl⟩ := List.cons.inj text_eq
    exact ⟨⟨rfl, opens⟩, rfl⟩
  · intro here
    obtain ⟨⟨rfl, opens⟩, rfl⟩ := here
    exact ⟨rfl, opens, by simp⟩

theorem splits_cons {first : Char} :
    Splits (character :: text) (first :: name) descriptor ↔
      ¬(character = ':' ∧ text.head? = some '(') ∧ character = first ∧
        Splits text name descriptor := by
  unfold Splits
  rw [opens_within_cons, List.cons_append, List.cons.injEq, not_or]
  constructor
  · intro splits
    obtain ⟨⟨rfl, rfl⟩, opens, elsewhere, free⟩ := splits
    rw [head?_append_cons]
    exact ⟨elsewhere, rfl, rfl, opens, free⟩
  · intro later
    obtain ⟨elsewhere, rfl, rfl, opens, free⟩ := later
    rw [head?_append_cons] at elsewhere
    exact ⟨⟨rfl, rfl⟩, opens, elsewhere, free⟩

theorem splitMethod_eq_some :
    splitMethod text = some (name, descriptor) ↔ Splits text name descriptor := by
  induction text generalizing name with
  | nil => simp [splitMethod, Splits]
  | cons character text inductionHypothesis =>
    rw [splitMethod_cons]
    by_cases here : character = ':' ∧ text.head? = some '('
    · rw [if_pos here]
      cases name with
      | nil => simp [splits_nil, here]
      | cons first name => simp [splits_cons, here]
    · rw [if_neg here]
      cases name with
      | nil => simp [splits_nil, here]
      | cons first name => simp [splits_cons, here, ← inductionHypothesis, and_comm]

end Split

/-- Texts are read as types, one by one. -/
inductive ReadAs : List String → List FieldType → List Cell → Prop where
  | nil : ReadAs [] [] []
  | cons {text : String} {type : FieldType} {cell : Cell} {texts : List String}
    {types : List FieldType} {cells : List Cell} (head : parseArgument text type = some cell)
    (tail : ReadAs texts types cells) : ReadAs (text :: texts) (type :: types) (cell :: cells)

theorem parseArguments_eq_ok {texts : List String} {types : List FieldType} {cells : List Cell} :
    texts.length = types.length ∧ parseArguments texts types = .ok cells ↔
      ReadAs texts types cells := by
  constructor
  · intro read
    obtain ⟨counted, parsed⟩ := read
    induction texts generalizing types cells with
    | nil =>
      obtain rfl := List.length_eq_zero_iff.mp counted.symm
      cases parsed
      exact .nil
    | cons text texts inductionHypothesis =>
      obtain ⟨type, others, rfl⟩ := List.exists_cons_of_length_eq_add_one counted.symm
      rw [parseArguments] at parsed
      split at parsed
      next => cases parsed
      next cell head =>
        obtain ⟨rest, tail, rfl⟩ := except_map_eq_ok.mp parsed
        exact .cons head (inductionHypothesis (Nat.succ_inj.mp counted) tail)
  · intro read
    induction read with
    | nil => exact ⟨rfl, rfl⟩
    | cons head tail inductionHypothesis =>
      obtain ⟨counted, parsed⟩ := inductionHypothesis
      exact ⟨congrArg (· + 1) counted, by simp [parseArguments, head, parsed, Except.map]⟩

theorem ReadAs.map_width {texts : List String} {types : List FieldType} {cells : List Cell}
    (read : ReadAs texts types cells) : cells.map width = types.map FieldType.width := by
  induction read with
  | nil => rfl
  | cons head tail inductionHypothesis =>
    rw [List.map_cons, List.map_cons, inductionHypothesis, width_of_parseArgument head]
    rfl

namespace Invocation

/-- The request asks for this: its text is a name, a colon and a descriptor, which starts at the
first parenthesis after a colon, and its arguments are values of the types of the parameters. -/
structure Answers (invocation : Invocation) (method : String) (arguments : List String) : Prop where
  method_eq : method = invocation.name ++ ":" ++ invocation.descriptor
  first : ¬[':', '('] <:+: invocation.name.toList
  typed : MethodDescriptor.parse invocation.descriptor = .ok invocation.type
  read : ReadAs arguments invocation.type.parameters invocation.arguments

theorem ofRequest_eq_ok {method : String} {arguments : List String} {invocation : Invocation} :
    ofRequest method arguments = .ok invocation ↔ invocation.Answers method arguments := by
  unfold ofRequest
  constructor
  · intro understood
    split at understood
    next => cases understood
    next name descriptor split =>
      obtain ⟨text_eq, -, free⟩ := splitMethod_eq_some.mp split
      dsimp only at understood
      split at understood
      next => cases understood
      next type typed =>
        split at understood
        next => cases understood
        next counted =>
          obtain ⟨cells, parsed, rfl⟩ := except_map_eq_ok.mp understood
          exact
            { method_eq := by
                apply String.toList_inj.mp
                simp [text_eq]
              first := by rwa [String.toList_ofList]
              typed
              read := parseArguments_eq_ok.mp ⟨not_not.mp counted, parsed⟩ }
  · intro answers
    obtain ⟨method_eq, free, typed, read⟩ := answers
    have split : splitMethod method.toList =
        some (invocation.name.toList, invocation.descriptor.toList) := by
      apply splitMethod_eq_some.mpr
      refine ⟨by simp [method_eq], ?_, free⟩
      obtain ⟨-, text_eq⟩ :=
        MethodDescriptor.reader_eq_ok.mp (DescriptorReader.parse_eq_ok.mp typed)
      rw [text_eq]
      rfl
    obtain ⟨counted, parsed⟩ := parseArguments_eq_ok.mpr read
    rw [split]
    dsimp only
    rw [String.ofList_toList, typed]
    dsimp only
    rw [if_neg (not_not.mpr counted), parsed]
    simp [Except.map]

end Invocation

end Cli

namespace FrameStack

/-- A method is found by its descriptor, so what fits this descriptor fits the method. -/
theorem not_refusesArguments_of_start {classFile : ClassFile} {limit position : Nat}
    {name descriptor : String} {arguments : List Cell} {method : Method} {type : MethodDescriptor}
    {frames after : FrameStack} {fault : Fault}
    (first : Method.IsFirst classFile.constants name descriptor classFile.methods position method)
    (static : method.isStatic) (typed : MethodDescriptor.parse descriptor = .ok type)
    (fits : arguments.map width = type.parameters.map FieldType.width)
    (failed : start classFile limit name descriptor arguments frames = .error fault after) :
    ¬fault.RefusesArguments := by
  unfold start at failed
  split at failed
  next =>
    cases failed
    nofun
  next =>
    cases failed
    nofun
  next methodIndex sought =>
    obtain ⟨called, found_first⟩ := Method.findIndex_eq_some.mp sought
    obtain ⟨rfl, rfl⟩ := first.unique found_first.isFirst
    rcases cause_of_enter failed with rfl | refused
    · nofun
    · have spelled := ConstantPool.utf8_eq_ok.mpr first.matched.described
      have method_typed : method.type classFile.constants = .ok type :=
        except_bind_eq_ok.mpr ⟨descriptor, spelled, typed⟩
      apply ClassFile.not_refusesArguments_of_newFrame first.found method_typed _ refused
      rw [static]
      exact fits

end FrameStack

namespace Cli

/-- A text is read as a type only if it becomes a cell that is as wide as the type. A request is
understood exactly if it is split into a name and a descriptor that is one, and has as many arguments
as this descriptor has parameters, each of which is read as the type of its parameter. Where the
first method with this name and descriptor is static, a new thread on which it is invoked does not
refuse the number or the widths of these arguments, whatever else may be wrong. -/
theorem requests_fit_methods :
    (∀ raw type cell, parseArgument raw type = some cell → width cell = width type) ∧
    ∀ method arguments invocation,
      (Invocation.ofRequest method arguments = .ok invocation ↔
        invocation.Answers method arguments) ∧
      (Invocation.ofRequest method arguments = .ok invocation →
        ∀ classFile settings position found,
          Method.IsFirst classFile.constants invocation.name invocation.descriptor
            classFile.methods position found →
          found.isStatic → ∀ error after,
            Thread.invoke invocation.name invocation.descriptor invocation.arguments
              (.new classFile settings) = .error error after →
            ¬error.fault.RefusesArguments) := by
  refine ⟨fun raw type cell => width_of_parseArgument, fun method arguments invocation => ?_⟩
  refine ⟨Invocation.ofRequest_eq_ok, ?_⟩
  intro understood classFile settings position found first static error after failed
  obtain ⟨-, -, typed, read⟩ := Invocation.ofRequest_eq_ok.mp understood
  have reachable : Thread.Reachable classFile settings (.new classFile settings) := ⟨[], rfl⟩
  have mirrors := Thread.mirrors_invoke reachable.steady invocation.name invocation.descriptor
    invocation.arguments
  rw [failed] at mirrors
  have start_failed := mirrors.frames_eq.symm
  exact FrameStack.not_refusesArguments_of_start first static typed read.map_width start_failed

/-- A method of a `long` and an `int` is asked for where there may be no frame: the request is
refused, but not for its arguments. -/
theorem requests_fit_methods_without_frames :
    ∃ invocation position found error after,
      Invocation.ofRequest "f:(JI)V" ["-1", "3"] = .ok invocation ∧
      invocation.arguments = [.wide 0xFFFFFFFFFFFFFFFF, .narrow 3] ∧
      Method.IsFirst Thread.recursing.constants invocation.name invocation.descriptor
        Thread.recursing.methods position found ∧
      found.isStatic ∧
      Thread.invoke invocation.name invocation.descriptor invocation.arguments
        (.new Thread.recursing ⟨0, false⟩) = .error error after ∧
      ¬error.fault.RefusesArguments := by
  have understood : Invocation.ofRequest "f:(JI)V" ["-1", "3"] =
      .ok ⟨"f", "(JI)V", ⟨[.base .long, .base .int], none⟩,
        [.wide 0xFFFFFFFFFFFFFFFF, .narrow 3]⟩ := by cbv
  have sought : Thread.recursing.findMethodIndex "f" "(JI)V" = .ok (some 0) := by cbv
  obtain ⟨found, first⟩ := Method.findIndex_eq_some.mp sought
  have static : Thread.recursing.methods[0]?.any Method.isStatic := by cbv
  rw [first.found] at static
  have failed : Thread.invoke "f" "(JI)V" [.wide 0xFFFFFFFFFFFFFFFF, .narrow 3]
      (.new Thread.recursing ⟨0, false⟩) =
        .error ⟨"f:(JI)V", 0, none, .callDepthExceeded 0⟩ (.new Thread.recursing ⟨0, false⟩) := by
    cbv
  have fits := (requests_fit_methods.2 _ _ _).2 understood Thread.recursing ⟨0, false⟩ 0 found
    first.isFirst static _ _ failed
  exact ⟨_, 0, found, _, _, understood, rfl, first.isFirst, static, failed, fits⟩

end Cli

end ClassMachine
