import ClassMachine.Descriptor.Parser
import ClassMachine.Proofs.Outcome

set_option autoImplicit false

/-!
# Descriptors are read exactly as they are written

Each reader takes the written form of a valid type off the front of a text, and takes nothing else.
No written form can be continued to another one, so a text has at most one reading and what follows
it is never looked at. A whole text is therefore accepted exactly if it is the written form of a
valid descriptor, and refused as a bad one otherwise.
-/

namespace ClassMachine

open Outcome (except_bind_eq_ok)

namespace DescriptorReader

variable {α β : Type} {text rest : List Char}

theorem bind_eq_ok {first : DescriptorReader α} {next : α → DescriptorReader β} {result : β} :
    (first >>= next) text = .ok (result, rest) ↔
      ∃ value between, first text = .ok (value, between) ∧
        next value between = .ok (result, rest) := by
  change (first text >>= fun read => next read.1 read.2) = _ ↔ _
  rw [except_bind_eq_ok, Prod.exists]

theorem pure_eq_ok {value result : α} :
    (pure value : DescriptorReader α) text = .ok (result, rest) ↔ value = result ∧ text = rest := by
  change Except.ok (value, text) = _ ↔ _
  rw [Except.ok.injEq, Prod.mk.injEq]

theorem parse_eq_ok {reader : DescriptorReader α} {source : String} {result : α} :
    parse reader source = .ok result ↔ reader source.toList = .ok (result, []) := by
  unfold parse
  split
  next read => simp [read]
  next read => simp [read]
  next read => simp [read]

theorem exists_badDescriptor_iff {reader : DescriptorReader α} {source : String} :
    (∃ reason, parse reader source = .error (.badDescriptor reason)) ↔
      ∀ result, parse reader source ≠ .ok result := by
  unfold parse
  split <;> simp

end DescriptorReader

open DescriptorReader

theorem BaseType.ofLetter?_eq_some {letter : Char} {base : BaseType} :
    BaseType.ofLetter? letter = some base ↔ letter = base.letter := by
  constructor
  · intro found
    unfold BaseType.ofLetter? at found
    split at found <;> cases found <;> rfl
  · rintro rfl
    exact base.ofLetter?_letter

namespace FieldType

section ArrayOf

variable (count : Nat) (type : FieldType)

theorem render_arrayOf : (arrayOf count type).render = List.replicate count '[' ++ type.render := by
  induction count with
  | zero => rfl
  | succ count inductionHypothesis =>
    rw [arrayOf, render, inductionHypothesis, List.replicate_succ, List.cons_append]

theorem dimensions_arrayOf : (arrayOf count type).dimensions = type.dimensions + count := by
  induction count with
  | zero => rfl
  | succ count inductionHypothesis => rw [arrayOf, dimensions, inductionHypothesis, Nat.add_assoc]

theorem hasValidNames_arrayOf : (arrayOf count type).HasValidNames ↔ type.HasValidNames := by
  induction count with
  | zero => rfl
  | succ count inductionHypothesis => exact inductionHypothesis

theorem arrayOf_innermost : arrayOf type.dimensions type.innermost = type := by
  induction type with
  | base type => rfl
  | object name => rfl
  | array element inductionHypothesis => exact congrArg array inductionHypothesis

theorem dimensions_innermost : type.innermost.dimensions = 0 := by
  induction type with
  | base type => rfl
  | object name => rfl
  | array element inductionHypothesis => exact inductionHypothesis

end ArrayOf

theorem dimensionsReader_of_stop {text : List Char} (stops : text.head? ≠ some '[') (start : Nat) :
    dimensionsReader start text = .ok (start, text) :=
  dimensionsReader.eq_2 start text fun rest text_eq => stops (by rw [text_eq]; rfl)

theorem dimensionsReader_replicate {rest : List Char} (stops : rest.head? ≠ some '[') (more : Nat)
    {start : Nat} (few : start ≤ maxDimensions) :
    dimensionsReader start (List.replicate more '[' ++ rest) =
      if start + more ≤ maxDimensions then .ok (start + more, rest)
      else .error .tooManyDimensions := by
  induction more generalizing start with
  | zero =>
    rw [Nat.add_zero, if_pos few]
    exact dimensionsReader_of_stop stops start
  | succ more inductionHypothesis =>
    rw [List.replicate_succ, List.cons_append, dimensionsReader]
    split
    next room => rw [inductionHypothesis room, Nat.succ_add_eq_add_succ]
    next full => rw [if_neg (by omega)]

theorem exists_replicate_append (text : List Char) :
    ∃ count rest, text = List.replicate count '[' ++ rest ∧ rest.head? ≠ some '[' := by
  induction text with
  | nil => exact ⟨0, [], rfl, nofun⟩
  | cons letter text inductionHypothesis =>
    by_cases bracket : letter = '['
    · obtain ⟨count, rest, text_eq, stops⟩ := inductionHypothesis
      refine ⟨count + 1, rest, ?_, stops⟩
      rw [List.replicate_succ, List.cons_append, ← text_eq, bracket]
    · exact ⟨0, letter :: text, rfl, fun equal => bracket (Option.some.inj equal)⟩

theorem dimensionsReader_eq_ok {text rest : List Char} {count : Nat} :
    dimensionsReader 0 text = .ok (count, rest) ↔
      count ≤ maxDimensions ∧ text = List.replicate count '[' ++ rest ∧ rest.head? ≠ some '[' := by
  constructor
  · intro read
    obtain ⟨found, others, rfl, stops⟩ := exists_replicate_append text
    rw [dimensionsReader_replicate stops found (Nat.zero_le _), Nat.zero_add] at read
    split at read
    next few =>
      cases read
      exact ⟨few, rfl, stops⟩
    next => cases read
  · rintro ⟨few, rfl, stops⟩
    rw [dimensionsReader_replicate stops count (Nat.zero_le _), Nat.zero_add, if_pos few]

theorem classReader_append {name rest : List Char} (free : ';' ∉ name) :
    classReader (name ++ ';' :: rest) =
      if name = [] then .error .emptyClassName else .ok (.object (String.ofList name), rest) := by
  have passed : ∀ letter ∈ name, decide (letter ≠ ';') = true := fun letter found =>
    decide_eq_true fun equal => free (equal ▸ found)
  have dropped : (name ++ ';' :: rest).dropWhile (· ≠ ';') = ';' :: rest :=
    List.dropWhile_append_of_pos passed
  have taken : (name ++ ';' :: rest).takeWhile (· ≠ ';') = name := by
    rw [List.takeWhile_append_of_pos passed]
    exact List.append_nil name
  unfold classReader
  rw [dropped, taken]
  cases name <;> rfl

theorem classReader_of_free {text : List Char} (free : ';' ∉ text) :
    classReader text = .error .unterminatedClassName := by
  have dropped : text.dropWhile (· ≠ ';') = [] := by
    rw [List.dropWhile_eq_nil_iff]
    exact fun letter found => decide_eq_true fun equal => free (equal ▸ found)
  unfold classReader
  rw [dropped]

theorem classReader_eq_ok {text rest : List Char} {type : FieldType} :
    classReader text = .ok (type, rest) ↔
      ∃ name, type = .object name ∧ (object name).HasValidNames ∧
        text = name.toList ++ ';' :: rest := by
  constructor
  · intro read
    by_cases ends : ';' ∈ text
    · obtain ⟨name, others, rfl, free⟩ := List.eq_append_cons_of_mem ends
      rw [classReader_append free] at read
      split at read
      next => cases read
      next nonempty =>
        cases read
        refine ⟨_, rfl, ?_, ?_⟩ <;> simp only [HasValidNames, String.toList_ofList]
        exact ⟨nonempty, free⟩
    · rw [classReader_of_free ends] at read
      cases read
  · rintro ⟨name, rfl, ⟨nonempty, free⟩, rfl⟩
    rw [classReader_append free, if_neg nonempty, String.ofList_toList]

theorem innermostReader_eq_ok {text rest : List Char} {type : FieldType} :
    innermostReader text = .ok (type, rest) ↔
      type.dimensions = 0 ∧ type.HasValidNames ∧ text = type.render ++ rest := by
  unfold innermostReader
  split
  next =>
    constructor
    · nofun
    · rintro ⟨-, -, text_eq⟩
      cases type <;> cases text_eq
  next others =>
    rw [classReader_eq_ok]
    constructor
    · rintro ⟨name, rfl, valid, rfl⟩
      exact ⟨rfl, valid, by simp [render]⟩
    · rintro ⟨flat, valid, text_eq⟩
      cases type with
      | base type => cases type <;> cases text_eq
      | object name => exact ⟨name, rfl, valid, by simpa [render] using text_eq⟩
      | array element => cases flat
  next letter others no_class =>
    constructor
    · intro read
      split at read
      next base found =>
        cases read
        exact ⟨rfl, trivial, by rw [BaseType.ofLetter?_eq_some.mp found]; rfl⟩
      next => cases read
    · rintro ⟨flat, valid, text_eq⟩
      cases type with
      | base base =>
        cases text_eq
        rw [base.ofLetter?_letter]
        rfl
      | object name =>
        cases text_eq
        exact (no_class rfl).elim
      | array element => cases flat

theorem head?_render_append {type : FieldType} (flat : type.dimensions = 0) (rest : List Char) :
    (type.render ++ rest).head? ≠ some '[' := by
  cases type with
  | base type => cases type <;> nofun
  | object name => nofun
  | array element => cases flat

theorem reader_eq_ok {text rest : List Char} {type : FieldType} :
    reader text = .ok (type, rest) ↔ type.Valid ∧ text = type.render ++ rest := by
  have read_iff : reader text = .ok (type, rest) ↔
      ∃ count element, (count ≤ maxDimensions ∧ element.dimensions = 0 ∧ element.HasValidNames) ∧
        text = List.replicate count '[' ++ (element.render ++ rest) ∧
        arrayOf count element = type := by
    unfold reader
    simp only [bind_eq_ok, dimensionsReader_eq_ok, innermostReader_eq_ok, pure_eq_ok]
    constructor
    · rintro ⟨count, _, ⟨few, rfl, -⟩, element, _, ⟨flat, valid, rfl⟩, rfl, rfl⟩
      exact ⟨count, element, ⟨few, flat, valid⟩, rfl, rfl⟩
    · rintro ⟨count, element, ⟨few, flat, valid⟩, rfl, rfl⟩
      exact ⟨count, _, ⟨few, rfl, head?_render_append flat rest⟩, element, _, ⟨flat, valid, rfl⟩,
        rfl, rfl⟩
  rw [read_iff]
  constructor
  · rintro ⟨count, element, ⟨few, flat, valid⟩, rfl, rfl⟩
    refine ⟨⟨(hasValidNames_arrayOf count element).mpr valid, ?_⟩, ?_⟩
    · rwa [dimensions_arrayOf, flat, Nat.zero_add]
    · rw [render_arrayOf, List.append_assoc]
  · rintro ⟨⟨valid, few⟩, rfl⟩
    have type_eq := arrayOf_innermost type
    refine ⟨type.dimensions, type.innermost, ⟨few, dimensions_innermost type, ?_⟩, ?_, type_eq⟩
    · rwa [← type_eq, hasValidNames_arrayOf] at valid
    · rw [← List.append_assoc, ← render_arrayOf, type_eq]

/-- No type can be taken for the end of the parameters or for a missing result. -/
theorem exists_render_eq_cons (type : FieldType) :
    ∃ letter rest, type.render = letter :: rest ∧ letter ≠ ')' ∧ letter ≠ 'V' := by
  cases type with
  | base type => cases type <;> exact ⟨_, _, rfl, by decide, by decide⟩
  | object name => exact ⟨_, _, rfl, by decide, by decide⟩
  | array element => exact ⟨_, _, rfl, by decide, by decide⟩

end FieldType

namespace MethodDescriptor

theorem parametersReader_eq_ok {text rest : List Char} {types : List FieldType} :
    parametersReader text = .ok (types, rest) ↔
      (∀ type ∈ types, type.Valid) ∧ text = types.flatMap FieldType.render ++ ')' :: rest := by
  constructor
  · intro read
    fun_induction parametersReader text generalizing types with
    | case1 rest' =>
      cases read
      exact ⟨nofun, rfl⟩
    | case2 => cases read
    | case3 => cases read
    | case4 text _ type others found types' rest' tail inductionHypothesis =>
      cases read
      obtain ⟨valid, rfl⟩ := FieldType.reader_eq_ok.mp found
      obtain ⟨others_valid, rfl⟩ := inductionHypothesis tail
      exact ⟨List.forall_mem_cons.mpr ⟨valid, others_valid⟩, by simp⟩
  · rintro ⟨valid, rfl⟩
    induction types with
    | nil => exact parametersReader.eq_1 rest
    | cons type types inductionHypothesis =>
      obtain ⟨type_valid, others_valid⟩ := List.forall_mem_cons.mp valid
      have found : FieldType.reader ((type :: types).flatMap FieldType.render ++ ')' :: rest) =
          .ok (type, types.flatMap FieldType.render ++ ')' :: rest) :=
        FieldType.reader_eq_ok.mpr ⟨type_valid, by simp⟩
      obtain ⟨letter, others, render_eq, no_end, -⟩ := type.exists_render_eq_cons
      rw [parametersReader.eq_2]
      · rw [found]
        dsimp only
        rw [inductionHypothesis others_valid]
      · intro others' text_eq
        rw [List.flatMap_cons, render_eq] at text_eq
        exact no_end (List.cons.inj text_eq).1

theorem resultReader_eq_ok {text rest : List Char} {result : Option FieldType} :
    resultReader text = .ok (result, rest) ↔
      (∀ type ∈ result, type.Valid) ∧ text = renderResult result ++ rest := by
  have typed (no_void : ∀ others, text ≠ 'V' :: others) :
      resultReader text = .ok (result, rest) ↔
        ∃ type, (type.Valid ∧ text = type.render ++ rest) ∧ some type = result := by
    rw [resultReader.eq_2 _ no_void, map_eq_pure_bind]
    simp only [bind_eq_ok, FieldType.reader_eq_ok, pure_eq_ok]
    constructor
    · rintro ⟨type, _, read, equal, rfl⟩
      exact ⟨type, read, equal⟩
    · rintro ⟨type, read, equal⟩
      exact ⟨type, rest, read, equal, rfl⟩
  constructor
  · intro read
    by_cases void : ∃ others, text = 'V' :: others
    · obtain ⟨others, rfl⟩ := void
      cases read
      exact ⟨nofun, rfl⟩
    · obtain ⟨type, ⟨valid, text_eq⟩, rfl⟩ :=
        (typed fun others equal => void ⟨others, equal⟩).mp read
      refine ⟨fun other found => ?_, text_eq⟩
      cases found
      exact valid
  · rintro ⟨valid, text_eq⟩
    cases result with
    | none =>
      rw [text_eq]
      rfl
    | some type =>
      obtain ⟨letter, others, render_eq, -, no_void⟩ := type.exists_render_eq_cons
      refine (typed fun others' equal => ?_).mpr ⟨type, ⟨valid type rfl, text_eq⟩, rfl⟩
      rw [text_eq, renderResult, render_eq] at equal
      exact no_void (List.cons.inj equal).1

theorem openingReader_eq_ok {text rest : List Char} {opened : Unit} :
    openingReader text = .ok (opened, rest) ↔ text = '(' :: rest := by
  unfold openingReader
  split
  next => simp [eq_comm]
  next no_opening =>
    constructor
    · nofun
    · rintro rfl
      exact (no_opening rest rfl).elim

theorem reader_eq_ok {text rest : List Char} {descriptor : MethodDescriptor} :
    reader text = .ok (descriptor, rest) ↔
      descriptor.Valid ∧ text = descriptor.render ++ rest := by
  unfold reader
  simp only [bind_eq_ok, openingReader_eq_ok, parametersReader_eq_ok, resultReader_eq_ok,
    pure_eq_ok]
  constructor
  · rintro ⟨_, _, rfl, parameters, _, ⟨parameters_valid, rfl⟩, result, _, ⟨result_valid, rfl⟩, rfl,
      rfl⟩
    exact ⟨⟨parameters_valid, result_valid⟩, by simp [render]⟩
  · rintro ⟨⟨parameters_valid, result_valid⟩, rfl⟩
    exact ⟨(), _, by simp [render], descriptor.parameters, _, ⟨parameters_valid, rfl⟩,
      descriptor.result, _, ⟨result_valid, rfl⟩, rfl, rfl⟩

end MethodDescriptor

/-- A text is accepted as a type exactly if it is the written form of a valid one, which is then
what it is read as, and the same holds of method descriptors. Any other text is a bad descriptor. -/
theorem Descriptor.parse_iff_render (source : String) :
    (∀ type : FieldType, FieldType.parse source = .ok type ↔
      type.Valid ∧ source = String.ofList type.render) ∧
    (∀ descriptor : MethodDescriptor, MethodDescriptor.parse source = .ok descriptor ↔
      descriptor.Valid ∧ source = String.ofList descriptor.render) ∧
    ((∃ reason, FieldType.parse source = .error (.badDescriptor reason)) ↔
      ¬∃ type : FieldType, type.Valid ∧ source = String.ofList type.render) ∧
    ((∃ reason, MethodDescriptor.parse source = .error (.badDescriptor reason)) ↔
      ¬∃ descriptor : MethodDescriptor,
        descriptor.Valid ∧ source = String.ofList descriptor.render) := by
  have written {letters : List Char} :
      source.toList = letters ++ [] ↔ source = String.ofList letters := by
    rw [List.append_nil, eq_comm, ← String.ofList_eq, eq_comm]
  have field_iff (type : FieldType) : FieldType.parse source = .ok type ↔
      type.Valid ∧ source = String.ofList type.render := by
    rw [FieldType.parse, parse_eq_ok, FieldType.reader_eq_ok, written]
  have method_iff (descriptor : MethodDescriptor) : MethodDescriptor.parse source = .ok descriptor ↔
      descriptor.Valid ∧ source = String.ofList descriptor.render := by
    rw [MethodDescriptor.parse, parse_eq_ok, MethodDescriptor.reader_eq_ok, written]
  refine ⟨field_iff, method_iff, ?_, ?_⟩
  · simp only [← field_iff, not_exists]
    exact exists_badDescriptor_iff
  · simp only [← method_iff, not_exists]
    exact exists_badDescriptor_iff

end ClassMachine
