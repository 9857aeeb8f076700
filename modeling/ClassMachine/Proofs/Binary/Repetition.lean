import ClassMachine.Proofs.Binary.Primitive

set_option autoImplicit false

/-!
# Reading the same item again and again

`Reader.times count item` reads one item `count` times in a row. It succeeds exactly if all of these
rounds do, with the value of each, and fails exactly if one of them fails, with the error of that one
and where it left the cursor. So a repetition can be cut in two anywhere, and of encodings that are
each read back it takes as many as it has rounds, no matter what follows them. Nothing is asked of
the item: it can fail half done, look at bytes that it does not take, or be a repetition itself.
-/

namespace ClassMachine.Reader

open Outcome

variable {α : Type} {item : Reader α}

/-- The reader succeeds with these values, each time from where it left the cursor before. -/
inductive Rounds (item : Reader α) : Cursor → List α → Cursor → Prop where
  | nil {cursor : Cursor} : Rounds item cursor [] cursor
  | cons {before between after : Cursor} {value : α} {values : List α}
      (head : item before = .ok value between) (tail : Rounds item between values after) :
      Rounds item before (value :: values) after

theorem times_succ (count : Nat) (item : Reader α) :
    times (count + 1) item = item >>= fun first => (first :: ·) <$> times count item :=
  rfl

theorem times_eq_ok {count : Nat} {before after : Cursor} {values : List α} :
    times count item before = .ok values after ↔
      values.length = count ∧ Rounds item before values after := by
  induction count generalizing before values with
  | zero =>
    constructor
    · intro succeeded
      cases succeeded
      exact ⟨rfl, .nil⟩
    · rintro ⟨empty, rounds⟩
      cases rounds with
      | nil => rfl
      | cons => cases empty
  | succ count inductionHypothesis =>
    rw [times_succ, bind_eq_ok]
    simp only [map_eq_ok, inductionHypothesis]
    constructor
    · rintro ⟨first, between, head, others, ⟨rfl, tail⟩, rfl⟩
      exact ⟨rfl, .cons head tail⟩
    · rintro ⟨length_eq, rounds⟩
      cases rounds with
      | nil => cases length_eq
      | @cons _ between _ first others head tail =>
        exact ⟨first, between, head, others, ⟨Nat.succ.inj length_eq, tail⟩, rfl⟩

theorem times_eq_error {count : Nat} {before after : Cursor} {error : DecodeError} :
    times count item before = .error error after ↔
      ∃ values between, values.length < count ∧ Rounds item before values between ∧
        item between = .error error after := by
  induction count generalizing before with
  | zero =>
    constructor
    · intro failed
      cases failed
    · rintro ⟨values, between, fewer, -, -⟩
      cases fewer
  | succ count inductionHypothesis =>
    rw [times_succ, bind_eq_error]
    simp only [map_eq_error, inductionHypothesis]
    constructor
    · rintro (failed | ⟨first, between, head, values, last, fewer, tail, failed⟩)
      · exact ⟨[], before, Nat.succ_pos count, .nil, failed⟩
      · exact ⟨first :: values, last, Nat.succ_lt_succ fewer, .cons head tail, failed⟩
    · rintro ⟨values, last, fewer, rounds, failed⟩
      cases rounds with
      | nil => exact .inl failed
      | @cons _ between _ first others head tail =>
        have others_fewer : others.length < count := Nat.lt_of_succ_lt_succ fewer
        exact .inr ⟨first, between, head, others, last, others_fewer, tail, failed⟩

/-- A repetition can be cut in two. Both sides are one reader, so they fail alike too. -/
theorem times_add (item : Reader α) (front back : Nat) :
    times (front + back) item = (do
      let first ← times front item
      let second ← times back item
      pure (first ++ second)) := by
  induction front with
  | zero => simp [times]
  | succ front inductionHypothesis =>
    rw [Nat.succ_add, times, inductionHypothesis]
    simp only [times, bind_assoc, pure_bind, List.cons_append]

theorem times_one (item : Reader α) : times 1 item = (fun value => [value]) <$> item := by
  simp [times]

theorem readsEach_flatten {encodings : List (List UInt8)} {values : List α}
    (each : List.Forall₂ (Reads item) encodings values) :
    ReadsEach item encodings.flatten values := by
  induction each with
  | nil => exact .nil
  | cons head _ inductionHypothesis => exact .cons head inductionHypothesis

theorem ReadsEach.rounds {taken : List UInt8} {values : List α}
    (each : ReadsEach item taken values) (rest : List UInt8) (position : Nat) :
    Rounds item ⟨taken ++ rest, position⟩ values ⟨rest, position + taken.length⟩ := by
  induction each generalizing position with
  | nil => exact .nil
  | @cons front back value values head tail inductionHypothesis =>
    rw [List.append_assoc, List.length_append, ← Nat.add_assoc]
    exact .cons (head (back ++ rest) position) (inductionHypothesis (position + front.length))

/-- A repetition succeeds exactly if so many rounds do, one after the other, and fails exactly if one
of them does, as that one does. Two repetitions in a row are one, and a single round is the item
itself. So of encodings that are each read back a repetition takes exactly as many as it has rounds,
in front of any other bytes. -/
theorem times_exact {α : Type} (item : Reader α) :
    (∀ (count : Nat) (before after : Cursor) (values : List α),
      times count item before = .ok values after ↔
        values.length = count ∧ Rounds item before values after) ∧
    (∀ (count : Nat) (before after : Cursor) (error : DecodeError),
      times count item before = .error error after ↔
        ∃ values between, values.length < count ∧ Rounds item before values between ∧
          item between = .error error after) ∧
    (∀ front back : Nat,
      times (front + back) item = do
        let first ← times front item
        let second ← times back item
        pure (first ++ second)) ∧
    times 1 item = (fun value => [value]) <$> item ∧
    ∀ (encodings : List (List UInt8)) (values : List α),
      List.Forall₂ (Reads item) encodings values →
        Reads (times encodings.length item) encodings.flatten values := by
  refine ⟨fun count before after values => times_eq_ok,
    fun count before after error => times_eq_error, times_add item, times_one item, ?_⟩
  intro encodings values each rest position
  have rounds := (readsEach_flatten each).rounds rest position
  exact times_eq_ok.mpr ⟨each.length_eq.symm, rounds⟩

/-- Two lists of bytes, each behind its own count. -/
theorem times_exact_two_lists :
    List.Forall₂ (Reads (counted uint8)) [[0, 2, 7, 9], [0, 1, 5]] [[7, 9], [5]] ∧
      Reads (times 2 (counted uint8)) [0, 2, 7, 9, 0, 1, 5] [[7, 9], [5]] := by
  have first : Reads (counted uint8) [0, 2, 7, 9] [7, 9] := fun _ _ => rfl
  have second : Reads (counted uint8) [0, 1, 5] [5] := fun _ _ => rfl
  have each : List.Forall₂ (Reads (counted uint8)) [[0, 2, 7, 9], [0, 1, 5]] [[7, 9], [5]] :=
    .cons first (.cons second .nil)
  obtain ⟨-, -, -, -, reads_back⟩ := times_exact (counted uint8)
  exact ⟨each, reads_back _ _ each⟩

/-- The second round runs out of bytes, and what the first one took stays taken. -/
example : times 2 (counted uint8) ⟨[0, 1, 5, 0], 0⟩ =
    .error (.unexpectedEndOfInput 2 1) ⟨[0], 3⟩ := by
  rfl

end ClassMachine.Reader
