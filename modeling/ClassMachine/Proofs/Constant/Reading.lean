import ClassMachine.Constant.Pool
import ClassMachine.Proofs.Binary.Primitive
import ClassMachine.Proofs.Value.Halves

set_option autoImplicit false

/-!
# What constants and the constant pool are read from

Every constant is read from its written form and from no other bytes, as long as its text, if it is
one, is no longer than its length field can say. The pool is read until its indices are used up, so
the constants in it must take exactly as many indices as its count announces.
-/

namespace ClassMachine

open Reader

namespace HandleKind

theorem ofCode?_eq_some {code : UInt8} {kind : HandleKind} :
    ofCode? code = some kind ↔ kind.code = code := by
  constructor
  · intro found
    unfold ofCode? at found
    split at found <;> cases found <;> rfl
  · rintro rfl
    exact ofCode?_code kind

def ofCode (code : UInt8) : Reader HandleKind :=
  match ofCode? code with
  | some kind => pure kind
  | none => throw (.invalidHandleKind code)

instance local_ofCode (code : UInt8) : Local (ofCode code) := by
  unfold ofCode
  split <;> infer_instance

theorem reads_ofCode {code : UInt8} {taken : List UInt8} {kind : HandleKind} :
    Reads (ofCode code) taken kind ↔ kind.code = code ∧ taken = [] := by
  rw [← ofCode?_eq_some]
  unfold ofCode
  cases ofCode? code with
  | none => simp
  | some found => simp [and_comm]

instance local_read : Local read := inferInstanceAs (Local (uint8 >>= ofCode))

theorem reads_read {taken : List UInt8} {kind : HandleKind} :
    Reads read taken kind ↔ taken = [kind.code] := by
  change Reads (uint8 >>= ofCode) taken kind ↔ _
  simp only [reads_bind_written, reads_ofCode, true_and]
  constructor
  · intro reads
    rcases reads with ⟨_, _, rfl, rfl, rfl⟩
    rfl
  · rintro rfl
    exact ⟨kind.code, [], rfl, rfl, rfl⟩

instance inverts_read : Inverts read (fun _ => True) fun kind => [kind.code] where
  reads_iff _ _ := by rw [reads_read, true_and]

end HandleKind

namespace Constant

def Fits : Constant → Prop
  | .utf8 bytes => bytes.length < 2 ^ 16
  | _ => True

section Particulars

variable {taken : List UInt8} {constant : Constant}

instance local_readUtf8 : Local readUtf8 :=
  inferInstanceAs (Local (uint16 >>= fun length =>
    Reader.bytes length.toNat >>= fun text => pure (Constant.utf8 text)))

instance local_readHalves : Local readHalves :=
  inferInstanceAs (Local (uint32 >>= fun high => uint32 >>= fun low =>
    pure (high.toUInt64 <<< 32 ||| low.toUInt64)))

instance local_readPair (build : UInt16 → UInt16 → Constant) : Local (readPair build) :=
  inferInstanceAs (Local (uint16 >>= fun first => uint16 >>= fun second =>
    pure (build first second)))

instance local_readMethodHandle : Local readMethodHandle :=
  inferInstanceAs (Local (HandleKind.read >>= fun kind => uint16 >>= fun member =>
    pure (Constant.methodHandle kind member)))

instance local_readTagged (tag : UInt8) : Local (readTagged tag) := by
  unfold readTagged
  split <;> infer_instance

instance local_read : Local read :=
  inferInstanceAs (Local (uint8 >>= readTagged))

theorem reads_readUtf8 :
    Reads readUtf8 taken constant ↔ ∃ text, text.length < 2 ^ 16 ∧
      taken = BigEndian.encode 2 text.length ++ text ∧ .utf8 text = constant := by
  unfold readUtf8
  simp only [reads_bind_written, reads_pure, true_and]
  constructor
  · intro reads
    rcases reads with ⟨length, _, rfl, text, _, length_eq, rfl, rfl, rfl⟩
    refine ⟨_, length_eq ▸ length.toNat_lt, ?_, rfl⟩
    rw [length_eq, List.append_nil]
    rfl
  · rintro ⟨text, bound, rfl, rfl⟩
    have length_eq : (UInt16.ofNat text.length).toNat = text.length :=
      UInt16.toNat_ofNat_of_lt' bound
    refine ⟨UInt16.ofNat text.length, text, ?_, text, [], length_eq.symm,
      (List.append_nil text).symm, rfl, rfl⟩
    rw [word, length_eq]

theorem doubleWord_append (high low : UInt32) :
    doubleWord high ++ doubleWord low =
      BigEndian.encode 8 (high.toUInt64 <<< 32 ||| low.toUInt64).toNat := by
  have encoded := BigEndian.encode_value (doubleWord high ++ doubleWord low)
  rw [BigEndian.value_append, value_doubleWord, value_doubleWord, List.length_append,
    length_doubleWord, length_doubleWord] at encoded
  rw [toNat_halves]
  exact encoded.symm

theorem reads_readHalves {bits : UInt64} :
    Reads readHalves taken bits ↔ taken = BigEndian.encode 8 bits.toNat := by
  unfold readHalves
  simp only [reads_bind_written, reads_pure, true_and]
  constructor
  · intro reads
    rcases reads with ⟨high, _, rfl, low, _, rfl, rfl, rfl⟩
    rw [List.append_nil, doubleWord_append]
  · rintro rfl
    obtain ⟨high, low, rfl⟩ := exists_halves bits
    exact ⟨high, _, (doubleWord_append high low).symm, low, [], (List.append_nil _).symm, rfl, rfl⟩

theorem reads_readPair {build : UInt16 → UInt16 → Constant} :
    Reads (readPair build) taken constant ↔
      ∃ first second, taken = word first ++ word second ∧ build first second = constant := by
  unfold readPair
  simp only [reads_bind_written, reads_pure, true_and]
  constructor
  · intro reads
    rcases reads with ⟨first, _, rfl, second, _, rfl, rfl, rfl⟩
    exact ⟨first, second, by rw [List.append_nil], rfl⟩
  · rintro ⟨first, second, rfl, rfl⟩
    exact ⟨first, _, rfl, second, [], (List.append_nil _).symm, rfl, rfl⟩

theorem reads_readMethodHandle :
    Reads readMethodHandle taken constant ↔
      ∃ kind member, taken = kind.code :: word member ∧ .methodHandle kind member = constant := by
  unfold readMethodHandle
  simp only [reads_bind_written, reads_pure, true_and]
  constructor
  · intro reads
    rcases reads with ⟨kind, _, rfl, member, _, rfl, rfl, rfl⟩
    exact ⟨kind, member, by rw [List.append_nil]; rfl, rfl⟩
  · rintro ⟨kind, member, rfl, rfl⟩
    exact ⟨kind, _, rfl, member, [], (List.append_nil _).symm, rfl, rfl⟩

end Particulars

theorem reads_readTagged {tag : UInt8} {taken : List UInt8} {constant : Constant} :
    Reads (readTagged tag) taken constant ↔
      constant.tag = tag ∧ constant.Fits ∧ taken = constant.encodeParticulars := by
  constructor
  · intro reads
    unfold readTagged at reads
    split at reads
    all_goals
      simp only [reads_map, reads_readUtf8, reads_int32, reads_uint32, reads_readHalves,
        reads_uint16, reads_readPair, reads_readMethodHandle, not_reads_throw] at reads
    case h_1 =>
      obtain ⟨text, bound, rfl, rfl⟩ := reads
      exact ⟨rfl, bound, rfl⟩
    case h_4 =>
      obtain ⟨bits, rfl, rfl⟩ := reads
      exact ⟨rfl, trivial, by simp [encodeParticulars]⟩
    -- All others are made of one or two parts, which fit their fields by their types.
    all_goals
      first
        | (obtain ⟨first, rfl, rfl⟩ := reads
           exact ⟨rfl, trivial, rfl⟩)
        | (obtain ⟨first, second, rfl, rfl⟩ := reads
           exact ⟨rfl, trivial, rfl⟩)
  · rintro ⟨rfl, fits, rfl⟩
    cases constant with
    | methodRef owner nameAndType isInterface =>
      cases isInterface <;> exact reads_readPair.mpr ⟨_, _, rfl, rfl⟩
    | utf8 bytes => exact reads_readUtf8.mpr ⟨bytes, fits, rfl, rfl⟩
    | integer value => exact reads_map.mpr ⟨value, reads_int32.mpr rfl, rfl⟩
    | float bits => exact reads_map.mpr ⟨bits, reads_uint32.mpr rfl, rfl⟩
    | long value =>
      refine reads_map.mpr ⟨value.toUInt64, reads_readHalves.mpr rfl, ?_⟩
      rw [Int64.toInt64_toUInt64]
    | double bits => exact reads_map.mpr ⟨bits, reads_readHalves.mpr rfl, rfl⟩
    | methodHandle kind member => exact reads_readMethodHandle.mpr ⟨kind, member, rfl, rfl⟩
    | fieldRef first second | nameAndType first second | dynamic first second
    | invokeDynamic first second => exact reads_readPair.mpr ⟨first, second, rfl, rfl⟩
    | classRef index | string index | methodType index | moduleName index | packageName index =>
      exact reads_map.mpr ⟨index, reads_uint16.mpr rfl, rfl⟩

theorem reads_read {taken : List UInt8} {constant : Constant} :
    Reads read taken constant ↔ constant.Fits ∧ taken = constant.encode := by
  unfold read
  simp only [reads_bind_written, reads_readTagged, true_and]
  constructor
  · intro reads
    rcases reads with ⟨_, _, rfl, rfl, fits, rfl⟩
    exact ⟨fits, rfl⟩
  · rintro ⟨fits, rfl⟩
    exact ⟨constant.tag, _, rfl, rfl, fits, rfl⟩

instance inverts_read : Inverts read Fits encode := ⟨fun _ _ => reads_read⟩

end Constant

namespace ConstantPool

/-- The texts fit their length fields and the indices fit the count. -/
def Fits (pool : ConstantPool) : Prop :=
  pool.constants.totalWidth ≤ 65534 ∧ ∀ constant ∈ pool.toList, constant.Fits

theorem totalWidth_ofList (constants : List Constant) :
    (ofList constants).constants.totalWidth = totalWidth constants := by
  simp [ofList, SlotVector.totalWidth]

theorem width_eq_two {constant : Constant} (eightByte : constant.isEightByte) :
    width constant = 2 :=
  if_pos eightByte

theorem width_eq_one {constant : Constant} (single : ¬constant.isEightByte) : width constant = 1 :=
  if_neg single

/-- Every constant takes an index, so only no constants take none. -/
theorem eq_nil_of_sum_width {constants : List Constant}
    (none_taken : totalWidth constants = 0) : constants = [] := by
  cases constants with
  | nil => rfl
  | cons constant constants =>
    have taken := constant.width_pos
    rw [totalWidth_cons] at none_taken
    omega

theorem eq_singleton_of_sum_width {constants : List Constant}
    (one_taken : totalWidth constants = 1) :
    ∃ constant, constants = [constant] ∧ ¬constant.isEightByte := by
  cases constants with
  | nil => cases one_taken
  | cons constant constants =>
    rw [totalWidth_cons] at one_taken
    have taken := constant.width_pos
    obtain rfl := eq_nil_of_sum_width (show totalWidth constants = 0 by omega)
    refine ⟨constant, rfl, fun eightByte => ?_⟩
    rw [width_eq_two eightByte] at one_taken
    omega

instance local_readConstants (count : UInt16) (indices : Nat) :
    Local (readConstants count indices) := by
  induction indices using readConstants.induct with
  | case1 => exact local_pure []
  | case2 =>
    unfold readConstants
    infer_instance
  | case3 indices afterEightByte afterSingle =>
    unfold readConstants
    infer_instance

theorem reads_readConstants {count : UInt16} {indices : Nat} {taken : List UInt8}
    {constants : List Constant} :
    Reads (readConstants count indices) taken constants ↔
      totalWidth constants = indices ∧ (∀ constant ∈ constants, constant.Fits) ∧
        taken = constants.flatMap Constant.encode := by
  induction indices using readConstants.induct generalizing taken constants with
  | case1 =>
    unfold readConstants
    rw [reads_pure]
    constructor
    · rintro ⟨rfl, rfl⟩
      simp
    · rintro ⟨none_taken, _, rfl⟩
      obtain rfl := eq_nil_of_sum_width none_taken
      exact ⟨rfl, rfl⟩
  | case2 =>
    unfold readConstants
    simp only [reads_bind_written, reads_guard, reads_pure]
    constructor
    · intro reads
      rcases reads with ⟨constant, _, fits, rfl, single, rfl, rfl⟩
      simp [width_eq_one single, fits]
    · rintro ⟨one_taken, fit, rfl⟩
      obtain ⟨constant, rfl, single⟩ := eq_singleton_of_sum_width one_taken
      exact ⟨constant, [], fit constant (.head _), rfl, single, rfl, rfl⟩
  | case3 indices afterEightByte afterSingle =>
    have reads_others {count : UInt16} {indices : Nat} {constant : Constant}
        {taken : List UInt8} {constants : List Constant} :
        Reads (readConstants count indices >>= fun others => pure (constant :: others))
          taken constants ↔
          ∃ others, Reads (readConstants count indices) taken others ∧
            constant :: others = constants :=
      reads_map
    unfold readConstants
    rw [reads_bind_written]
    simp only [reads_ite, reads_others, afterEightByte, afterSingle]
    constructor
    · intro reads
      rcases reads with ⟨constant, _, fits, rfl, choice⟩
      rcases choice with ⟨eightByte, others, filled, rfl⟩ | ⟨single, others, filled, rfl⟩
      · obtain ⟨rest_taken, fit, rfl⟩ := filled
        refine ⟨?_, List.forall_mem_cons.mpr ⟨fits, fit⟩, rfl⟩
        rw [totalWidth_cons, width_eq_two eightByte, rest_taken, Nat.add_comm]
      · obtain ⟨rest_taken, fit, rfl⟩ := filled
        refine ⟨?_, List.forall_mem_cons.mpr ⟨fits, fit⟩, rfl⟩
        rw [totalWidth_cons, width_eq_one single, rest_taken, Nat.add_comm]
    · rintro ⟨all_taken, fit, rfl⟩
      cases constants with
      | nil => cases all_taken
      | cons constant others =>
        obtain ⟨fits, others_fit⟩ := List.forall_mem_cons.mp fit
        rw [totalWidth_cons] at all_taken
        refine ⟨constant, _, fits, rfl, ?_⟩
        by_cases eightByte : constant.isEightByte
        · rw [width_eq_two eightByte] at all_taken
          exact .inl ⟨eightByte, others, ⟨by omega, others_fit, rfl⟩, rfl⟩
        · rw [width_eq_one eightByte] at all_taken
          exact .inr ⟨eightByte, others, ⟨by omega, others_fit, rfl⟩, rfl⟩

instance inverts_readConstants (count : UInt16) (indices : Nat) :
    Inverts (readConstants count indices)
      (fun constants => totalWidth constants = indices ∧ ∀ constant ∈ constants, constant.Fits)
      (fun constants => constants.flatMap Constant.encode) where
  reads_iff _ _ := by rw [reads_readConstants, and_assoc]

instance local_read : Local read := by
  unfold read
  infer_instance

theorem encode_ofList (constants : List Constant) :
    (ofList constants).encode =
      BigEndian.encode 2 (1 + totalWidth constants) ++ constants.flatMap Constant.encode := by
  simp [encode, ofList, toList]

theorem fits_ofList {constants : List Constant} :
    (ofList constants).Fits ↔
      totalWidth constants ≤ 65534 ∧ ∀ constant ∈ constants, constant.Fits := by
  simp [Fits, totalWidth_ofList]

theorem reads_read {taken : List UInt8} {pool : ConstantPool} :
    Reads read taken pool ↔ pool.Fits ∧ taken = pool.encode := by
  unfold read
  simp only [reads_bind_written, reads_guard, reads_pure, true_and]
  constructor
  · intro reads
    obtain ⟨count, _, rfl, nonzero, constants, _, filled, rfl, rfl, rfl⟩ := reads
    obtain ⟨all_taken, fit⟩ := filled
    have count_pos : count.toNat ≠ 0 := fun zero => nonzero (UInt16.toNat_inj.mp zero)
    have count_lt := count.toNat_lt
    have count_eq : 1 + totalWidth constants = count.toNat := by omega
    refine ⟨fits_ofList.mpr ⟨by omega, fit⟩, ?_⟩
    rw [encode_ofList, count_eq, List.append_nil]
    rfl
  · rintro ⟨fits, rfl⟩
    rw [← ofList_toList pool] at fits ⊢
    obtain ⟨slots, fit⟩ := fits_ofList.mp fits
    have count_lt : 1 + totalWidth pool.toList < 2 ^ 16 := by omega
    have count_eq : (UInt16.ofNat (1 + totalWidth pool.toList)).toNat =
        1 + totalWidth pool.toList :=
      UInt16.toNat_ofNat_of_lt' count_lt
    refine ⟨UInt16.ofNat (1 + totalWidth pool.toList), _, ?_, ?_, pool.toList, [], ⟨?_, fit⟩,
      (List.append_nil _).symm, rfl, rfl⟩
    · rw [encode_ofList, word, count_eq]
    · intro zero
      rw [zero, UInt16.toNat_zero] at count_eq
      omega
    · omega

instance inverts_read : Inverts read Fits encode := ⟨fun _ _ => reads_read⟩

end ConstantPool

end ClassMachine
