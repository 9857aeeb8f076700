import ClassMachine.ClassFile.Codec
import ClassMachine.Proofs.Binary.Masking
import ClassMachine.Proofs.Constant.Reading

set_option autoImplicit false

/-!
# What class files are read from

Each part of a class file is read from its written form, and flags from any bits that have the named
ones among them. So a class file that fits its fields is read back from what is written of it, and
what is written of a class file that was read is what it was read from, without the unnamed bits of
the flags of the class, its fields and its methods.
-/

namespace ClassMachine

open Reader

section Counted

variable {α : Type} {item : Reader α} [Local item] {Fits : α → Prop}
  {mask encode : α → List UInt8}

/-- The mask of a counted list, given those of its items. -/
def maskCounted (mask : α → List UInt8) (values : List α) : List UInt8 :=
  keepAll (BigEndian.encode 2 values.length) ++ values.flatMap mask

/-- There are not too many items for a two-byte count, and each of them fits. -/
def CountedFit (Fits : α → Prop) (values : List α) : Prop :=
  values.length < 2 ^ 16 ∧ ∀ value ∈ values, Fits value

instance inverts_counted [Inverts item Fits encode] :
    Inverts (counted item) (CountedFit Fits) (encodeCounted encode) where
  reads_iff taken values := by
    simp only [reads_counted, readsEach_iff]
    constructor
    · intro reads
      rcases reads with ⟨bound, _, rfl, fit, rfl⟩
      exact ⟨⟨bound, fit⟩, rfl⟩
    · rintro ⟨⟨bound, fit⟩, rfl⟩
      exact ⟨bound, _, rfl, fit, rfl⟩

instance invertsMasked_counted [InvertsMasked item Fits mask encode] :
    InvertsMasked (counted item) (CountedFit Fits) (maskCounted mask) (encodeCounted encode) where
  reads_iff taken values := by
    unfold maskCounted encodeCounted
    rw [masked_append (length_keepAll _).symm]
    simp only [reads_counted, readsEach_iff_masked, masked_keepAll]
    constructor
    · intro reads
      rcases reads with ⟨bound, items, rfl, fit, masked⟩
      exact ⟨⟨bound, fit⟩, _, items, rfl, rfl, masked⟩
    · intro whole
      rcases whole with ⟨⟨bound, fit⟩, _, items, rfl, rfl, masked⟩
      exact ⟨bound, items, rfl, fit, masked⟩
  length_eq values := by
    have length_eq (value : α) : (encode value).length = (mask value).length :=
      InvertsMasked.length_eq item value
    simp [encodeCounted, maskCounted, List.length_flatMap, length_eq]

end Counted

namespace Attribute

def Fits (entry : Attribute) : Prop := entry.info.length < 2 ^ 32

instance local_read : Local read := by
  unfold read
  infer_instance

theorem reads_read {taken : List UInt8} {entry : Attribute} :
    Reads read taken entry ↔ entry.Fits ∧ taken = entry.encode := by
  unfold read
  simp only [reads_bind_written, reads_pure, true_and]
  constructor
  · intro reads
    obtain ⟨name, _, rfl, length, _, rfl, info, _, length_eq, rfl, rfl, rfl⟩ := reads
    constructor
    · rw [Fits, length_eq]
      exact length.toNat_lt
    · simp [encode, word, doubleWord, length_eq]
  · rintro ⟨fits, rfl⟩
    have length_eq : (UInt32.ofNat entry.info.length).toNat = entry.info.length :=
      UInt32.toNat_ofNat_of_lt' fits
    refine ⟨entry.name, _, ?_, UInt32.ofNat entry.info.length, entry.info, rfl, entry.info, [],
      length_eq.symm, (List.append_nil _).symm, rfl, rfl⟩
    simp [encode, word, doubleWord, length_eq]

instance inverts_read : Inverts read Fits encode := ⟨fun _ _ => reads_read⟩

end Attribute

namespace Version

instance local_read : Local read := by
  unfold read
  infer_instance

theorem reads_read {taken : List UInt8} {version : Version} :
    Reads read taken version ↔ taken = version.encode := by
  unfold read
  simp only [reads_bind_written, reads_pure, true_and]
  constructor
  · intro reads
    rcases reads with ⟨minor, _, rfl, major, _, rfl, rfl, rfl⟩
    rw [List.append_nil]
    rfl
  · rintro rfl
    exact ⟨version.minor, _, rfl, version.major, [], (List.append_nil _).symm, rfl, rfl⟩

instance inverts_read : Inverts read (fun _ => True) encode where
  reads_iff _ _ := by rw [reads_read, true_and]

end Version

namespace AccessFlags

variable {owner : FlagOwner}

instance local_read : Local (read owner) :=
  inferInstanceAs (Local (ofMask owner <$> uint16))

theorem reads_read {taken : List UInt8} {flags : AccessFlags owner} :
    Reads (read owner) taken flags ↔
      flags.InTable ∧ Masked (word owner.mask) taken (word flags.bits) := by
  unfold read
  simp only [reads_map, reads_uint16, masked_word]
  constructor
  · rintro ⟨raw, rfl, rfl⟩
    exact ⟨inTable_ofMask raw, raw, rfl, rfl⟩
  · rintro ⟨-, raw, rfl, bits_eq⟩
    refine ⟨raw, rfl, ?_⟩
    rw [ofMask, ← bits_eq]

instance invertsMasked_read : InvertsMasked (read owner) AccessFlags.InTable
    (fun _ => word owner.mask) (fun flags => word flags.bits) where
  reads_iff _ _ := reads_read
  length_eq _ := by simp

end AccessFlags

namespace Member

variable {owner : FlagOwner}

/-- The flags have names and the attributes fit their counts and lengths. -/
def Fits (member : Member owner) : Prop :=
  member.flags.InTable ∧ CountedFit Attribute.Fits member.attributes

def significantBits (member : Member owner) : List UInt8 :=
  word owner.mask ++ keepAll (word member.name ++ word member.descriptor ++
    encodeCounted Attribute.encode member.attributes)

theorem length_encode (member : Member owner) :
    member.encode.length = member.significantBits.length := by
  simp [encode, significantBits]

instance local_read : Local (read owner) := by
  unfold read
  infer_instance

theorem encode_eq (member : Member owner) :
    member.encode = word member.flags.bits ++ (word member.name ++ word member.descriptor ++
      encodeCounted Attribute.encode member.attributes) := by
  simp [encode, word]

theorem reads_read {taken : List UInt8} {member : Member owner} :
    Reads (read owner) taken member ↔
      member.Fits ∧ Masked member.significantBits taken member.encode := by
  unfold read significantBits
  rw [encode_eq, masked_append (by simp)]
  simp only [reads_bind_masked, reads_bind_written, reads_pure, masked_keepAll, true_and]
  constructor
  · intro reads
    obtain ⟨flags, head, _, inTable, masked, rfl, name, _, rfl, descriptor, _, rfl, others⟩ := reads
    obtain ⟨attributes, _, fit, rfl, rfl, rfl⟩ := others
    refine ⟨⟨inTable, fit⟩, head, _, rfl, masked, ?_⟩
    simp only [List.append_assoc, List.append_nil]
  · intro whole
    rcases whole with ⟨⟨inTable, fit⟩, head, _, rfl, masked, rfl⟩
    refine ⟨member.flags, head, _, inTable, masked, rfl, member.name, _, ?_, member.descriptor, _,
      rfl, member.attributes, [], fit, rfl, rfl, rfl⟩
    simp only [List.append_assoc, List.append_nil]

instance invertsMasked_read : InvertsMasked (read owner) Fits significantBits encode where
  reads_iff _ _ := reads_read
  length_eq := length_encode

theorem masked_encode_self {member : Member owner} (fits : member.Fits) :
    Masked member.significantBits member.encode member.encode := by
  rw [encode_eq]
  have flags_masked := masked_word_self fits.1
  exact (masked_append flags_masked.1).mpr ⟨_, _, rfl, flags_masked, masked_keepAll.mpr rfl⟩

end Member

namespace ClassFile

structure Fits (classFile : ClassFile) : Prop where
  constants : classFile.constants.Fits
  flags : classFile.flags.InTable
  interfaces : classFile.interfaces.length < 2 ^ 16
  fields : CountedFit Member.Fits classFile.fields
  methods : CountedFit Member.Fits classFile.methods
  attributes : CountedFit Attribute.Fits classFile.attributes

def encodeRest (classFile : ClassFile) : List UInt8 :=
  word classFile.flags.bits ++
    (word classFile.thisClass ++ word classFile.superClass ++
        encodeCounted word classFile.interfaces ++
      (encodeCounted Member.encode classFile.fields ++
        (encodeCounted Member.encode classFile.methods ++
          encodeCounted Attribute.encode classFile.attributes)))

theorem encode_eq (classFile : ClassFile) :
    classFile.encode = magic ++ classFile.version.encode ++ classFile.constants.encode ++
      classFile.encodeRest := by
  simp only [encode, encodeRest, List.append_assoc]
  rfl

def significantRest (classFile : ClassFile) : List UInt8 :=
  word FlagOwner.classFile.mask ++
    (keepAll (word classFile.thisClass ++ word classFile.superClass ++
        encodeCounted word classFile.interfaces) ++
      (maskCounted Member.significantBits classFile.fields ++
        (maskCounted Member.significantBits classFile.methods ++
          keepAll (encodeCounted Attribute.encode classFile.attributes))))

/-- The bits that are kept of the bytes of a class file: all but the unnamed flags of the class, its
fields and its methods. -/
def significantBits (classFile : ClassFile) : List UInt8 :=
  keepAll (magic ++ classFile.version.encode ++ classFile.constants.encode) ++
    classFile.significantRest

theorem masked_rest {classFile : ClassFile} {taken : List UInt8} :
    Masked classFile.significantRest taken classFile.encodeRest ↔
      ∃ flags fields methods, taken = flags ++ (word classFile.thisClass ++
          word classFile.superClass ++ encodeCounted word classFile.interfaces ++
            (fields ++ (methods ++ encodeCounted Attribute.encode classFile.attributes))) ∧
        Masked (word FlagOwner.classFile.mask) flags (word classFile.flags.bits) ∧
        Masked (maskCounted Member.significantBits classFile.fields) fields
          (encodeCounted Member.encode classFile.fields) ∧
        Masked (maskCounted Member.significantBits classFile.methods) methods
          (encodeCounted Member.encode classFile.methods) := by
  have flags_length :
      (word classFile.flags.bits).length = (word FlagOwner.classFile.mask).length := by
    simp
  have members_length {owner : FlagOwner} (members : List (Member owner)) :
      (encodeCounted Member.encode members).length =
        (maskCounted Member.significantBits members).length :=
    InvertsMasked.length_eq (counted (Member.read owner)) members
  unfold significantRest encodeRest
  simp only [masked_append flags_length, masked_append (length_keepAll _).symm,
    masked_append (members_length _), masked_keepAll]
  constructor
  · intro masked
    rcases masked with ⟨flags, _, rfl, flags_masked, _, _, rfl, rfl, members⟩
    obtain ⟨fields, _, rfl, fields_masked, methods, _, rfl, methods_masked, rfl⟩ := members
    exact ⟨flags, fields, methods, rfl, flags_masked, fields_masked, methods_masked⟩
  · intro parts
    rcases parts with ⟨flags, fields, methods, rfl, flags_masked, fields_masked, methods_masked⟩
    exact ⟨flags, _, rfl, flags_masked, _, _, rfl, rfl, fields, _, rfl, fields_masked, methods, _,
      rfl, methods_masked, rfl⟩

namespace Preamble

instance local_read : Local read := by
  unfold read
  infer_instance

theorem reads_read {taken : List UInt8} {preamble : Preamble} :
    Reads read taken preamble ↔ preamble.constants.Fits ∧
      taken = magic ++ preamble.version.encode ++ preamble.constants.encode := by
  unfold read
  simp only [reads_bind_written, reads_guard, reads_pure, ne_eq, Decidable.not_not, true_and]
  constructor
  · intro reads
    rcases reads with ⟨_, _, -, rfl, rfl, version, _, rfl, constants, _, fits, rfl, rfl, rfl⟩
    refine ⟨fits, ?_⟩
    simp only [List.append_assoc, List.append_nil]
  · rintro ⟨fits, rfl⟩
    rw [List.append_assoc]
    refine ⟨magic, _, rfl, rfl, rfl, preamble.version, _, rfl, ?_⟩
    exact ⟨preamble.constants, [], fits, (List.append_nil _).symm, rfl, rfl⟩

instance local_readRest (preamble : Preamble) : Local preamble.readRest := by
  unfold readRest
  infer_instance

theorem reads_readRest {preamble : Preamble} {taken : List UInt8} {classFile : ClassFile} :
    Reads preamble.readRest taken classFile ↔
      preamble = ⟨classFile.version, classFile.constants⟩ ∧ classFile.flags.InTable ∧
        classFile.interfaces.length < 2 ^ 16 ∧ CountedFit Member.Fits classFile.fields ∧
        CountedFit Member.Fits classFile.methods ∧
        CountedFit Attribute.Fits classFile.attributes ∧
        Masked classFile.significantRest taken classFile.encodeRest := by
  unfold readRest
  simp only [reads_bind_masked, reads_bind_written, reads_pure, masked_rest, true_and]
  constructor
  · intro reads
    obtain ⟨flags, flagBytes, _, inTable, flags_masked, rfl, indices⟩ := reads
    obtain ⟨thisClass, _, rfl, superClass, _, rfl, indices⟩ := indices
    obtain ⟨interfaces, _, ⟨bound, -⟩, rfl, members⟩ := indices
    obtain ⟨fields, fieldBytes, _, fields_fit, fields_masked, rfl, members⟩ := members
    obtain ⟨methods, methodBytes, _, methods_fit, methods_masked, rfl, others⟩ := members
    obtain ⟨attributes, _, attributes_fit, rfl, rfl, rfl⟩ := others
    refine ⟨rfl, inTable, bound, fields_fit, methods_fit, attributes_fit, flagBytes, fieldBytes,
      methodBytes, ?_, flags_masked, fields_masked, methods_masked⟩
    simp only [List.append_assoc, List.append_nil]
  · intro whole
    rcases whole with ⟨rfl, inTable, bound, fields_fit, methods_fit, attributes_fit, parts⟩
    obtain ⟨flagBytes, fieldBytes, methodBytes, rfl, flags_masked, fields_masked, methods_masked⟩ :=
      parts
    refine ⟨classFile.flags, flagBytes, _, inTable, flags_masked, rfl, ?_⟩
    rw [List.append_assoc, List.append_assoc]
    refine ⟨classFile.thisClass, _, rfl, classFile.superClass, _, rfl, ?_⟩
    refine ⟨classFile.interfaces, _, ⟨bound, fun _ _ => trivial⟩, rfl, ?_⟩
    refine ⟨classFile.fields, fieldBytes, _, fields_fit, fields_masked, rfl, ?_⟩
    refine ⟨classFile.methods, methodBytes, _, methods_fit, methods_masked, rfl, ?_⟩
    exact ⟨classFile.attributes, [], attributes_fit, (List.append_nil _).symm, rfl, rfl⟩

end Preamble

instance local_read : Local read := by
  unfold read
  infer_instance

theorem reads_read {taken : List UInt8} {classFile : ClassFile} :
    Reads read taken classFile ↔
      classFile.Fits ∧ Masked classFile.significantBits taken classFile.encode := by
  unfold read significantBits
  rw [encode_eq, masked_append (length_keepAll _).symm]
  simp only [reads_bind, Preamble.reads_read, Preamble.reads_readRest, masked_keepAll]
  constructor
  · intro reads
    rcases reads with ⟨_, _, tail, rfl, ⟨constants, rfl⟩, rfl, flags, interfaces, fields, methods,
      attributes, masked⟩
    exact ⟨⟨constants, flags, interfaces, fields, methods, attributes⟩, _, tail, rfl, rfl, masked⟩
  · intro whole
    rcases whole with ⟨fits, _, tail, rfl, rfl, masked⟩
    exact ⟨⟨classFile.version, classFile.constants⟩, _, tail, rfl, ⟨fits.constants, rfl⟩, rfl,
      fits.flags, fits.interfaces, fits.fields, fits.methods, fits.attributes, masked⟩

theorem parse_eq_ok {bytes : List UInt8} {classFile : ClassFile} :
    parse bytes = .ok classFile ↔ Reads read bytes classFile := by
  unfold parse
  constructor
  · intro parsed
    split at parsed
    next => cases parsed
    next result cursor succeeded =>
      obtain ⟨_, finished, same⟩ := Outcome.except_bind_eq_ok.mp parsed
      cases same
      unfold Cursor.finish at finished
      split at finished
      next empty =>
        exact Local.reads_of_isEmpty succeeded empty
      next => cases finished
  · intro reads
    have succeeded := reads.at_end 0
    rw [Cursor.ofBytes, succeeded]
    rfl

theorem masked_encode_self {classFile : ClassFile} (fits : classFile.Fits) :
    Masked classFile.significantBits classFile.encode classFile.encode := by
  have members_masked {owner : FlagOwner} {members : List (Member owner)}
      (fit : CountedFit Member.Fits members) :
      Masked (maskCounted Member.significantBits members) (encodeCounted Member.encode members)
        (encodeCounted Member.encode members) := by
    have count_masked := masked_keepAll.mpr (Eq.refl (BigEndian.encode 2 members.length))
    refine (masked_append count_masked.1).mpr ⟨_, _, rfl, count_masked, ?_⟩
    exact masked_flatMap_self fun member present => Member.masked_encode_self (fit.2 member present)
  have rest_masked : Masked classFile.significantRest classFile.encodeRest classFile.encodeRest :=
    masked_rest.mpr ⟨_, _, _, rfl, masked_word_self fits.flags, members_masked fits.fields,
      members_masked fits.methods⟩
  rw [encode_eq]
  exact (masked_append (length_keepAll _).symm).mpr
    ⟨_, _, rfl, masked_keepAll.mpr rfl, rest_masked⟩

/-- A class file that fits its fields is parsed from what is written of it. What is written of a
class file that was parsed is what it was parsed from, except for the unnamed flags of the class, its
fields and its methods, which are cleared. -/
theorem parse_inverts_encode :
    (∀ classFile : ClassFile, classFile.Fits → parse classFile.encode = .ok classFile) ∧
      ∀ bytes classFile, parse bytes = .ok classFile →
        classFile.Fits ∧ Masked classFile.significantBits bytes classFile.encode := by
  constructor
  · intro classFile fits
    exact parse_eq_ok.mpr (reads_read.mpr ⟨fits, masked_encode_self fits⟩)
  · intro bytes classFile parsed
    exact reads_read.mp (parse_eq_ok.mp parsed)

/-- A public class with a long constant in its pool, a field that has this value, a static method
without code and an attribute. -/
def holdingLong : ClassFile where
  version := ⟨52, 0⟩
  constants := .ofList
    [.long 42, .utf8 [0x78], .utf8 [0x4a],
      .utf8 [0x43, 0x6f, 0x6e, 0x73, 0x74, 0x61, 0x6e, 0x74, 0x56, 0x61, 0x6c, 0x75, 0x65]]
  flags := ⟨0x0021⟩
  thisClass := 0
  superClass := 0
  interfaces := []
  fields := [⟨⟨0x0019⟩, 3, 4, [⟨5, [0, 1]⟩]⟩]
  methods := [⟨⟨0x0008⟩, 3, 4, []⟩]
  attributes := [⟨3, [7]⟩]

/-- This class, with the highest bit set in the flags of the class, the field and the method. -/
def holdingLongWithUnnamedFlags : List UInt8 :=
  [0xca, 0xfe, 0xba, 0xbe, 0, 0, 0, 52, 0, 6, 5, 0, 0, 0, 0, 0, 0, 0, 42, 1, 0, 1, 0x78, 1, 0, 1,
    0x4a, 1, 0, 13, 0x43, 0x6f, 0x6e, 0x73, 0x74, 0x61, 0x6e, 0x74, 0x56, 0x61, 0x6c, 0x75, 0x65,
    0x80, 0x21, 0, 0, 0, 0, 0, 0, 0, 1, 0x80, 0x19, 0, 3, 0, 4, 0, 1, 0, 5, 0, 0, 0, 2, 0, 1, 0, 1,
    0x80, 0x08, 0, 3, 0, 4, 0, 0, 0, 1, 0, 3, 0, 0, 0, 1, 7]

/-- Both ways, the second one with flags that get lost. -/
theorem parse_inverts_encode_holding_long :
    parse holdingLong.encode = .ok holdingLong ∧
      parse holdingLongWithUnnamedFlags = .ok holdingLong ∧
      Masked holdingLong.significantBits holdingLongWithUnnamedFlags holdingLong.encode := by
  have parsed : parse holdingLongWithUnnamedFlags = .ok holdingLong := by cbv
  obtain ⟨inverts, inverted⟩ := parse_inverts_encode
  obtain ⟨fits, masked⟩ := inverted _ _ parsed
  exact ⟨inverts holdingLong fits, parsed, masked⟩

end ClassFile

end ClassMachine
