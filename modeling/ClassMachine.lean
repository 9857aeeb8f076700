import ClassMachine.AccessFlags
import ClassMachine.Binary.BigEndian
import ClassMachine.Binary.Reader
import ClassMachine.ClassFile.Attribute
import ClassMachine.ClassFile.Basic
import ClassMachine.ClassFile.Code
import ClassMachine.ClassFile.Codec
import ClassMachine.Cli.Argument
import ClassMachine.Cli.Complaint
import ClassMachine.Cli.Options
import ClassMachine.Cli.Run
import ClassMachine.Cli.Summary
import ClassMachine.Constant.Basic
import ClassMachine.Constant.Codec
import ClassMachine.Constant.Inspect
import ClassMachine.Constant.Pool
import ClassMachine.DecodeError
import ClassMachine.Descriptor.Basic
import ClassMachine.Descriptor.Parser
import ClassMachine.Failure
import ClassMachine.Fault
import ClassMachine.FloatingPoint.Arithmetic
import ClassMachine.FloatingPoint.Format
import ClassMachine.FloatingPoint.Shortest
import ClassMachine.FloatingPoint.Text
import ClassMachine.Frame.Basic
import ClassMachine.Frame.LocalVariables
import ClassMachine.Frame.OperandStack
import ClassMachine.Frame.Operation
import ClassMachine.Instruction.Basic
import ClassMachine.Instruction.Decode
import ClassMachine.Instruction.Inspect
import ClassMachine.Instruction.Opcode
import ClassMachine.Main
import ClassMachine.Proofs.Binary.Reading
import ClassMachine.Proofs.Guarded
import ClassMachine.Proofs.Outcome
import ClassMachine.SlotVector
import ClassMachine.Text.ControlSequence
import ClassMachine.Text.Decimal
import ClassMachine.Text.Hex
import ClassMachine.Text.ModifiedUtf8
import ClassMachine.Text.Quoted
import ClassMachine.Text.Structural
import ClassMachine.Text.Unprintable
import ClassMachine.Text.Utf16
import ClassMachine.Thread.Basic
import ClassMachine.Thread.Event
import ClassMachine.Value.Basic
import ClassMachine.Value.Cell
import ClassMachine.Proofs.Binary.Primitive
import ClassMachine.Proofs.Binary.Shortage
import ClassMachine.Proofs.Instruction.Operands
import ClassMachine.Proofs.Instruction.Encoding
import ClassMachine.Proofs.Instruction.Table
import ClassMachine.Proofs.Instruction.Assembly
import ClassMachine.Proofs.Frame.Bounds
import ClassMachine.Proofs.Frame.Control
import ClassMachine.Proofs.Frame.OperandStack
import ClassMachine.Proofs.Frame.Shuffling
import ClassMachine.Proofs.Thread.FrameStack
import ClassMachine.Proofs.Thread.History
import ClassMachine.Proofs.Thread.Soundness
import ClassMachine.Proofs.Thread.Composition
import ClassMachine.Proofs.Binary.Masking
import ClassMachine.Proofs.Constant.Reading
import ClassMachine.Proofs.ClassFile.Reading
import ClassMachine.Proofs.ClassFile.Signatures
import ClassMachine.Proofs.ClassFile.Truncation
import ClassMachine.Proofs.Thread.Footprint
import ClassMachine.Proofs.ClassFile.Code
import ClassMachine.Proofs.SlotVector
import ClassMachine.Proofs.Thread.Guarded
import ClassMachine.Proofs.Thread.Ranges
import ClassMachine.Proofs.Frame.Composite
import ClassMachine.Proofs.Frame.Framing
import ClassMachine.Proofs.Frame.LocalVariables
import ClassMachine.Proofs.Thread.Entry
import ClassMachine.Proofs.Thread.Agreement
import ClassMachine.Proofs.Thread.DepthLimit
import ClassMachine.Proofs.Value.TwosComplement
import ClassMachine.Proofs.Frame.IntegerOperations
import ClassMachine.Proofs.Frame.IntegerArithmetic
import ClassMachine.Proofs.Frame.SlotEffect
import ClassMachine.Proofs.Frame.Writes
import ClassMachine.Proofs.Descriptor.Grammar
import ClassMachine.Proofs.Text.Utf16
import ClassMachine.Proofs.Text.ModifiedUtf8
import ClassMachine.Proofs.SlotVector.Offsets
import ClassMachine.Proofs.Constant.Indexing
import ClassMachine.Proofs.Constant.Filling
import ClassMachine.Proofs.Frame.Branching
import ClassMachine.Proofs.Frame.Switching
import ClassMachine.Proofs.Instruction.Locality
import ClassMachine.Proofs.Constant.Names
import ClassMachine.Proofs.Thread.Resolution
import ClassMachine.Proofs.Value.Halves
import ClassMachine.Proofs.ClassFile.Payload
import ClassMachine.Proofs.Frame.LocalSlots
import ClassMachine.Proofs.Frame.Subroutine
import ClassMachine.Proofs.Thread.CallLog
import ClassMachine.Proofs.SlotVector.History
import ClassMachine.Proofs.SlotVector.Classification
import ClassMachine.Proofs.Cli.Argument
import ClassMachine.Proofs.Cli.Invocation
import ClassMachine.Proofs.SlotVector.FromEnd
import ClassMachine.Proofs.Frame.ManyCells
import ClassMachine.Proofs.ClassFile.FirstNamed
import ClassMachine.Proofs.Binary.Partition
import ClassMachine.Proofs.Binary.Repetition
