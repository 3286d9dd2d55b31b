import ExecUnit.BitRange
import ExecUnit.Coded
import ExecUnit.CommandLine.Arguments
import ExecUnit.CommandLine.Host
import ExecUnit.CommandLine.Path
import ExecUnit.CommandLine.Run
import ExecUnit.DecodeFault
import ExecUnit.Encoding
import ExecUnit.Field
import ExecUnit.Generation
import ExecUnit.Header.Control
import ExecUnit.Header.Modifier
import ExecUnit.Instruction.Basic
import ExecUnit.Instruction.Header
import ExecUnit.Instruction.Messages
import ExecUnit.Instruction.Operands
import ExecUnit.Layout.Basic
import ExecUnit.Layout.Coverage
import ExecUnit.Layout.Gen4
import ExecUnit.Layout.Gen8
import ExecUnit.Layout.Message
import ExecUnit.Listing.Line
import ExecUnit.Listing.Message
import ExecUnit.Listing.Mnemonic
import ExecUnit.Listing.Operand
import ExecUnit.Listing.Piece
import ExecUnit.Main
import ExecUnit.Message
import ExecUnit.Numeral.Hex
import ExecUnit.Numeral.SixDigits
import ExecUnit.Opcode
import ExecUnit.Operand.Address
import ExecUnit.Operand.Destination
import ExecUnit.Operand.Source
import ExecUnit.Operand.Triple
import ExecUnit.Program.Basic
import ExecUnit.Proofs.AcrossLayouts.Agreement
import ExecUnit.Proofs.AcrossLayouts.Header
import ExecUnit.Proofs.AcrossLayouts.Listing
import ExecUnit.Proofs.AcrossLayouts.PlainOperands
import ExecUnit.Proofs.AcrossLayouts.TripleOperands
import ExecUnit.Proofs.AcrossLayouts.Twin
import ExecUnit.Proofs.Assignment
import ExecUnit.Proofs.Calls.Basic
import ExecUnit.Proofs.Calls.LastGenerations
import ExecUnit.Proofs.Calls.LastWriter
import ExecUnit.Proofs.CommandLine.Choices
import ExecUnit.Proofs.CommandLine.Delivery
import ExecUnit.Proofs.CommandLine.Rendering
import ExecUnit.Proofs.CommandLine.Runs
import ExecUnit.Proofs.CommandLine.Transaction
import ExecUnit.Proofs.Header.Modifiers
import ExecUnit.Proofs.Layout.BitAccess
import ExecUnit.Proofs.Layout.Geometry
import ExecUnit.Proofs.Layout.Words
import ExecUnit.Proofs.Listing.Accounting
import ExecUnit.Proofs.Listing.Alignment
import ExecUnit.Proofs.Listing.Columns
import ExecUnit.Proofs.Listing.Decodable
import ExecUnit.Proofs.Listing.Factoring
import ExecUnit.Proofs.Listing.Inline
import ExecUnit.Proofs.Listing.JumpTargets
import ExecUnit.Proofs.Listing.ModifierReports
import ExecUnit.Proofs.Listing.OperandText
import ExecUnit.Proofs.Listing.Operands
import ExecUnit.Proofs.Listing.Reports
import ExecUnit.Proofs.Listing.SetOperands
import ExecUnit.Proofs.Listing.Spelling
import ExecUnit.Proofs.Listing.Text
import ExecUnit.Proofs.Listing.Unambiguous
import ExecUnit.Proofs.Listing.Vocabulary
import ExecUnit.Proofs.Message.Descriptor
import ExecUnit.Proofs.Message.ExtendedDescriptor
import ExecUnit.Proofs.Message.Lengths
import ExecUnit.Proofs.Message.Payload
import ExecUnit.Proofs.Message.Wording
import ExecUnit.Proofs.Numeral.DecimalNumerals
import ExecUnit.Proofs.Numeral.FloatNumerals
import ExecUnit.Proofs.Numeral.RestrictedFloats
import ExecUnit.Proofs.Numeral.Rounding
import ExecUnit.Proofs.Operand.Acceptance
import ExecUnit.Proofs.Operand.AcceptedOperands
import ExecUnit.Proofs.Operand.Addresses
import ExecUnit.Proofs.Operand.ChecksAmongWrites
import ExecUnit.Proofs.Operand.Codes
import ExecUnit.Proofs.Operand.Decoding
import ExecUnit.Proofs.Operand.DestinationCodes
import ExecUnit.Proofs.Operand.DestinationRoundTrip
import ExecUnit.Proofs.Operand.ExecutionSize
import ExecUnit.Proofs.Operand.FittingOperands
import ExecUnit.Proofs.Operand.Frame
import ExecUnit.Proofs.Operand.KeptRegisters
import ExecUnit.Proofs.Operand.LegalRegions
import ExecUnit.Proofs.Operand.Runs
import ExecUnit.Proofs.Operand.SlotIndependence
import ExecUnit.Proofs.Operand.SourceCodes
import ExecUnit.Proofs.Operand.SourceRoundTrip
import ExecUnit.Proofs.Operand.TripleCodes
import ExecUnit.Proofs.Operand.TripleOrder
import ExecUnit.Proofs.Operand.TripleRoundTrip
import ExecUnit.Proofs.Operand.WriteBack
import ExecUnit.Proofs.Operand.WriteRead
import ExecUnit.Proofs.Program.Formats
import ExecUnit.Proofs.Program.Units
import ExecUnit.Proofs.Text.Cutting
import ExecUnit.Proofs.Text.HexNumerals
import ExecUnit.Proofs.Text.Literals
import ExecUnit.Proofs.Text.Plain
import ExecUnit.Proofs.Text.Utf8
import ExecUnit.Proofs.Text.Words
import ExecUnit.Refusal
import ExecUnit.Register.Basic
import ExecUnit.Register.Channel
import ExecUnit.Register.DataType
import ExecUnit.Register.Placed
import ExecUnit.Register.Region
import ExecUnit.RestrictedFloat
import ExecUnit.Text.HexLiteral
import ExecUnit.Text.Utf8
import ExecUnit.Proofs.CommandLine.Trees
