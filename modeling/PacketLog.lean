import PacketLog.Bytes
import PacketLog.Bytes.RoundTrip
import PacketLog.CommandLine
import PacketLog.Cursor
import PacketLog.Cursor.Checked
import PacketLog.Event
import PacketLog.EventFilter
import PacketLog.EventFilter.Levels
import PacketLog.Failure
import PacketLog.FileTree
import PacketLog.IoError
import PacketLog.IoError.Kind
import PacketLog.IoError.System
import PacketLog.Json
import PacketLog.Json.Grammar
import PacketLog.Json.Spelling
import PacketLog.Json.Unambiguous
import PacketLog.Level
import PacketLog.Main
import PacketLog.Numeral
import PacketLog.Numeral.Base58
import PacketLog.Numeral.Base58.Reading
import PacketLog.Numeral.Decimal
import PacketLog.Proofs.Accounting
import PacketLog.Proofs.Buffering
import PacketLog.Proofs.Calls
import PacketLog.Proofs.Columns
import PacketLog.Proofs.Completion
import PacketLog.Proofs.Cut
import PacketLog.Proofs.Decoding
import PacketLog.Proofs.Diagnosis
import PacketLog.Proofs.Exactness
import PacketLog.Proofs.Faithful
import PacketLog.Proofs.Grammar
import PacketLog.Proofs.Lines
import PacketLog.Proofs.Logging
import PacketLog.Proofs.Lossless
import PacketLog.Proofs.Ordering
import PacketLog.Proofs.Rendering
import PacketLog.Proofs.Reporting
import PacketLog.Proofs.Reserved
import PacketLog.Proofs.Resuming
import PacketLog.Proofs.Showing
import PacketLog.Proofs.Statistics
import PacketLog.Proofs.Truncation
import PacketLog.Proofs.Writing
import PacketLog.Record.Basic
import PacketLog.Record.Line
import PacketLog.Record.Packed
import PacketLog.Record.RoundTrip
import PacketLog.Record.Wire
import PacketLog.Run
import PacketLog.Sink
import PacketLog.Sink.Piecemeal
import PacketLog.Sink.Taking
import PacketLog.Style
import PacketLog.Tally
import PacketLog.Text.Column
import PacketLog.Text.Line
import PacketLog.Text.Quoted
import PacketLog.Text.Span
import PacketLog.Text.Terminal
import PacketLog.Text.Utf8
import PacketLog.Text.Utf8.RoundTrip
import PacketLog.Text.Utf8.WellFormed
import PacketLog.Transcript
import PacketLog.Unicode.Extending
import PacketLog.Unicode.Ignorable
import PacketLog.Unicode.Lowercase
import PacketLog.Unicode.Ranges
import PacketLog.Unicode.Unprintable
import PacketLog.Writer
import PacketLog.Writer.Buffered
import PacketLog.Proofs.Naming
import PacketLog.Unicode.Lowercase.Ascii
import PacketLog.Proofs.Arguments
