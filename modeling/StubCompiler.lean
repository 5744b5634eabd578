import StubCompiler.Command.World
import StubCompiler.Main
import StubCompiler.Proofs.Blocks
import StubCompiler.Proofs.Text
import StubCompiler.Proofs.Signature
import StubCompiler.Proofs.RoundTrip
import StubCompiler.Proofs.Causality
import StubCompiler.Proofs.Declarations
import StubCompiler.Proofs.Output
import StubCompiler.Proofs.Writing
import StubCompiler.Proofs.Session
import StubCompiler.Proofs.OwnOutput
import StubCompiler.Proofs.Outcome
import StubCompiler.Proofs.Concatenation
import StubCompiler.Proofs.Influence
import StubCompiler.Proofs.Files
import StubCompiler.Proofs.Service
import StubCompiler.Proofs.Commands
import StubCompiler.Proofs.AllOrNothing
import StubCompiler.Proofs.Location
import StubCompiler.Proofs.Layout
import StubCompiler.Proofs.Prompt
import StubCompiler.Proofs.Reread
import StubCompiler.Proofs.Fences
import StubCompiler.Proofs.Report
import StubCompiler.Proofs.Matching
import StubCompiler.Proofs.Cursor
import StubCompiler.Proofs.Decoding
import StubCompiler.Proofs.Lines
