import Ram.Image.Encode
import Ram.Image.Decode
import Ram.Main
import Ram.Runner.Shared
import Ram.Sample
import Ram.Proofs.Text.Lowercase
import Ram.Proofs.Text.Blank
import Ram.Proofs.Text.Context
import Ram.Proofs.Text.Sigma
import Ram.Proofs.Numeral
import Ram.Proofs.InOrder
import Ram.Proofs.Table
import Ram.Proofs.Instruction
import Ram.Proofs.Builder
import Ram.Proofs.Assembly.LabelTable
import Ram.Proofs.Assembly.LabelMaps
import Ram.Proofs.Assembly.Statement
import Ram.Proofs.Assembly.SourceLine
import Ram.Proofs.Assembly.Printable
import Ram.Proofs.Assembly.Token
import Ram.Proofs.Assembly.Language
import Ram.Proofs.Assembly.Resolution
import Ram.Proofs.Assembly.RoundTrip
import Ram.Proofs.Assembly.Passes
import Ram.Proofs.Assembly.FirstError
import Ram.Proofs.Assembly.Argument
import Ram.Proofs.Assembly.Errors
import Ram.Proofs.Assembly.Relocation
import Ram.Proofs.Assembly.Items
import Ram.Proofs.Assembly.Layout
import Ram.Proofs.Assembly.Spelling
import Ram.Proofs.Image.Encode
import Ram.Proofs.Image.RoundTrip
import Ram.Proofs.Image.Decode
import Ram.Proofs.Image.Validity
import Ram.Proofs.ToolChain
import Ram.Proofs.Machine.Run
import Ram.Proofs.Machine.Budget
import Ram.Proofs.Machine.Work
import Ram.Proofs.Machine.InPlace
import Ram.Proofs.Machine.Bounds
import Ram.Proofs.Machine.Making
import Ram.Proofs.Machine.Fresh
import Ram.Proofs.Machine.LabelNames
import Ram.Proofs.Machine.Faults
import Ram.Proofs.Machine.AfterFault
import Ram.Proofs.Machine.Path
import Ram.Proofs.Machine.ReadSet
import Ram.Proofs.Machine.WriteSet
import Ram.Proofs.Machine.Display
import Ram.Proofs.Machine.Forward
import Ram.Proofs.Drivers
import Ram.Proofs.Session
import Ram.Proofs.Runner.Accounting
import Ram.Proofs.Runner.Stop
import Ram.Proofs.Sample.Basic
import Ram.Proofs.Sample.Multiply
import Ram.Proofs.Sample.DoubleTape
