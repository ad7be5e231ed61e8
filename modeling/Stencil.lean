import Stencil.Blueprint.Codec
import Stencil.Catalogue
import Stencil.CommandLine.Run
import Stencil.Extraction.Meaning
import Stencil.Json.Settle
import Stencil.Proofs.Compile.PlainText
import Stencil.Store.File
import Stencil.Store.Memory
import Stencil.Proofs.Blueprint.Layouts
import Stencil.Proofs.Sample.Recognition
import Stencil.Proofs.Token.Preorder
import Stencil.Proofs.Learning.Levels
import Stencil.Proofs.Document.Splice
import Stencil.Proofs.Document.Transparency
import Stencil.Proofs.Extraction.Missing
import Stencil.Proofs.Extraction.Skeleton
import Stencil.Proofs.CommandLine.FailedCompile
import Stencil.Proofs.Store.Interchange
import Stencil.Proofs.Store.Atomicity
import Stencil.Proofs.Document.Inversion
import Stencil.Proofs.Catalogue.History
import Stencil.Proofs.Compile.Renaming
import Stencil.Proofs.Learning.Misfit
import Stencil.Proofs.Extraction.Repetitions
import Stencil.Proofs.Extraction.Truncation
import Stencil.Proofs.Address.Selector
import Stencil.Proofs.Sample.Marking
import Stencil.Proofs.Document.Siblings
import Stencil.Proofs.Store.OwnFiles
import Stencil.Proofs.Store.Listing
import Stencil.Proofs.Extraction.RepeatedNames
import Stencil.Proofs.Token.Shape
import Stencil.Proofs.Report.Paths
import Stencil.Proofs.CommandLine.Saving
import Stencil.Proofs.MarkerId.PrintedForm
