import ShapeForge.Report.Files
import ShapeForge.Cli.Run
import ShapeForge.Report.Server
import ShapeForge.Report.Naming
import ShapeForge.Tools.Session
import ShapeForge.Report.Tools
import ShapeForge.Report.Config
import ShapeForge.Report.Generate
import ShapeForge.Proofs.Model.Members
import ShapeForge.Proofs.Mock.Skeleton
import ShapeForge.Proofs.Validation.Agreement
import ShapeForge.Proofs.Emit.Literals
import ShapeForge.Proofs.Emit.Directories
import ShapeForge.Proofs.Publishing.RoundTrip
import ShapeForge.Proofs.Mock.Growth
import ShapeForge.Proofs.Tools.ModelCache
import ShapeForge.Proofs.Watching
import ShapeForge.Proofs.Document.Encoding
import ShapeForge.Proofs.Validation.FirstFault
import ShapeForge.Proofs.Mock.Encoding
import ShapeForge.Proofs.Emit.Aliases
import ShapeForge.Proofs.Server.Merging
import ShapeForge.Proofs.Registration
import ShapeForge.Proofs.Emit.ParamNames
import ShapeForge.Proofs.Listing
import ShapeForge.Proofs.Tools.Privacy
import ShapeForge.Proofs.Model.Checked
import ShapeForge.Proofs.Naming.Legal
import ShapeForge.Proofs.Model.Payloads
