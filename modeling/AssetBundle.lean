import AssetBundle.Main
import AssetBundle.Package.Task
import AssetBundle.Service.Launching
import AssetBundle.Trial.Client
import AssetBundle.Trial.GatewayServer
import AssetBundle.Trial.ProcessServer
import AssetBundle.Proofs.Cutting
import AssetBundle.Proofs.Keyed
import AssetBundle.Proofs.Number.Integer
import AssetBundle.Proofs.Text.Line
import AssetBundle.Proofs.Text.Utf8
import AssetBundle.Proofs.Text.Quoted
import AssetBundle.Proofs.Text.Case
import AssetBundle.Proofs.Gzip.Container
import AssetBundle.Proofs.Files.Draft
import AssetBundle.Proofs.Asset.Arrays
import AssetBundle.Proofs.Asset.ContentType
import AssetBundle.Proofs.Asset.Headers
import AssetBundle.Proofs.Asset.HeaderLines
import AssetBundle.Proofs.Asset.Table
import AssetBundle.Proofs.Bundle.Constant
import AssetBundle.Proofs.Bundle.Atomic
import AssetBundle.Proofs.Bundle.Faithful
import AssetBundle.Proofs.Bundle.Reading
import AssetBundle.Proofs.Bundle.Layout
import AssetBundle.Proofs.Bundle.Naming
import AssetBundle.Proofs.Bundle.Paths
import AssetBundle.Proofs.Bundle.Reproducible
import AssetBundle.Proofs.Bundle.RoundTrip
import AssetBundle.Proofs.Bundle.Selection
import AssetBundle.Proofs.Http.Request
import AssetBundle.Proofs.Http.Composition
import AssetBundle.Proofs.Http.Decision
import AssetBundle.Proofs.Http.Revalidation
import AssetBundle.Proofs.Http.ResponseReading
import AssetBundle.Proofs.Http.EntityTag
import AssetBundle.Proofs.Http.HeadMethod
import AssetBundle.Proofs.Http.RequestReading
import AssetBundle.Proofs.Http.RootPage
import AssetBundle.Proofs.Http.Upgrade
import AssetBundle.Proofs.Connection.Receiving
import AssetBundle.Proofs.Connection.Sending
import AssetBundle.Proofs.Connection.Interruption
import AssetBundle.Proofs.Connection.Ownership
import AssetBundle.Proofs.Connection.Segmentation
import AssetBundle.Proofs.Connection.Stopping
import AssetBundle.Proofs.Gateway.Scope
import AssetBundle.Proofs.Gateway.Wire
import AssetBundle.Proofs.Gateway.LookUp
import AssetBundle.Proofs.Gateway.Faults
import AssetBundle.Proofs.Gateway.Lifespan
import AssetBundle.Proofs.Command.Line
import AssetBundle.Proofs.Command.Ending
import AssetBundle.Proofs.Launch.Address
import AssetBundle.Proofs.Service.Launching
import AssetBundle.Proofs.Service.Root
import AssetBundle.Proofs.Service.Routing
