import KubectlMatch.Text.Blank
import KubectlMatch.Text.CodePoint
import KubectlMatch.Text.Width
import KubectlMatch.Text.Utf8
import KubectlMatch.Text.Quoted
import KubectlMatch.Version.Label
import KubectlMatch.Version.Basic
import KubectlMatch.Version.Parse
import KubectlMatch.Host.Text
import KubectlMatch.Host.Platform
import KubectlMatch.Host.Duration
import KubectlMatch.Files.Path
import KubectlMatch.Binary.Selection
import KubectlMatch.Cache.Store
import KubectlMatch.Files.Error
import KubectlMatch.Files.System
import KubectlMatch.Files.Lookup
import KubectlMatch.Files.Operations
import KubectlMatch.Http.Error
import KubectlMatch.Client.Version
import KubectlMatch.Resolution.Error
import KubectlMatch.Finder.Basic
import KubectlMatch.Resolution.Policy
import KubectlMatch.Text.Table
import KubectlMatch.Mirror.Fetch
import KubectlMatch.Cli.Run
import KubectlMatch.Settings.Locations
import KubectlMatch.Cli.Command
import KubectlMatch.Yaml.Fault
import KubectlMatch.Yaml.Cursor
import KubectlMatch.Yaml.Scalar
import KubectlMatch.Yaml.Token
import KubectlMatch.Yaml.Node
import KubectlMatch.Yaml.Decode
import KubectlMatch.Settings.Load
import KubectlMatch.Text.Base64
import KubectlMatch.Cluster.Kubeconfig
import KubectlMatch.Json.Value
import KubectlMatch.Launch.Image
import KubectlMatch.Launch.Replace
import KubectlMatch.Http.Punycode
import KubectlMatch.Http.Host
import KubectlMatch.Http.Address
import KubectlMatch.Http.Status
import KubectlMatch.Http.Client
import KubectlMatch.Checksum.Sha256
import KubectlMatch.Http.Pem
import KubectlMatch.Http.Certificate
import KubectlMatch.Cluster.Probe
import KubectlMatch.Mirror.Transfer
import KubectlMatch.World
import KubectlMatch.Main
import KubectlMatch.Proofs.Success
import KubectlMatch.Proofs.Version.Order
import KubectlMatch.Proofs.Version.Window
import KubectlMatch.Proofs.Version.Spelling
import KubectlMatch.Proofs.Version.Grammar
import KubectlMatch.Proofs.Binary.Preference
import KubectlMatch.Proofs.Binary.Choice
import KubectlMatch.Proofs.Resolution.Fallback
import KubectlMatch.Proofs.Files.Changes
import KubectlMatch.Proofs.Files.Walks
import KubectlMatch.Proofs.Files.Places
import KubectlMatch.Proofs.Files.Joins
import KubectlMatch.Proofs.Files.Directories
import KubectlMatch.Proofs.Cache.Entries
import KubectlMatch.Proofs.Files.Operations
import KubectlMatch.Proofs.Finder.Reports
import KubectlMatch.Proofs.Resolution.Availability
import KubectlMatch.Proofs.Resolution.Usability
import KubectlMatch.Proofs.Mirror.Transfers
import KubectlMatch.Proofs.Mirror.Fetching
import KubectlMatch.Proofs.Mirror.Downloads
import KubectlMatch.Proofs.Mirror.Interleaving
import KubectlMatch.Proofs.Cache.Histories
import KubectlMatch.Proofs.Cache.Contents
import KubectlMatch.Proofs.Resolution.Provision
import KubectlMatch.Proofs.Launch.Starting
import KubectlMatch.Proofs.Cli.Handover
import KubectlMatch.Proofs.Binary.Sorting
import KubectlMatch.Proofs.Files.Removals
import KubectlMatch.Proofs.Resolution.Lookups
import KubectlMatch.Proofs.Version.Precedence
import KubectlMatch.Proofs.Finder.Scanning
import KubectlMatch.Proofs.Cache.Spellings
import KubectlMatch.Proofs.Settings.Layers
import KubectlMatch.Proofs.Text.Base64
import KubectlMatch.Proofs.Cluster.Chain
import KubectlMatch.Proofs.Http.Requests
import KubectlMatch.Proofs.Cluster.Probing
import KubectlMatch.Proofs.Launch.Searching
import KubectlMatch.Proofs.Http.Segments
import KubectlMatch.Proofs.Mirror.Addresses
import KubectlMatch.Proofs.Resolution.Targets
import KubectlMatch.Proofs.Cli.Listings
import KubectlMatch.Proofs.Finder.Names
