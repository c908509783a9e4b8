import Fulltext.Backend.Script
import Fulltext.Config.Layers
import Fulltext.Log.Logger
import Fulltext.Proofs.Client.Simulation
import Fulltext.Proofs.Config.Checks
import Fulltext.Proofs.Config.Layered
import Fulltext.Proofs.Config.MergedPaths
import Fulltext.Proofs.Config.Reloading
import Fulltext.Proofs.Filter.Distinct
import Fulltext.Proofs.Filter.Flags
import Fulltext.Proofs.Log.Applied
import Fulltext.Proofs.Log.Mirror
import Fulltext.Proofs.Log.Replaced
import Fulltext.Proofs.Query.Defaults
import Fulltext.Proofs.Query.Reachable
import Fulltext.Proofs.Query.Refused
import Fulltext.Proofs.Search.Equal
import Fulltext.Proofs.Search.Retry
import Fulltext.Search.Once
import Fulltext.Text.Quoted
import Fulltext.Proofs.Config.MergeLaws
import Fulltext.Proofs.Yaml.Names
import Fulltext.Proofs.Query.Weights
import Fulltext.Proofs.Search.FirstResult
import Fulltext.Proofs.Search.Warnings
import Fulltext.Proofs.Text.Spelling
import Fulltext.Proofs.Config.WrittenBack
import Fulltext.Proofs.Search.Scope
import Fulltext.Proofs.Client.Selection
