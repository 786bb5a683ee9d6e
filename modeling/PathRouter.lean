import PathRouter.Unicode.Properties
import PathRouter.Unicode.Script
import PathRouter.Unicode.CaseFolding
import PathRouter.Regex.Search
import PathRouter.Regex.Escape
import PathRouter.Regex.Parser
import PathRouter.Template.Source
import PathRouter.Route
import PathRouter.Event
import PathRouter.Template.Setting
import PathRouter.Number.Numeral
import PathRouter.Template.Inject
import PathRouter.Percent
import PathRouter.Uri
import PathRouter.Extraction.Read
import PathRouter.Prefix
import PathRouter.Router
import PathRouter.Proofs.Regex.Search
import PathRouter.Proofs.Regex.Ways
import PathRouter.Proofs.Template.RoundTrip
import PathRouter.Proofs.Template.Groups
import PathRouter.Proofs.Template.SubPattern
import PathRouter.Proofs.Template.Modes
import PathRouter.Proofs.Template.Links
import PathRouter.Proofs.Template.Extension
import PathRouter.Proofs.Template.Injection
import PathRouter.Proofs.Router.Reachable
import PathRouter.Proofs.Router.Flatten
import PathRouter.Proofs.Router.Precedence
import PathRouter.Proofs.Router.Coverage
import PathRouter.Proofs.Router.LayeredFallback
import PathRouter.Proofs.Router.NestedKeys
import PathRouter.Proofs.Router.Told
import PathRouter.Proofs.Percent
import PathRouter.Proofs.Router.Encoded
import PathRouter.Proofs.Router.NestedPaths
import PathRouter.Proofs.Template.Literal
import PathRouter.Proofs.Route.Same
import PathRouter.Proofs.Extraction.Absent
import PathRouter.Proofs.Extraction.Lookup
import PathRouter.Proofs.Template.Rewrite
import PathRouter.Proofs.Template.Slashes
import PathRouter.Proofs.Template.Scanner
import PathRouter.Proofs.Extraction.Undecodable
import PathRouter.Proofs.Extraction.Call
