import Catalogue.Index.Sample
import Catalogue.Main
import Catalogue.Proofs.Cache.Torn
import Catalogue.Proofs.Index.Negation
import Catalogue.Proofs.Index.Retry
import Catalogue.Proofs.Index.Verbatim
import Catalogue.Proofs.Model.Session
import Catalogue.Proofs.Question.Overlap
import Catalogue.Proofs.Question.Place
import Catalogue.Proofs.Question.Span
import Catalogue.Proofs.Service.Translation
import Catalogue.Proofs.Model.Unfiltered
import Catalogue.Proofs.Model.Version
import Catalogue.Proofs.Index.Form
import Catalogue.Proofs.Index.Placeholders
import Catalogue.Proofs.Filter.Grammar
import Catalogue.Proofs.Json.Canonical
import Catalogue.Proofs.Digest.Sha256
import Catalogue.Proofs.Plan.Canonical
import Catalogue.Proofs.Json.Nesting
import Catalogue.Proofs.Model.Extraction
import Catalogue.Proofs.Model.Verdict
import Catalogue.Proofs.Plan.Schema
import Catalogue.Proofs.Text.MatchKey
import Catalogue.Proofs.Index.Refusal
import Catalogue.Proofs.Index.Literal
import Catalogue.Proofs.Index.Quoting
import Catalogue.Proofs.Index.Years
import Catalogue.Proofs.Service.Warnings
import Catalogue.Proofs.Model.Fragments
import Catalogue.Proofs.Index.Source
