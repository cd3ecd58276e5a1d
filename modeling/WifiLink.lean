import WifiLink.Main
import WifiLink.SnrSearch
import WifiLink.Proofs.Exact.Basic
import WifiLink.Proofs.Exact.Nonnegative
import WifiLink.Proofs.Code.Pairwise
import WifiLink.Proofs.Code.Survival
import WifiLink.Proofs.Code.SurvivalRange
import WifiLink.Proofs.Code.Majority
import WifiLink.Proofs.Code.SpectrumOrder
import WifiLink.Proofs.Code.PairwiseOrder
import WifiLink.Proofs.Code.PairwiseComplement
import WifiLink.Proofs.Code.PairwiseRefusal
import WifiLink.Proofs.Code.BinomialAccuracy
import WifiLink.Proofs.Double.Order
import WifiLink.Proofs.BitError
import WifiLink.Proofs.BitError.Outcome
import WifiLink.Proofs.Mode.Rate
import WifiLink.Proofs.Mode.RateLaws
import WifiLink.Proofs.Transmission
import WifiLink.Proofs.Transmission.HeaderRate
import WifiLink.Proofs.Estimate.Basic
import WifiLink.Proofs.Estimate.Direct
import WifiLink.Proofs.Estimate.Monotone
import WifiLink.Proofs.Estimate.Outcome
import WifiLink.Proofs.Estimate.CodeRate
import WifiLink.Proofs.SnrSearch.Bracket
import WifiLink.Proofs.SnrSearch.Pinpoint
import WifiLink.Proofs.SnrSearch.Failure
import WifiLink.Proofs.SnrSearch.Outcome
import WifiLink.Proofs.SnrSearch.Convergence
import WifiLink.Proofs.SnrSearch.Order
import WifiLink.Proofs.SnrSearch.Progress
import WifiLink.Proofs.Exact.GaussianBounds
import WifiLink.Proofs.Rounded.Nearest
import WifiLink.Proofs.Rounded.Basic
import WifiLink.Proofs.Rounded.Middle
import WifiLink.Proofs.Rounded.Relative
import WifiLink.Proofs.BitError.Gaussian
import WifiLink.Proofs.Code.Robust
import WifiLink.Proofs.Estimate.Robust
import WifiLink.Proofs.Settings.Document
import WifiLink.Proofs.Settings.Bounds
import WifiLink.Proofs.Settings.Layers
import WifiLink.Proofs.Settings.File
import WifiLink.Proofs.Text.Utf8
import WifiLink.Proofs.Text.Csv
import WifiLink.Proofs.Text.Columns
import WifiLink.Proofs.Text.Layout
import WifiLink.Proofs.Sweep.Grid
import WifiLink.Proofs.Sweep.Rows
import WifiLink.Proofs.Sweep.Curves
import WifiLink.Proofs.Estimate.Stations
import WifiLink.Proofs.Command.Question
import WifiLink.Proofs.Command.Steps
import WifiLink.Proofs.Command.Failure
import WifiLink.Proofs.Command.Table
