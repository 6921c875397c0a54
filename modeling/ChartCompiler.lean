import ChartCompiler.Main
import ChartCompiler.Proofs.Layer.Closed
import ChartCompiler.Proofs.Layer.Markers
import ChartCompiler.Proofs.Chart.Bands
import ChartCompiler.Proofs.Chart.Labels
import ChartCompiler.Proofs.Chart.Legend
import ChartCompiler.Proofs.Chart.Sources
import ChartCompiler.Proofs.Table.Completion
import ChartCompiler.Proofs.CommandLine.Frame
import ChartCompiler.Proofs.References.Exact
import ChartCompiler.Value.Array
import ChartCompiler.Log.Limits
import ChartCompiler.Proofs.Layer.Defaults
import ChartCompiler.Proofs.Layer.Statistics
import ChartCompiler.Proofs.Files.Writing
import ChartCompiler.Proofs.Document.Following
import ChartCompiler.Proofs.Number.Order
import ChartCompiler.Proofs.Text.Numerals
import ChartCompiler.Proofs.Table.ColorDomain
import ChartCompiler.Proofs.Field.Labels
import ChartCompiler.Proofs.Table.Colors
import ChartCompiler.Proofs.Table.Recoloring
import ChartCompiler.Proofs.Table.WholeColors
import ChartCompiler.Proofs.Field.Missing
import ChartCompiler.Proofs.Table.MissingColors
import ChartCompiler.Proofs.Table.Truncation
import ChartCompiler.Proofs.Text.Written
import ChartCompiler.Proofs.Table.Extents
import ChartCompiler.Proofs.Table.Reordering
import ChartCompiler.Proofs.Table.Cleaned
import ChartCompiler.Proofs.Layer.Ranges
import ChartCompiler.Proofs.Layer.Boxplots
import ChartCompiler.Proofs.Layer.Vertices
import ChartCompiler.Proofs.Document.Domains
import ChartCompiler.Proofs.Layer.Domains
import ChartCompiler.Proofs.Layer.GivenNumbers
import ChartCompiler.Proofs.Chart.Intervals
import ChartCompiler.Proofs.Layer.Regression
import ChartCompiler.Proofs.Layer.Jitters
import ChartCompiler.Proofs.Descriptor
import ChartCompiler.Proofs.Field.Numbers
import ChartCompiler.Proofs.Files.Paths
import ChartCompiler.Proofs.Files.Pages
