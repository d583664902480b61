import Metrology.Main
import Metrology.Measurement.Distinct
import Metrology.Unit.Catalog
import Metrology.Value.Arithmetic
import Metrology.Proofs.Result
import Metrology.Proofs.Unit.BuiltIn
import Metrology.Proofs.Unit.Name
import Metrology.Proofs.Unit.Written
import Metrology.Proofs.Unit.Dimensions
import Metrology.Proofs.Unit.Factor
import Metrology.Proofs.Unit.Layered
import Metrology.Proofs.Unit.Reading
import Metrology.Proofs.Measurement.Operations
import Metrology.Proofs.Measurement.Exact
import Metrology.Proofs.Measurement.Dimensions
import Metrology.Proofs.Measurement.Reachable
import Metrology.Proofs.Expression.Grammar
import Metrology.Proofs.Expression.TwoStacks
import Metrology.Proofs.Expression.Runs
import Metrology.Proofs.Expression.Exact
import Metrology.Proofs.Decimal.Layout
import Metrology.Proofs.Unit.Tokens
import Metrology.Proofs.Unit.Spelling
import Metrology.Proofs.Measurement.RoundTrip
import Metrology.Proofs.Expression.Agreement
import Metrology.Proofs.Measurement.UnitChoice
import Metrology.Proofs.Expression.UnitChoice
import Metrology.Proofs.Unit.Faults
import Metrology.Proofs.Measurement.Faults
import Metrology.Proofs.Expression.Faults
import Metrology.Proofs.Sheet.Faults
import Metrology.Proofs.CommandLine.Effect
import Metrology.Proofs.CommandLine.SheetEffect
import Metrology.Proofs.CommandLine.Isolation
import Metrology.Proofs.Text.Lines
import Metrology.Proofs.Sheet.Outcomes
import Metrology.Proofs.Sheet.Grammar
import Metrology.Proofs.Sheet.Records
import Metrology.Proofs.Sheet.Strict
import Metrology.Proofs.Sheet.Session
import Metrology.Proofs.Expression.Chain
import Metrology.Proofs.Expression.Steps
import Metrology.Proofs.Expression.Malformed
import Metrology.Proofs.Storage.Writing
import Metrology.Proofs.Report.Sections
import Metrology.Proofs.Measurement.Conversion
import Metrology.Proofs.CommandLine.Aggregation
import Metrology.Proofs.Decimal.RoundTrip
import Metrology.Proofs.Sheet.Chain
import Metrology.Proofs.Generator.Sheet
import Metrology.Proofs.Measurement.BaseForm
import Metrology.Proofs.Unit.Grammar
import Metrology.Proofs.Decimal.Grammar
import Metrology.Proofs.Measurement.Grammar
import Metrology.Proofs.Measurement.NormalForm
import Metrology.Proofs.Measurement.Order
import Metrology.Proofs.Measurement.Distinct
import Metrology.Proofs.Expression.Product
import Metrology.Proofs.Measurement.Sorted
import Metrology.Proofs.Measurement.ZeroDivision
import Metrology.Proofs.Sheet.Sorted
import Metrology.Proofs.Sheet.UnitNames
import Metrology.Proofs.Unit.Table
import Metrology.Proofs.Measurement.Families
import Metrology.Proofs.Generator.Writing
import Metrology.Proofs.Statistics.Mode
import Metrology.Proofs.Statistics.Median
import Metrology.Proofs.Statistics.Summary
import Metrology.Proofs.Unit.Leading
import Metrology.Proofs.Unit.Lineage
