import FilterSql.JsonText
import FilterSql.Placeholders
import FilterSql.QueryJson
import FilterSql.QueryString
import FilterSql.SchemaJson
import FilterSql.SelectStatement
import FilterSql.Proofs.ParameterPairs
import FilterSql.Proofs.ConditionKeys
import FilterSql.Proofs.FormAlphabet
import FilterSql.Proofs.IntegerReading
import FilterSql.Proofs.QueryPairs
import FilterSql.Proofs.QueryRoundTrip
import FilterSql.Proofs.Compilation
import FilterSql.Proofs.ValueIndependence
import FilterSql.Proofs.PlaceholderScan
import FilterSql.Proofs.StatementExpansion
import FilterSql.Proofs.CompilationChecks
import FilterSql.Proofs.PlanAgreement
import FilterSql.Proofs.ReadQueries
import FilterSql.Proofs.ParameterOrder
import FilterSql.Proofs.SchemaAgreement
import FilterSql.Proofs.MergedConditions
import FilterSql.Proofs.ParameterGrammar
import FilterSql.Proofs.PlaceholderBinding
import FilterSql.Proofs.ExpandedStatements
import FilterSql.Proofs.ScanComposition
import FilterSql.Proofs.FilterComposition
import FilterSql.Proofs.ConditionOutcome
import FilterSql.Proofs.QueryNumbers
import FilterSql.Proofs.StatementClauses
import FilterSql.Proofs.DisplayedValues
import FilterSql.Proofs.ProjectionAlignment
import FilterSql.Proofs.ParameterMultimap
import FilterSql.Proofs.JoinedQueryStrings
import FilterSql.Proofs.JsonReading
import FilterSql.Proofs.WrittenSchemas
import FilterSql.Proofs.WrittenQueries
import FilterSql.Proofs.WrittenQueryStrings
