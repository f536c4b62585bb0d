import DataGrid.Answer
import DataGrid.Config
import DataGrid.Config.File
import DataGrid.Error
import DataGrid.Filter.Compile
import DataGrid.Filter.Operator
import DataGrid.Filter.Tree
import DataGrid.Json.Reader
import DataGrid.Json.Tagged
import DataGrid.Json.Writer
import DataGrid.Log
import DataGrid.Log.Logger
import DataGrid.Moment
import DataGrid.Number.Decimal
import DataGrid.Number.Double
import DataGrid.Number.Shortest
import DataGrid.Number.Text
import DataGrid.Override
import DataGrid.Override.Operation
import DataGrid.Paging
import DataGrid.Predicate.Method
import DataGrid.Predicate.Script
import DataGrid.Predicate.Store
import DataGrid.Proofs.ActionSteps
import DataGrid.Proofs.BlankedValues
import DataGrid.Proofs.ColumnSearch
import DataGrid.Proofs.ColumnTables
import DataGrid.Proofs.ConditionReading
import DataGrid.Proofs.FilterComposition
import DataGrid.Proofs.FilterMeaning
import DataGrid.Proofs.FilterNesting
import DataGrid.Proofs.FilterPasses
import DataGrid.Proofs.GlobalSearch
import DataGrid.Proofs.GroupBuilding
import DataGrid.Proofs.GroupClause
import DataGrid.Proofs.GroupUnfolding
import DataGrid.Proofs.HandleCondition
import DataGrid.Proofs.JoinRecord
import DataGrid.Proofs.JoinRuns
import DataGrid.Proofs.JoinedRelations
import DataGrid.Proofs.JoinedRows
import DataGrid.Proofs.MarkedValues
import DataGrid.Proofs.MethodConditions
import DataGrid.Proofs.NameHoles
import DataGrid.Proofs.OverrideAdditions
import DataGrid.Proofs.PartReading
import DataGrid.Proofs.PathSearches
import DataGrid.Proofs.PredicateFold
import DataGrid.Proofs.PredicateTree
import DataGrid.Proofs.QueryGrowth
import DataGrid.Proofs.RawOperand
import DataGrid.Proofs.RelatedRows
import DataGrid.Proofs.RowScope
import DataGrid.Proofs.ScopeAgreement
import DataGrid.Proofs.ScriptTrees
import DataGrid.Proofs.SearchAgreement
import DataGrid.Proofs.SearchNarrowing
import DataGrid.Proofs.SearchSteps
import DataGrid.Proofs.SortRuns
import DataGrid.Proofs.SortTexts
import DataGrid.Proofs.SqlGrammar
import DataGrid.Proofs.SqlLayout
import DataGrid.Proofs.SqlSkeleton
import DataGrid.Proofs.StoreGrowth
import DataGrid.Proofs.TreeFilter
import DataGrid.Proofs.Truth
import DataGrid.Proofs.TwinColumns
import DataGrid.Proofs.TwinConditions
import DataGrid.Proofs.TwinPasses
import DataGrid.Proofs.TwinQueries
import DataGrid.Proofs.TwinSearches
import DataGrid.Proofs.UniformGroups
import DataGrid.Proofs.ValueBlindness
import DataGrid.Query
import DataGrid.Query.Column
import DataGrid.Query.Database
import DataGrid.Query.Method
import DataGrid.Refresh
import DataGrid.Refresh.AddedColumn
import DataGrid.Refresh.Pass
import DataGrid.Relation
import DataGrid.Relation.Described
import DataGrid.Relation.Model
import DataGrid.Relation.Path
import DataGrid.Request
import DataGrid.Request.Column
import DataGrid.RowOrder
import DataGrid.Search
import DataGrid.Search.Pattern
import DataGrid.Sql.Adapter
import DataGrid.Sql.Condition
import DataGrid.Sql.Dialect
import DataGrid.Sql.Fragment
import DataGrid.Sql.Identifier
import DataGrid.Sql.Literal
import DataGrid.Sql.Naming
import DataGrid.Sql.Render
import DataGrid.Sql.Reserved
import DataGrid.Sql.Select
import DataGrid.Template.DecimalForm
import DataGrid.Template.Fields
import DataGrid.Template.MomentForm
import DataGrid.Template.Number
import DataGrid.Template.Part
import DataGrid.Template.Percent
import DataGrid.Template.Spec
import DataGrid.Text.Blank
import DataGrid.Text.CaseTable
import DataGrid.Text.Class
import DataGrid.Text.ClassTable
import DataGrid.Text.Encoding
import DataGrid.Text.Hex
import DataGrid.Text.Lower
import DataGrid.Text.Segment
import DataGrid.Value
import DataGrid.Value.Display
import DataGrid.Value.Integer
import DataGrid.Value.Item
import DataGrid.Value.Merge
import DataGrid.Value.Order
import DataGrid.Yaml.Cursor
import DataGrid.Yaml.Data
import DataGrid.Yaml.Form
import DataGrid.Yaml.Node
import DataGrid.Yaml.Scalar
import DataGrid.Yaml.Token
import DataGrid.Proofs.CountStatement
import DataGrid.Proofs.CountFrames
import DataGrid.Proofs.RefreshCounts
import DataGrid.Proofs.TotalCount
import DataGrid.Proofs.SingleJoins
import DataGrid.Proofs.StatementRows
import DataGrid.Proofs.WidenedQueries
import DataGrid.Proofs.ToOneRelations
import DataGrid.Proofs.RowRepetition
import DataGrid.Proofs.DistinctTables
import DataGrid.Proofs.DecodedRequests
import DataGrid.Proofs.ColumnReading
import DataGrid.Proofs.ColumnNames
import DataGrid.Proofs.EntryOrigins
import DataGrid.Proofs.HiddenColumns
import DataGrid.Proofs.QualifiedColumns
import DataGrid.Proofs.QuotedNames
import DataGrid.Proofs.PathLiterals
import DataGrid.Proofs.ValueTexts
import DataGrid.Proofs.JsonLimits
import DataGrid.Proofs.Refusals
import DataGrid.Proofs.ColumnEntries
import DataGrid.Proofs.RequestAccessors
import DataGrid.Proofs.SentNames
import DataGrid.Proofs.RawScanning
import DataGrid.Proofs.RawTexts
import DataGrid.Proofs.ClearTexts
import DataGrid.Proofs.RawClauses
import DataGrid.Proofs.OverrideVariants
import DataGrid.Proofs.Comparisons
import DataGrid.Proofs.LikePatterns
import DataGrid.Proofs.RegexSearches
import DataGrid.Proofs.BoundSearches
import DataGrid.Proofs.StatementFaults
import DataGrid.Proofs.RefusedLeaves
import DataGrid.Proofs.GroupLogics
import DataGrid.Proofs.TreeOutcomes
import DataGrid.Proofs.OrderFrames
import DataGrid.Proofs.JoinedColumns
import DataGrid.Proofs.AddedColumns
import DataGrid.Proofs.ClearTemplates
import DataGrid.Proofs.GroupCopies
import DataGrid.Proofs.MergedFields
import DataGrid.Proofs.SeparateCopies
import DataGrid.Proofs.UsableSettings
import DataGrid.Proofs.DeclaredPaths
import DataGrid.Proofs.ModelKeys
import DataGrid.Proofs.MergedRecords
import DataGrid.Proofs.JsonAnswers
