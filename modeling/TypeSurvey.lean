import TypeSurvey.Main
import TypeSurvey.Proofs.Task.Session
import TypeSurvey.Proofs.Survey.Names
import TypeSurvey.Proofs.Survey.Agreement
import TypeSurvey.Proofs.Survey.Pipeline
import TypeSurvey.Proofs.Task.Display
import TypeSurvey.Proofs.Survey.WholeReports
import TypeSurvey.Proofs.Table.RowLines
import TypeSurvey.Proofs.Task.Rectangle
import TypeSurvey.Proofs.Task.DateOrder
import TypeSurvey.Proofs.Task.Commutation
import TypeSurvey.Proofs.Survey.LevelOrder
import TypeSurvey.Proofs.Survey.TypeTree
import TypeSurvey.Proofs.Survey.DictType
import TypeSurvey.Proofs.Survey.LastBinding
import TypeSurvey.Proofs.Survey.Rearrangement
import TypeSurvey.Proofs.Survey.Signature
import TypeSurvey.Proofs.Survey.VariableRows
import TypeSurvey.Proofs.Text.ColourWrap
import TypeSurvey.Proofs.Table.DecimalPoint
import TypeSurvey.Proofs.Table.VisibleWidth
import TypeSurvey.Proofs.Table.ColouredNumber
import TypeSurvey.Proofs.Table.Markup
import TypeSurvey.Proofs.Table.TabSeparated
import TypeSurvey.Proofs.Table.WrappedGrid
import TypeSurvey.Proofs.Table.Grouped
import TypeSurvey.Proofs.Table.Labels
import TypeSurvey.Proofs.Table.Latex
