import SoqlSelect.Translator
import SoqlSelect.Proofs.NumberText
import SoqlSelect.Proofs.BareText
import SoqlSelect.Proofs.OperandReader
import SoqlSelect.Proofs.ListOperand
import SoqlSelect.Proofs.ConditionReader
import SoqlSelect.Proofs.Failure
import SoqlSelect.Proofs.Members
import SoqlSelect.Proofs.FilterParts
import SoqlSelect.Proofs.FilterRewriting
import SoqlSelect.Proofs.FilterDefects
import SoqlSelect.Proofs.FilterReading
import SoqlSelect.Proofs.StatementReader
import SoqlSelect.Proofs.EffectivePaging
import SoqlSelect.Proofs.PageTiling
import SoqlSelect.Proofs.RowLimit
import SoqlSelect.Proofs.FilledPaging
import SoqlSelect.Proofs.FilterSymbols
import SoqlSelect.Proofs.TwoRuns
import SoqlSelect.Proofs.StringContents
import SoqlSelect.Proofs.ExplicitForm
import SoqlSelect.Proofs.EntryOrder
import SoqlSelect.Proofs.IsoForm
import SoqlSelect.Proofs.OffsetWindows
import SoqlSelect.Proofs.IsoDate
import SoqlSelect.Proofs.CalendarDays
import SoqlSelect.Proofs.InstantText
import SoqlSelect.Proofs.InstantReading
import SoqlSelect.Proofs.LiteralKinds
import SoqlSelect.Proofs.BareStrings
import SoqlSelect.Proofs.DateOperand
import SoqlSelect.Proofs.JsonView
import SoqlSelect.Proofs.JsonNormalForm
import SoqlSelect.Proofs.DescriptorReading
import SoqlSelect.Proofs.JsonPassage
import SoqlSelect.Proofs.PathReading
import SoqlSelect.Proofs.ProvidedVariables
import SoqlSelect.Proofs.SettingsSources
