import SpendLedger.Csv.Reader
import SpendLedger.Main
import SpendLedger.Proofs.Service.Fetch
import SpendLedger.Proofs.Provider.Storable
import SpendLedger.Proofs.Ledger.Months
import SpendLedger.Proofs.Ledger.Totals
import SpendLedger.Proofs.Calendar.WholeMonth
import SpendLedger.Proofs.Service.Reads
import SpendLedger.Proofs.Provider.Estimate
import SpendLedger.Proofs.Service.ForecastChain
import SpendLedger.Proofs.Ledger.Alerts
import SpendLedger.Proofs.Ledger.CurrentMonth
import SpendLedger.Proofs.Service.Budget
import SpendLedger.Proofs.Service.Report
import SpendLedger.Proofs.Ledger.MonthCount
import SpendLedger.Proofs.Service.MonthOverMonth
import SpendLedger.Proofs.Ledger.Spending
import SpendLedger.Proofs.Service.AlertNames
import SpendLedger.Proofs.Provider.Pages
import SpendLedger.Proofs.Print.Records
import SpendLedger.Proofs.Print.Derived
import SpendLedger.Proofs.Toml.Plainest
import SpendLedger.Proofs.Toml.Document
import SpendLedger.Proofs.Command.Settings
import SpendLedger.Proofs.Form.Survival
import SpendLedger.Proofs.Ledger.WindowMonths
import SpendLedger.Proofs.Provider.Limit
import SpendLedger.Proofs.Number.Sign
import SpendLedger.Proofs.Service.ForecastFigure
import SpendLedger.Proofs.Service.Current
import SpendLedger.Proofs.Ledger.ClosestLine
import SpendLedger.Proofs.Ledger.TrendFigures
import SpendLedger.Proofs.Provider.AskedDays
import SpendLedger.Proofs.Provider.UsageDates
import SpendLedger.Proofs.Provider.PackedKeys
import SpendLedger.Proofs.Command.AccountShown
import SpendLedger.Proofs.Number.Parts
import SpendLedger.Proofs.Number.TotalOrder
import SpendLedger.Proofs.Command.Presets
import SpendLedger.Proofs.Config.FreeTierFile
import SpendLedger.Proofs.Ledger.Usage
import SpendLedger.Proofs.Service.Ranking
import SpendLedger.Proofs.Service.Thresholds
import SpendLedger.Proofs.Ledger.AlertTable
