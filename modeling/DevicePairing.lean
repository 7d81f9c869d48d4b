import DevicePairing.Journal.Desk
import DevicePairing.Launch.Program
import DevicePairing.Main
import DevicePairing.Number.Decimal
import DevicePairing.Pad.Event
import DevicePairing.Pairings
import DevicePairing.Proofs.Journal.Reopen
import DevicePairing.Proofs.Pad.Outcome
import DevicePairing.Proofs.Pad.Service
import DevicePairing.Proofs.Pad.Verdict
import DevicePairing.Proofs.Pad.Version
import DevicePairing.Text.Lines
import DevicePairing.Proofs.Pad.Outstanding
import DevicePairing.Proofs.Web.Events
import DevicePairing.Proofs.Url.Form
import DevicePairing.Proofs.Url.Whole
import DevicePairing.Proofs.Url.Front
import DevicePairing.Proofs.Web.Pairing
import DevicePairing.Proofs.Journal.Tables
import DevicePairing.Proofs.Journal.Holding
import DevicePairing.Proofs.Journal.Runs
import DevicePairing.Proofs.Pad.Banner
import DevicePairing.Proofs.Url.Inset
import DevicePairing.Proofs.Discretion
import DevicePairing.Proofs.Pad.Veil
import DevicePairing.Proofs.Pad.Log
import DevicePairing.Proofs.Web.Veil
import DevicePairing.Proofs.Web.Recorded
import DevicePairing.Proofs.Pad.Gate
import DevicePairing.Proofs.Pad.Raised
import DevicePairing.Proofs.Journal.LastNumber
import DevicePairing.Proofs.Registry
import DevicePairing.Proofs.History
import DevicePairing.Proofs.Web.Waiting
import DevicePairing.Proofs.Journal.Adding
import DevicePairing.Proofs.Pad.Focus
import DevicePairing.Proofs.Pad.Typing
import DevicePairing.Proofs.Text.Occurrences
import DevicePairing.Proofs.Web.Page
import DevicePairing.Proofs.Journal.Filing
import DevicePairing.Proofs.Launch.Given
import DevicePairing.Proofs.Web.HandedOver
import DevicePairing.Proofs.Launch.Program
