import MelodyAutomation.Folder
import MelodyAutomation.Main
import MelodyAutomation.Proofs.Ensemble.Automation
import MelodyAutomation.Proofs.Ensemble.Messages
import MelodyAutomation.Proofs.Ensemble.Noninterference
import MelodyAutomation.Proofs.Ensemble.Teardown
import MelodyAutomation.Proofs.Instrument.Agreement
import MelodyAutomation.Proofs.Melody.Strictness
import MelodyAutomation.Proofs.Schedule.Reference
import MelodyAutomation.Scalar.Rational
import MelodyAutomation.Value.Json
import MelodyAutomation.Proofs.Instrument.Moves
import MelodyAutomation.Proofs.SessionContracts
import MelodyAutomation.Proofs.Schedule.Causality
import MelodyAutomation.Proofs.Schedule.Octaves
import MelodyAutomation.Proofs.Value.Flattening
import MelodyAutomation.Proofs.Value.Keys
import MelodyAutomation.Proofs.Schedule.AlikeItems
import MelodyAutomation.Proofs.Schedule.Literals
import MelodyAutomation.Proofs.Settings
import MelodyAutomation.Proofs.Instrument.Configuration
import MelodyAutomation.Proofs.Value.Scalars
import MelodyAutomation.Proofs.Envelope.Scalars
import MelodyAutomation.Proofs.Yields
import MelodyAutomation.Proofs.Value.Rationals
import MelodyAutomation.Proofs.Instrument.Refusal
import MelodyAutomation.Proofs.Instrument.Timing
import MelodyAutomation.Proofs.Scalar.Sign
import MelodyAutomation.Proofs.Envelope.Totality
import MelodyAutomation.Proofs.Value.Refusals
import MelodyAutomation.Proofs.Schedule.Refusals
import MelodyAutomation.Proofs.Ensemble.Names
import MelodyAutomation.Proofs.Song
import MelodyAutomation.Proofs.Ensemble.Lookups
import MelodyAutomation.Proofs.Ensemble.Losses
import MelodyAutomation.Proofs.Melody.Mapping
import MelodyAutomation.Proofs.Registry.Savings
import MelodyAutomation.Proofs.Melody.Time
import MelodyAutomation.Proofs.Melody.Looping
import MelodyAutomation.Proofs.Melody.Prolonging
import MelodyAutomation.Proofs.Instrument.Precedence
import MelodyAutomation.Proofs.Instrument.Tempo
import MelodyAutomation.Proofs.Melody.Arpeggio
import MelodyAutomation.Proofs.Shape.Grammar
import MelodyAutomation.Proofs.Melody.Steps
import MelodyAutomation.Proofs.Settings.Aliases
import MelodyAutomation.Proofs.Scalar.Order
import MelodyAutomation.Proofs.Envelope.Decay
