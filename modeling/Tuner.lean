import Tuner.Event.Writer
import Tuner.Main
import Tuner.Proofs.Deck.Correlation
import Tuner.Proofs.Deck.Creation
import Tuner.Proofs.Deck.Delivery
import Tuner.Proofs.Deck.Dialogs
import Tuner.Proofs.Deck.Playback
import Tuner.Proofs.Deck.Report
import Tuner.Proofs.Envelope
import Tuner.Proofs.Event.Lifting
import Tuner.Proofs.Link.Lifecycle
import Tuner.Proofs.Link.Traffic
import Tuner.Proofs.Session.Connection
import Tuner.Proofs.Event.Schema
import Tuner.Proofs.Event.Leniency
import Tuner.Console.History
import Tuner.Proofs.Command
import Tuner.Proofs.Console.Course
import Tuner.Proofs.Console.Orders
import Tuner.Proofs.Console.Settled
import Tuner.Proofs.Console.Dropped
import Tuner.Hub.History
import Tuner.Hub.Table
import Tuner.Proofs.Deck.Separation
import Tuner.Proofs.Notice
import Tuner.Proofs.Hub.OneList
import Tuner.Console.Printed
import Tuner.Proofs.Console.Listing
import Tuner.Proofs.Deck.Toggling
import Tuner.Proofs.Console.Grammar
import Tuner.Proofs.Event.Idents
import Tuner.Proofs.Settings
import Tuner.Proofs.Address
import Tuner.Proofs.Deck.Mix
import Tuner.Proofs.Deck.Review
import Tuner.Proofs.Console.Relisting
import Tuner.Proofs.Gain
import Tuner.Proofs.Speculative
