import TouchPanel.Device.Description
import TouchPanel.Pattern.Basic
import TouchPanel.Pointer.Guard
import TouchPanel.Pointer.Stroke
import TouchPanel.Trace.Journal
import TouchPanel.Trace.Replay
import TouchPanel.Host.Event
import TouchPanel.Host.Pixels
import TouchPanel.Pattern.Differ
import TouchPanel.Settings.Reader
import TouchPanel.Session.Basic
import TouchPanel.Main
import TouchPanel.Proofs.Contact.Frame
import TouchPanel.Proofs.Contact.Button
import TouchPanel.Proofs.Session.Strokes
import TouchPanel.Proofs.Gesture.Grammar
import TouchPanel.Proofs.Gesture.Touch
import TouchPanel.Proofs.Session.Ledger
import TouchPanel.Proofs.Session.Waiting
import TouchPanel.Proofs.Session.Reading
import TouchPanel.Proofs.Trace.Replay
import TouchPanel.Proofs.Trace.Recording
import TouchPanel.Proofs.Inbox.Screen
import TouchPanel.Proofs.Producer.Relaying
import TouchPanel.Proofs.Session.Forwarding
import TouchPanel.Proofs.Gesture.Tick
import TouchPanel.Proofs.Gesture.Drag
import TouchPanel.Proofs.Gesture.Transpose
import TouchPanel.Proofs.Trace.Ticks
import TouchPanel.Proofs.Contact.Group
import TouchPanel.Proofs.Contact.Probe
import TouchPanel.Proofs.Pattern.Strokes
import TouchPanel.Proofs.Trace.Rows
import TouchPanel.Proofs.Session.Mirroring
import TouchPanel.Proofs.Gesture.Secondary
import TouchPanel.Proofs.Pointer.Lookup
import TouchPanel.Proofs.Pointer.Mending
import TouchPanel.Proofs.Inbox.Sharing
import TouchPanel.Proofs.Kernel.Dump
import TouchPanel.Proofs.Kernel.Splitting
import TouchPanel.Proofs.Trace.Keeping
import TouchPanel.Proofs.Trace.Reading
import TouchPanel.Proofs.Session.Holding
import TouchPanel.Proofs.Device.Survey
import TouchPanel.Proofs.Pattern.Differ
import TouchPanel.Proofs.Producer.Queue
import TouchPanel.Proofs.Session.Starting
import TouchPanel.Proofs.Session.Ending
import TouchPanel.Proofs.Command.Expecting
import TouchPanel.Proofs.Device.Discovery
import TouchPanel.Proofs.Trace.Delay
import TouchPanel.Proofs.Gesture.Exact
import TouchPanel.Proofs.Pattern.Ending
