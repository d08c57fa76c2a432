import SignalBoard.Proofs.Periodic
import SignalBoard.Proofs.Rearranging
import SignalBoard.Proofs.Silence
import SignalBoard.Proofs.Sampling
import SignalBoard.Proofs.Stroke
import SignalBoard.Proofs.Scene
import SignalBoard.Proofs.Cutting
import SignalBoard.Proofs.OrderedMap
import SignalBoard.Proofs.Dragging
import SignalBoard.Proofs.Grammar
