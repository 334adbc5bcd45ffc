import GuestHost.Guest.Program
import GuestHost.Proofs.Audio.Planar
import GuestHost.Proofs.Calendar
import GuestHost.Proofs.Config.Print
import GuestHost.Proofs.Console
import GuestHost.Proofs.Container.Prefix
import GuestHost.Proofs.Display.Blend
import GuestHost.Proofs.Guest.Printing
import GuestHost.Proofs.Memory.Store
import GuestHost.Proofs.Session.Binding
import GuestHost.Proofs.Session.Construction
import GuestHost.Proofs.Session.Frames
import GuestHost.Proofs.Session.Hotkey
import GuestHost.Proofs.Session.Missing
import GuestHost.Proofs.Session.Protocol
import GuestHost.Proofs.Session.Pull
import GuestHost.Proofs.Session.Strict
import GuestHost.Proofs.Session.Touch
import GuestHost.Proofs.Session.Wakeup
