import Skirmish.Dice.Remote
import Skirmish.Dice.Scripted
import Skirmish.Main
import Skirmish.Proofs.Resolution.Damage
import Skirmish.Session.Broadcast
import Skirmish.Wire.Slot
import Skirmish.Proofs.Resolution.Attacks
import Skirmish.Proofs.Resolution.Requests
import Skirmish.Proofs.Resolution.DiceBound
import Skirmish.Proofs.Resolution.Waiting
import Skirmish.Proofs.Session.Failure
import Skirmish.Proofs.Command.Order
import Skirmish.Proofs.Command.Naming
import Skirmish.Proofs.Session.Extension
import Skirmish.Proofs.Session.Notes
import Skirmish.Proofs.Session.Chronicle
import Skirmish.Proofs.Resolution.Relevance
import Skirmish.Proofs.Command.Size
import Skirmish.Proofs.Resolution.Exact
import Skirmish.Proofs.Session.Sharing
import Skirmish.Proofs.Resolution.Silence
import Skirmish.Proofs.Session.Cancel
import Skirmish.Proofs.Resolution.EasierTarget
import Skirmish.Proofs.Session.Seeds
import Skirmish.Proofs.Command.Segments
import Skirmish.Proofs.Writing.Damage
import Skirmish.Proofs.Writing.Passes
import Skirmish.Proofs.Writing.ArmorClasses
import Skirmish.Proofs.Resolution.Defenses
import Skirmish.Proofs.Report.DamageLine
import Skirmish.Proofs.Resolution.Sampled
import Skirmish.Proofs.Report.Listing
import Skirmish.Proofs.Attack.Modes
import Skirmish.Proofs.Dice.Scripted
import Skirmish.Proofs.Notebook.Calls
import Skirmish.Proofs.Command.Spelling
import Skirmish.Proofs.Wire.Slot
