import NootedBlue.Csb.Visibility
import NootedBlue.Vbt.Layout
import NootedBlue.Opregion.Uninitialised
import NootedBlue.Opregion.Reads
import NootedBlue.Opregion.Calls
import NootedBlue.Opregion.Pointers
import NootedBlue.Link.Levels
import NootedBlue.Wa.Merge
import NootedBlue.Dmc.Safety
import NootedBlue.Dmc.Load
import NootedBlue.Guc.Protocol
import NootedBlue.Guc.Calls
import NootedBlue.Backlight.Controllers
import NootedBlue.De.Deadline
import NootedBlue.Pcode.Handshake
import NootedBlue.Display.PowerWells
import NootedBlue.Display.Rewrites
import NootedBlue.Link.Rates
import NootedBlue.Ddi.Polarity
import NootedBlue.Combo.Init
import NootedBlue.Ring.Progress
import NootedBlue.Doorbell.Ownership
import NootedBlue.Doorbell.Rotation
import NootedBlue.Contexts.Agreement
import NootedBlue.Vbt.Children
import NootedBlue.Vbt.GenericDtd
import NootedBlue.Vbt.PanelData
import NootedBlue.Vbt.Generated
import NootedBlue.Opregion.Connectors
import NootedBlue.Backlight.PanelType
import NootedBlue.Backlight.MinBrightness
import NootedBlue.Engines.MappingTable
import NootedBlue.Ads.CaptureAgree
import NootedBlue.Ads.Segments
import NootedBlue.Dmc.Leftover
import NootedBlue.Engines.Slicemask
import NootedBlue.Engines.Sseu
import NootedBlue.Link.Requests
import NootedBlue.Link.Retrain
import NootedBlue.Wa.Ledger
import NootedBlue.Vbt.BlockLedger
import NootedBlue.Backlight.Scale
import NootedBlue.Vbt.Refresh
import NootedBlue.Guc.Wopcm
import NootedBlue.Display.MergeNub
import NootedBlue.Wa.Whitelist
import NootedBlue.Ddi.PortSync
import NootedBlue.Ddi.Splitter
import NootedBlue.Ads.CaptureNodes
import NootedBlue.Ads.SteeredLists
import NootedBlue.Ads.Steering
import NootedBlue.Bringup.Order
import NootedBlue.Bringup.Sequence
