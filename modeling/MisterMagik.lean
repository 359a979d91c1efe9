import MisterMagik.Framebuffer.Coherence
import MisterMagik.Framebuffer.PlanCapacity
import MisterMagik.Framebuffer.PlanErrors
import MisterMagik.Framebuffer.Shift
import MisterMagik.Fpga.Presentation
import MisterMagik.Fpga.Receipts
import MisterMagik.Host.CodecAgreement
import MisterMagik.Host.Bus
import MisterMagik.Input.Recovery
import MisterMagik.Input.Presses
import MisterMagik.UserState.Truthful
import MisterMagik.UserState.Projection
import MisterMagik.Catalog.Fallback
import MisterMagik.Catalog.NavRoundTrip
import MisterMagik.Catalog.NavBuild
import MisterMagik.Catalog.SearchBatch
import MisterMagik.Catalog.Variants
import MisterMagik.Catalog.MachineFamily
import MisterMagik.Launcher.Reveal
import MisterMagik.Launcher.Handoff
import MisterMagik.Launcher.SystemEntry
import MisterMagik.Framebuffer.StreamViewer
import MisterMagik.Framebuffer.ArcadeCopies
import MisterMagik.Framebuffer.VerticalScale
import MisterMagik.Framebuffer.StreamFraming
import MisterMagik.Controllers.Durable
import MisterMagik.Launcher.Director
import MisterMagik.Ini.Assign
import MisterMagik.Input.Reducer
import MisterMagik.Scenes.NearestAxis
import MisterMagik.Scenes.CopyRect
import MisterMagik.Controllers.Migration
import MisterMagik.Launcher.NavigationClock
import MisterMagik.Parade.ImageSelection
import MisterMagik.Parade.Runs
import MisterMagik.Launcher.OrientationRuns
import MisterMagik.Launcher.CapsuleRoundTrip
import MisterMagik.Launcher.ReturnRuns
import MisterMagik.Ini.Edits
import MisterMagik.Framebuffer.CachedSlots
import MisterMagik.Host.CachedSessions
