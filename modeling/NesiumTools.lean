import NesiumTools.Py.Runtime
import NesiumTools.Py.Str
import NesiumTools.Trace.Fields
import NesiumTools.Trace.Events
import NesiumTools.Trace.Align
import NesiumTools.Trace.Apu
import NesiumTools.Trace.Nmi
import NesiumTools.Trace.Ppu
import NesiumTools.Trace.HexReaders
import NesiumTools.Trace.Written
import NesiumTools.Trace.WrittenPpu
import NesiumTools.Trace.Tools
import NesiumTools.Frame.Files
import NesiumTools.Frame.Palette
import NesiumTools.Frame.PaletteSpec
import NesiumTools.Frame.Rgb24
import NesiumTools.Frame.Rgb24Spec
import NesiumTools.Frame.Mask
import NesiumTools.Frame.MaskSpec
import NesiumTools.Frame.Mains
import NesiumTools.Frame.Reports
import NesiumTools.ExitStatus
