import H618Vpu.Bits.BoolCoder
import H618Vpu.Bits.Cursor
import H618Vpu.Bits.ExpGolomb
import H618Vpu.Bits.Reader
import H618Vpu.Bits.WordBytes
import H618Vpu.Bits.Words
import H618Vpu.Bytes.Image
import H618Vpu.Bytes.Layout
import H618Vpu.Bytes.Memory
import H618Vpu.Machine.Gather
import H618Vpu.Machine.History
import H618Vpu.Machine.Ledger
import H618Vpu.Machine.Port
import H618Vpu.Machine.PortBytes
import H618Vpu.Machine.Reading
import H618Vpu.Machine.Related
import H618Vpu.Machine.Run
import H618Vpu.Machine.Touching
import H618Vpu.Math.Align
import H618Vpu.Math.Reciprocal
import H618Vpu.Math.Search
import H618Vpu.Math.Tiling
import H618Vpu.Model.DecBits
import H618Vpu.Model.DecH264
import H618Vpu.Model.DecH264Access
import H618Vpu.Model.DecH264Sram
import H618Vpu.Model.DecH265
import H618Vpu.Model.DecH265Sram
import H618Vpu.Model.DecMvCol
import H618Vpu.Model.DecVp8
import H618Vpu.Model.Device
import H618Vpu.Model.EncoderFile
import H618Vpu.Model.Formats
import H618Vpu.Model.H264Controls
import H618Vpu.Model.H264Enc
import H618Vpu.Model.H264Headers
import H618Vpu.Model.JpegEnc
import H618Vpu.Model.JpegFile
import H618Vpu.Model.LegacyCoherent
import H618Vpu.Model.LegacyDebugInfo
import H618Vpu.Model.LegacyDriver
import H618Vpu.Model.LegacyEngine
import H618Vpu.Model.LegacyLocks
import H618Vpu.Model.MemAdapter
import H618Vpu.Model.OpenFile
import H618Vpu.Model.Power
import H618Vpu.Model.Queues
import H618Vpu.Model.Selection
import H618Vpu.Model.Streaming
import H618Vpu.Model.Vp9Controls
import H618Vpu.Model.Vp9Decoder
import H618Vpu.Model.Vp9Image
import H618Vpu.Model.Vp9Probs
import H618Vpu.Model.Vp9ProbsTool
import H618Vpu.Model.Vp9Program
import H618Vpu.Model.Vp9Quant
import H618Vpu.Model.Vp9Recon
import H618Vpu.Model.Vp9Setup
import H618Vpu.Model.Vp9Snapshot
import H618Vpu.Soundness.CodedSlots
import H618Vpu.Soundness.DecBits
import H618Vpu.Soundness.DecH264Bounds
import H618Vpu.Soundness.DecH264Slots
import H618Vpu.Soundness.DecH264Sram
import H618Vpu.Soundness.DecH265Bounds
import H618Vpu.Soundness.DecH265Sram
import H618Vpu.Soundness.DecH265Tiles
import H618Vpu.Soundness.DecMvCol
import H618Vpu.Soundness.EncoderGeometry
import H618Vpu.Soundness.EncoderHeaders
import H618Vpu.Soundness.EncoderReferences
import H618Vpu.Soundness.FormatBuffers
import H618Vpu.Soundness.FormatConstraints
import H618Vpu.Soundness.H264Failures
import H618Vpu.Soundness.H264Headers
import H618Vpu.Soundness.H264Neighbours
import H618Vpu.Soundness.H264Order
import H618Vpu.Soundness.H264ParameterSets
import H618Vpu.Soundness.H264Profiles
import H618Vpu.Soundness.H264Races
import H618Vpu.Soundness.H264Ranges
import H618Vpu.Soundness.H264Tracking
import H618Vpu.Soundness.JobCompletion
import H618Vpu.Soundness.JpegFile
import H618Vpu.Soundness.JpegHeaders
import H618Vpu.Soundness.LegacyClocks
import H618Vpu.Soundness.LegacyCoherent
import H618Vpu.Soundness.LegacyDebugInfo
import H618Vpu.Soundness.LegacyDriver
import H618Vpu.Soundness.LegacyEngine
import H618Vpu.Soundness.LegacyHandles
import H618Vpu.Soundness.LegacyLocks
import H618Vpu.Soundness.LegacyMappings
import H618Vpu.Soundness.MemAdapter
import H618Vpu.Soundness.OpenFile
import H618Vpu.Soundness.Power
import H618Vpu.Soundness.Release
import H618Vpu.Soundness.Selection
import H618Vpu.Soundness.Streaming
import H618Vpu.Soundness.Vp8Header
import H618Vpu.Soundness.Vp9Adaptation
import H618Vpu.Soundness.Vp9Entropy
import H618Vpu.Soundness.Vp9Image
import H618Vpu.Soundness.Vp9IntraOnly
import H618Vpu.Soundness.Vp9Layout
import H618Vpu.Soundness.Vp9LoopFilter
import H618Vpu.Soundness.Vp9Nonzero
import H618Vpu.Soundness.Vp9ProbsTool
import H618Vpu.Soundness.Vp9Program
import H618Vpu.Soundness.Vp9Quantisers
import H618Vpu.Soundness.Vp9Recon
import H618Vpu.Soundness.Vp9References
import H618Vpu.Soundness.Vp9Runs
import H618Vpu.Soundness.Vp9Scaling
import H618Vpu.Soundness.Vp9SegmentMap
import H618Vpu.Soundness.Vp9Segments
import H618Vpu.Soundness.Vp9Setup
import H618Vpu.Soundness.Vp9Snapshot
import H618Vpu.Soundness.Vp9Tiles
import H618Vpu.Spec.H264SliceSyntax
import H618Vpu.Spec.H264Syntax
import H618Vpu.Spec.JpegSegments
import H618Vpu.Spec.PicOrder
import H618Vpu.Spec.SymbolTree
import H618Vpu.Spec.Vp8Syntax
import H618Vpu.Spec.Vp9Adaptation
import H618Vpu.Spec.Vp9Process
