import QnnEp.Model.Builders
import QnnEp.Qdq.Partitioned
import QnnEp.Model.Bf16Validate
import QnnEp.Ssr.Contexts
import QnnEp.SharedMemory.Lifetime
import QnnEp.Compat.RoundTrip
import QnnEp.Timing.Abort
import QnnEp.Power.Stranded
import QnnEp.Power.Inflight
import QnnEp.Context.NameOverrides
import QnnEp.Context.BinaryPath
import QnnEp.Slice.Elision
import QnnEp.Qdq.FoldedBounds
import QnnEp.Conv.WeightLayout
import QnnEp.LpPool.Sound
import QnnEp.Reduce.Sound
import QnnEp.Pad.Sound
import QnnEp.Resize.Sound
import QnnEp.MatMulNBits.Shared
import QnnEp.Rnn.Sound
import QnnEp.Softmax.Sound
import QnnEp.Fusion.TransposeReshapeTranspose
import QnnEp.Fusion.RankReductionChannels
import QnnEp.Fusion.GatherTransposeReshape
import QnnEp.Fusion.ReshapeTranspose
import QnnEp.Fusion.ChannelShuffle
import QnnEp.Fusion.DroppedEncodingsSound
import QnnEp.Fusion.ReshapeGemmSound
import QnnEp.Quant.LpbqInit
import QnnEp.Quant.BiasSound
import QnnEp.Quant.Narrowing
import QnnEp.Model.TwoDimensionTranspose
import QnnEp.Model.TransposeWorkaround
import QnnEp.Context.InputOutputOrder
import QnnEp.Compat.Validate
import QnnEp.Power.Pending
import QnnEp.ThreadPool.Progress
import QnnEp.Options.PerSoc
import QnnEp.Naming.NodeName
import QnnEp.Quant.Unsqueeze
import QnnEp.Quant.LpbqData
import QnnEp.Naming.Sanitize
