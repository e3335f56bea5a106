import VkVideoParser.H264.Sequence
import VkVideoParser.H264.Disposal
import VkVideoParser.H264.Entries
import VkVideoParser.H264.LastField
import VkVideoParser.H264.FrameIdx
import VkVideoParser.H264.PictureFlags
import VkVideoParser.H264.NeedsBump
import VkVideoParser.H264.DirectOutput
import VkVideoParser.H264.FrameNumGap
import VkVideoParser.H264.OrderCountMsb
import VkVideoParser.H264.FrameNumOffset
import VkVideoParser.H264.SliceGroups
import VkVideoParser.H264.SlidingWindow
import VkVideoParser.H264.LongTermFrameIdx
import VkVideoParser.H264.RefPicListModification
import VkVideoParser.H264.DisplayedOnce
import VkVideoParser.H264.CodecData
import VkVideoParser.H265.Sets
import VkVideoParser.H265.RefPicSetIndices
import VkVideoParser.H265.ScalingLists
import VkVideoParser.H265.Translation
import VkVideoParser.H265.RefPicMarking
import VkVideoParser.H265.BumpLimits
import VkVideoParser.H265.OrderCount
import VkVideoParser.H265.RandomAccess
import VkVideoParser.H265.ReorderDepth
import VkVideoParser.H265.RefPicLists
import VkVideoParser.H265.DisplayedOnce
import VkVideoParser.H265.AllDisplayed
import VkVideoParser.H265.CodecData
import VkVideoParser.Decoders
import VkVideoParser.ParserObject
import VkVideoParser.FrameRate
import VkVideoParser.DisplayOrder
import VkVideoParser.OutputCounter
import VkVideoParser.ScanFlags
import VkVideoParser.Redundancy
import VkVideoParser.DemuxerES.Errors
import VkVideoParser.H264.ReferencesListed
