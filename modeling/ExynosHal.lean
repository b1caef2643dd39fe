import ExynosHal.TransitionSystem
import ExynosHal.DebugData
import ExynosHal.ActiveConfig
import ExynosHal.WindowConfig
import ExynosHal.MppCapacity
import ExynosHal.GeometryFlags
import ExynosHal.WindowUpdate
import ExynosHal.ExynosRange
import ExynosHal.JpegCompressor
import ExynosHal.RejectedLayers
import ExynosHal.TsmuxTimestamp
import ExynosHal.TsmuxCounter
import ExynosHal.TsmuxBuffers
import ExynosHal.ScalerFences
import ExynosHal.AcrylGeometry
import ExynosHal.GiantTiles
import ExynosHal.ScalerSession
import ExynosHal.Mscl9810
import ExynosHal.Mscl3830
import ExynosHal.AssignmentMoves
import ExynosHal.MppLinks
import ExynosHal.ClientAddition
import ExynosHal.LogicalTypes
import ExynosHal.ClientPeeling
import ExynosHal.PrevFrame
import ExynosHal.FramebufferManager
import ExynosHal.FramebufferLifetime
import ExynosHal.FramebufferCache
import ExynosHal.DrmModes
import ExynosHal.ModeAgreement
import ExynosHal.BlobLifecycle
import ExynosHal.ReleaseFences
import ExynosHal.AppliedTime
import ExynosHal.HdrProcessing
import ExynosHal.MppSupport
import ExynosHal.PreAssignedCapacity
import ExynosHal.RestrictionTables
import ExynosHal.AssignmentRetries
import ExynosHal.OutBuffers
import ExynosHal.OverlayCrop
import ExynosHal.UpdateRegion
import ExynosHal.StaticLayers
import ExynosHal.HandleConfig
import ExynosHal.FenceTracer
import ExynosHal.LayerPreprocess
import ExynosHal.FenceOwnership
import ExynosHal.RtpPackets
import ExynosHal.PesStream
import ExynosHal.TsmuxPacketize
import ExynosHal.SegmentUpdate
import ExynosHal.ExifUpdate
import ExynosHal.GiantRuns
import ExynosHal.GiantPhases
import ExynosHal.CscMatrices
import ExynosHal.PerformanceRequest
import ExynosHal.GemHandles
import ExynosHal.SourceFences
import ExynosHal.Virtual8K
import ExynosHal.FrameCommit
import ExynosHal.CacheCleanup
import ExynosHal.DpuRestrictions
import ExynosHal.PriorityChange
import ExynosHal.JobFences
import ExynosHal.RepeaterBuffers
import ExynosHal.Prescaling
import ExynosHal.NonRecursiveLock
import ExynosHal.LockDiscipline
import ExynosHal.CommandEngine
import ExynosHal.GscalerRun
import ExynosHal.ValidateFallback
import ExynosHal.MppAssociation
import ExynosHal.DisplayPipes
import ExynosHal.OneShotTimer
import ExynosHal.VsyncWorker
import ExynosHal.ResourceManageThread
import ExynosHal.Crc
import ExynosHal.ProgramTables
import ExynosHal.TsmuxPsi
import ExynosHal.ShownSources
import ExynosHal.Painting
import ExynosHal.SoftwareScaler
import ExynosHal.MemToMem
