import DisplayDrivers.Fence.Safety
import DisplayDrivers.Fence.Concurrent
import DisplayDrivers.DsiClk.Votes
import DisplayDrivers.DsiClk.Balance
import DisplayDrivers.Property.Dirty
import DisplayDrivers.Property.Blobs
import DisplayDrivers.Lib.PairSearch
import DisplayDrivers.Rm.ExtBlk
import DisplayDrivers.Power.Quota
import DisplayDrivers.Power.Refcount
import DisplayDrivers.Rsc.Mirror
import DisplayDrivers.Rsc.Idle
import DisplayDrivers.Rsc.ClockRef
import DisplayDrivers.DpMst.Reassembly
import DisplayDrivers.DpMst.Bounds
import DisplayDrivers.DpMst.Reply
import DisplayDrivers.Perf.Votes
import DisplayDrivers.Format.Check
import DisplayDrivers.Dp.Streams
import DisplayDrivers.Hdcp.Streams
import DisplayDrivers.Lease.Disjoint
import DisplayDrivers.Lease.OpenClose
import DisplayDrivers.Atomic.Exclusion
import DisplayDrivers.Atomic.Coverage
import DisplayDrivers.DsiParser.RoundTrip
import DisplayDrivers.RegDma.Payload
import DisplayDrivers.Ctl.Staged
import DisplayDrivers.Ctl.Summary
import DisplayDrivers.Irq.Counts
import DisplayDrivers.Irq.Delivery
import DisplayDrivers.Encoder.ResourceControl
import DisplayDrivers.Encoder.Handles
import DisplayDrivers.Encoder.CombinedFlush
import DisplayDrivers.Encoder.PendingKickoff
import DisplayDrivers.Encoder.RetireFence
import DisplayDrivers.Encoder.IrqControl
import DisplayDrivers.Encoder.FrameEvents
import DisplayDrivers.Secure.Truth
import DisplayDrivers.Secure.MisrBalance
import DisplayDrivers.Secure.Checks
import DisplayDrivers.Secure.Exclusive
import DisplayDrivers.Secure.Translation
import DisplayDrivers.Lib.Grouped
import DisplayDrivers.Blend.Staging
import DisplayDrivers.Blend.Sound
import DisplayDrivers.Blend.Mixers
import DisplayDrivers.Blend.Accepted
import DisplayDrivers.Lib.FirstMatch
import DisplayDrivers.ResPool.Pool
import DisplayDrivers.ResPool.Crtc
import DisplayDrivers.Lib.Shares
import DisplayDrivers.ResPool.Interleaved
import DisplayDrivers.ResPool.Conserved
import DisplayDrivers.Vblank.References
import DisplayDrivers.Rm.LmSelected
import DisplayDrivers.Rotator.Signals
import DisplayDrivers.FrameEvent.Accounts
import DisplayDrivers.Splash.Released
import DisplayDrivers.Gem.ActiveLists
import DisplayDrivers.ColorProc.Kept
import DisplayDrivers.DsiCmd.Batches
import DisplayDrivers.Multirect.Sharing
import DisplayDrivers.Sspp.Incremental
import DisplayDrivers.Rm.Topology
import DisplayDrivers.Property.Lookup
import DisplayDrivers.DsiClk.Unwind
import DisplayDrivers.Power.Trace
import DisplayDrivers.Edid.Audio
import DisplayDrivers.Edid.ModeFormat
import DisplayDrivers.DpMst.Detection
import DisplayDrivers.DpMst.Fits
import DisplayDrivers.DpMst.Esi
import DisplayDrivers.DpMst.TableRuns
import DisplayDrivers.Perf.VotePath
import DisplayDrivers.Rsc.Delivery
import DisplayDrivers.Lib.Tiling
import DisplayDrivers.Format.Layout
import DisplayDrivers.Format.Tiling
import DisplayDrivers.Format.Roi
import DisplayDrivers.Dp.LinkTrain
import DisplayDrivers.Dp.LinkSetup
import DisplayDrivers.Lib.FixedPoint
import DisplayDrivers.Dp.RateGovernor
import DisplayDrivers.Lib.CheckedText
import DisplayDrivers.DsiParser.Children
import DisplayDrivers.DsiParser.Properties
import DisplayDrivers.DsiParser.ReadArray
import DisplayDrivers.DsiParser.Bounds
import DisplayDrivers.Dp.DscPclk
import DisplayDrivers.Lib.Ring
import DisplayDrivers.Dbg.EvtLog
import DisplayDrivers.Secure.SecOnly
import DisplayDrivers.DsiCmd.ReadBack
import DisplayDrivers.DsiCmd.Reassembly
import DisplayDrivers.Encoder.ModeSwitch
import DisplayDrivers.Lease.Fixup
import DisplayDrivers.Blend.OpMode
import DisplayDrivers.Misr.Safe
import DisplayDrivers.Stacking.Mapping
import DisplayDrivers.Kms.MixerCount
import DisplayDrivers.Kms.Info
import DisplayDrivers.Gem.Iova
import DisplayDrivers.Gem.Plain
import DisplayDrivers.DsiCtrl.States
import DisplayDrivers.Usbpd.AltMode
import DisplayDrivers.Dp.Host
import DisplayDrivers.Dp.Ddc
import DisplayDrivers.Hdcp.Teardown
