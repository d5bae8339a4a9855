import HartLayer.Bench.Contexts
import HartLayer.Bench.Heaps
import HartLayer.Bench.Kernels
import HartLayer.Bench.Output
import HartLayer.Bench.Devices
import HartLayer.Bench.Rings
import HartLayer.Bench.Traps
import HartLayer.BuildDirectives
import HartLayer.Demo.Kernel
import HartLayer.Main
import HartLayer.Proofs.Delivery
import HartLayer.Proofs.InterruptsOff
import HartLayer.Proofs.TrapLog
import HartLayer.Ring.History
import HartLayer.Proofs.LogIndependence
import HartLayer.Proofs.Suspension
import HartLayer.Proofs.FatalTraps
import HartLayer.Proofs.HeapRuns
import HartLayer.Proofs.HeapIntegrity
import HartLayer.Proofs.DemoEvents
import HartLayer.Proofs.TakingTurns
import HartLayer.Proofs.InterruptAnswers
import HartLayer.Proofs.Threads
import HartLayer.Proofs.HartSimulation
import HartLayer.Proofs.SelfTestCases
import HartLayer.Proofs.SelfTests
import HartLayer.Proofs.NewestItems
import HartLayer.Proofs.Drawing
import HartLayer.Proofs.ThreadFrames
import HartLayer.Proofs.EarlyBoot
import HartLayer.Proofs.Classifying
import HartLayer.Proofs.HeapLifeCycle
import HartLayer.Proofs.HeapContents
import HartLayer.Proofs.Framebuffer
import HartLayer.Proofs.ResumeAddresses
import HartLayer.Proofs.Ports
import HartLayer.Proofs.KeyPolling
import HartLayer.Proofs.TestAccounts
