import PhpAnalyze.Budget
import PhpAnalyze.CallTree
import PhpAnalyze.ConfigValid
import PhpAnalyze.CpuSnapshots
import PhpAnalyze.DeadlineWatch
import PhpAnalyze.DictPartition
import PhpAnalyze.DropCount
import PhpAnalyze.Dump
import PhpAnalyze.Estimate
import PhpAnalyze.FlushCadence
import PhpAnalyze.GracePeriod
import PhpAnalyze.HashedDictionary
import PhpAnalyze.Ini
import PhpAnalyze.KeySoundness
import PhpAnalyze.Lifecycle
import PhpAnalyze.Pairing
import PhpAnalyze.PhpInfo
import PhpAnalyze.Requests
import PhpAnalyze.Shutdown
import PhpAnalyze.Simulation
import PhpAnalyze.SingleSpawn
import PhpAnalyze.SkipFilter
import PhpAnalyze.SoftCap
import PhpAnalyze.SpotCheck
import PhpAnalyze.Timing
import PhpAnalyze.TokenSecrecy
import PhpAnalyze.WireFormat
