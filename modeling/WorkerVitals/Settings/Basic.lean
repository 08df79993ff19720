import WorkerVitals.Metric.Ceiling
import WorkerVitals.Network.Probe
import WorkerVitals.Pacing

namespace WorkerVitals

structure Settings where
  workerId : Option String := none
  statFile : String := "/proc/net/dev"
  interface : String := "eth0"
  maxBandwidthMbps : Float := 125
  networkInMax : Int64 := 100
  networkOutMax : Int64 := 100
  idleMillis : Int64 := 1000
  reducedBelowMillis : Option Int64 := none
  behindMillis : Option Int64 := none
  maxSamples : UInt64 := 10
  maxRounds : Option UInt64 := none
  jsonLogs : Bool := false
  deriving DecidableEq

namespace Settings

/-- The name of the worker, which is that of its host unless it was given one. -/
def resolvedWorkerId (settings : Settings) (hostName : String) : String :=
  settings.workerId.getD hostName

def networkConfig (settings : Settings) : Network.Config where
  interface := settings.interface
  statFile := settings.statFile
  maxBandwidthMbps := settings.maxBandwidthMbps

def inboundCeiling (settings : Settings) : Except Fault Ceiling := Ceiling.of settings.networkInMax

def outboundCeiling (settings : Settings) : Except Fault Ceiling := Ceiling.of settings.networkOutMax

def ceiling (settings : Settings) : Network.Direction → Except Fault Ceiling
  | .received => settings.inboundCeiling
  | .transmitted => settings.outboundCeiling

/-- A fresh probe of one direction. Its ceiling is checked before its bandwidth. -/
def probe (settings : Settings) (direction : Network.Direction) : Except Fault Network.Probe := do
  Network.Probe.of direction (← settings.ceiling direction) settings.networkConfig

def pacing (settings : Settings) (lastCall : Option Time.Instant) : Pacing where
  lastCall := lastCall
  idleMillis := settings.idleMillis
  behindMillis := settings.behindMillis
  reducedBelowMillis := settings.reducedBelowMillis

end Settings

end WorkerVitals
