import MysqlMetrics.Collector.Basic
/-!
# The exporter's own usage

What the process of the exporter uses of the machine, and how busy its workers are. The readings
come from outside; threads and open files are not known everywhere.
-/
namespace MysqlMetrics.Collector.SelfUsage

structure ProcessUsage where
  cpuSeconds : Float
  cpuCores : Nat
  residentBytes : Nat
  virtualBytes : Nat
  startTime : Nat
  threads : Option Nat
  openFiles : Option Nat

structure WorkerUsage where
  workers : Nat
  aliveTasks : Nat
  queueDepth : Nat

/-- One reading of the process, if the machine reports it, and one of its workers. -/
structure Usage where
  process : Option ProcessUsage
  workers : WorkerUsage

def describeOwn (stem help : String) (kind : Kind) : Desc := describe "exporter" stem help kind []

def processSamples (u : ProcessUsage) : List (Except MetricError Sample) :=
  let sample (stem help : String) (kind : Kind) (x : Float) : Except MetricError Sample :=
    Sample.scalar (describeOwn ("process_" ++ stem) help kind) x []
  [sample "cpu_seconds_total" "Total user and system CPU time spent in seconds." .counter
    u.cpuSeconds,
   sample "cpu_cores" "Number of CPU cores available to the system." .gauge
     (Decimal.ofNat u.cpuCores),
   sample "resident_memory_bytes" "Resident memory size in bytes." .gauge
     (Decimal.ofNat u.residentBytes),
   sample "virtual_memory_bytes" "Virtual memory size in bytes." .gauge
     (Decimal.ofNat u.virtualBytes),
   sample "start_time_seconds" "Start time of the process since unix epoch in seconds." .gauge
     (Decimal.ofNat u.startTime)] ++
  (u.threads.map fun n =>
    sample "threads" "Number of OS threads in the process." .gauge (Decimal.ofNat n)).toList ++
  (u.openFiles.map fun n =>
    sample "open_fds" "Number of open file descriptors." .gauge (Decimal.ofNat n)).toList

def workerSamples (u : WorkerUsage) : List (Except MetricError Sample) :=
  let sample (stem help : String) (n : Nat) : Except MetricError Sample :=
    Sample.scalar (describeOwn ("runtime_" ++ stem) help .gauge) (Decimal.ofNat n) []
  [sample "workers" "Number of worker threads used by the runtime." u.workers,
   sample "alive_tasks" "Number of alive tasks in the runtime." u.aliveTasks,
   sample "global_queue_depth"
     "Number of tasks currently scheduled in the runtime's global queue." u.queueDepth]

def processScraper (u : Usage) : Scraper :=
  { name := "exporter.process"
    help := "Collect resource usage of the exporter process"
    task := fun _ _ =>
      match u.process with
      | none => .done
      | some p => deliver ((processSamples p).mapM id) }

def workerScraper (u : Usage) : Scraper :=
  { name := "exporter.runtime"
    help := "Collect tokio runtime metrics of the exporter"
    task := fun _ _ => deliver ((workerSamples u.workers).mapM id) }

end MysqlMetrics.Collector.SelfUsage
