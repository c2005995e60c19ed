import NetSentinel.Library.Strto

namespace NetSentinel

open Strto

structure Options where
  device : String := ""
  pcapFile : String := ""
  maxPackets : Int32 := 0
  listOnly : Bool := false
  verbose : Bool := false
  useGpu : Bool := false
  quiet : Bool := false
  numWorkers : Nat
  queueCapacity : Nat := 4096
  batchSize : Nat := 64
  lingerUs : Int := 2000
  entropyThreshold : Double := .ofRat 7

/-- The options before the first argument. `hardware_concurrency()` is 0 when it is unknown. -/
def Options.initial (cores : Nat) : Options where
  numWorkers := if 1 < cores then cores - 1 else 1

def usage (argv0 : String) : String :=
  s!"Usage: {argv0} -i <device> | -r <file.pcap> [options]\n" ++
  "  -i <device>   capture live from a network interface\n" ++
  "  -r <file>     replay packets from a .pcap file\n" ++
  "  -c <count>    stop after this many parsed packets (0 = unlimited)\n" ++
  "  -l            list available capture devices and exit\n" ++
  "  -w <n>        worker thread count (default: cores - 1)\n" ++
  "  -q <n>        bounded queue capacity (default: 4096)\n" ++
  "  -b <n>        max packets a worker pops per batch (default: 64)\n" ++
  "  -L <usec>     how long a worker waits to fill a batch (default: 2000)\n" ++
  "  -v            print every packet, not just alerts\n" ++
  "  -e <bits>     high-entropy alert threshold, bits/byte (default: 7.0)\n" ++
  "  -g            compute entropy on the Metal GPU (Metal builds only)\n" ++
  "  -s            silent: count alerts without printing them (for benchmarking)\n"

/-- Errors carry what goes to `stderr`. -/
def parseNonnegative (text flag : String) (maxValue : Int) : Except String Int :=
  let converted := strtoll text.toList
  if converted.rest = text.toList ∨ converted.rest ≠ [] ∨ converted.erange ∨
      converted.value < 0 ∨ maxValue < converted.value then
    .error s!"invalid value for {flag}: '{text}' (expected 0..{maxValue})\n"
  else .ok converted.value

def parseThreshold (round : ℚ → WithBot (WithTop ℚ)) (text : String) : Except String Double :=
  let converted := strtod round text.toList
  if converted.rest = text.toList ∨ converted.rest ≠ [] ∨ converted.value.less (.ofRat 0) ∨
      (Double.ofRat 8).less converted.value then
    .error s!"invalid value for -e: '{text}' (expected 0.0..8.0)\n"
  else .ok converted.value

/-- One round of the loop, with `argv[i]` and `argv[i + 1]`, if there is one, and whether it has been
    used as well. -/
def readOption (round : ℚ → WithBot (WithTop ℚ)) (argv0 : String) (options : Options)
    (arg : String) (next : Option String) : Except String (Options × Bool) :=
  match arg, next with
  | "-i", some device => .ok ({ options with device }, true)
  | "-r", some pcapFile => .ok ({ options with pcapFile }, true)
  | "-c", some text => do
    let value ← parseNonnegative text "-c" 2147483647
    return ({ options with maxPackets := Int32.ofInt value }, true)
  | "-l", _ => .ok ({ options with listOnly := true }, false)
  | "-w", some text => do
    let value ← parseNonnegative text "-w" 1024
    return ({ options with numWorkers := value.toNat }, true)
  | "-q", some text => do
    let value ← parseNonnegative text "-q" (2 ^ 24)
    return ({ options with queueCapacity := value.toNat }, true)
  | "-b", some text => do
    let value ← parseNonnegative text "-b" (2 ^ 20)
    return ({ options with batchSize := value.toNat }, true)
  | "-L", some text => do
    let lingerUs ← parseNonnegative text "-L" 1000000
    return ({ options with lingerUs }, true)
  | "-v", _ => .ok ({ options with verbose := true }, false)
  | "-g", _ => .ok ({ options with useGpu := true }, false)
  | "-s", _ => .ok ({ options with quiet := true }, false)
  | "-e", some text => do
    let entropyThreshold ← parseThreshold round text
    return ({ options with entropyThreshold }, true)
  | _, _ => .error (usage argv0)

def readOptions (round : ℚ → WithBot (WithTop ℚ)) (argv0 : String) :
    Options → List String → Except String Options
  | options, [] => .ok options
  | options, [arg] => do
    let read ← readOption round argv0 options arg none
    return read.1
  | options, arg :: next :: args => do
    let read ← readOption round argv0 options arg (some next)
    match read.2 with
    | true => readOptions round argv0 read.1 args
    | false => readOptions round argv0 read.1 (next :: args)

/-- What `main` does before it opens the capture source: it gives up, lists the devices, or goes on
    with these options. -/
inductive Startup where
  | fails (stderr : String)
  | lists
  | opens (options : Options)

def startup (round : ℚ → WithBot (WithTop ℚ)) (cores : Nat) (argv0 : String)
    (args : List String) : Startup :=
  match readOptions round argv0 (.initial cores) args with
  | .error stderr => .fails stderr
  | .ok options =>
    if options.listOnly then .lists
    else if options.device.isEmpty = options.pcapFile.isEmpty then .fails (usage argv0)
    else if options.queueCapacity = 0 ∨ options.batchSize = 0 then
      .fails "queue capacity and batch size must be positive\n"
    else .opens options

end NetSentinel
