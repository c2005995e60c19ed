import NetSentinel.Main.LockedRuns
import NetSentinel.Main.Termination

namespace NetSentinel

variable {ω σ R : Type} [DecidableEq ω] [Fintype ω] [Arithmetic R] {hash : UInt32 → Nat}

namespace LockedProgram

variable {config : ProgramConfig σ R} {state : LockedProgram ω σ R config.analysis.flow}

theorem done_replayed (reachable : (system ω hash config).Reachable state) :
    state.tracker.done.map Prod.snd =
        (FlowTracker.replay hash config.analysis.flow (state.tracker.done.map Prod.fst)).2.map
          Observation.alerts := by
  have linear := LockedCells.Linear.of_reachable (Sheltered.of_reachable reachable).tracker
  obtain ⟨-, replayed⟩ := @FlowTracker.Represents.replay hash config.analysis.flow
    (state.tracker.done.map Prod.fst)
  exact linear.results.trans replayed

theorem outside_of_finished (reachable : (system ω hash config).Reachable state)
    (finished : state.program.pipeline.main = .finished) (worker : ω) :
    state.tracker.pcs worker = .idle := by
  have sheltered := Sheltered.of_reachable reachable
  have exited := Pipeline.exited_of_finished (Program.pipeline_reachable sheltered.atomic) finished
  have away := (Program.Attached.of_reachable sheltered.atomic).callbacks_idle exited worker
  have none : (state.tracker.pcs worker).current = none := by
    cases inside : (state.tracker.pcs worker).current with
    | none => rfl
    | some call =>
      obtain ⟨batch, analyzing⟩ := sheltered.analyzing inside
      cases analyzing.symm.trans away
  cases place : state.tracker.pcs worker with
  | idle => rfl
  | _ =>
    rw [place] at none
    cases none

theorem shards_of_finished (reachable : (system ω hash config).Reachable state)
    (finished : state.program.pipeline.main = .finished) :
    (FlowTracker.after hash config.analysis.flow (state.tracker.done.map Prod.fst)).shards =
      List.ofFn state.tracker.cells := by
  have linear := LockedCells.Linear.of_reachable (Sheltered.of_reachable reachable).tracker
  have cells := linear.quiescent (outside_of_finished reachable finished)
  obtain ⟨represents, -⟩ := @FlowTracker.Represents.replay hash config.analysis.flow
    (state.tracker.done.map Prod.fst)
  rw [cells]
  exact represents.shards

/-- The flow rules are linearizable. When `main` has joined the workers, the calls of `observe`, in
    the order in which they gave up the mutexes of their shards, are one for each accepted packet and
    keep the order within each batch that came off the queue; each call has returned what it returns
    in a sequential run of these calls; that run leaves the shards as they are; and its alerts are
    those of the flow rules that were raised and counted. -/
theorem flow_alerts [Nonempty ω] (reachable : (system ω hash config).Reachable state)
    (finished : state.program.pipeline.main = .finished) :
    ∃ calls : List ObserveCall, calls = state.tracker.done.map Prod.fst ∧
      (calls.map ObserveCall.packet).Perm
        (Capture.accepted config.pipeline.parse state.program.pipeline.capture.frames) ∧
      (∀ entry ∈ state.program.pipeline.pool.threads.history.removals,
        entry.2.Sublist (calls.map ObserveCall.packet)) ∧
      state.tracker.done.map Prod.snd =
        (FlowTracker.replay hash config.analysis.flow calls).2.map Observation.alerts ∧
      List.ofFn state.tracker.cells = (FlowTracker.after hash config.analysis.flow calls).shards ∧
      (state.program.output.raised.filter fun alert => !alert.stateless).Perm
        (AnalysisWorkers.flowAlerts hash config.analysis.flow calls) ∧
      ∀ type, type = .portScan ∨ type = .synFlood → state.program.output.alertsByType type =
        UInt64.ofNat
          (ofTypeCount type (AnalysisWorkers.flowAlerts hash config.analysis.flow calls)) := by
  have sheltered := Sheltered.of_reachable reachable
  obtain ⟨packets, ordered, raised, counted⟩ :=
    Program.flow_alerts_settled sheltered.atomic finished sheltered.linearized
  exact ⟨_, rfl, packets, ordered, done_replayed reachable,
    (shards_of_finished reachable finished).symm, raised, counted⟩

end LockedProgram

section Scans

/-- A SYN in a frame with options and padding. -/
def scanSegment (srcIp : UInt32) : EthernetFrame := .optionsFrame srcIp tcpFlagSyn [] (by decide)

def scanFrame (srcIp : UInt32) : Frame := ⟨(scanSegment srcIp).bytes, 68, {}⟩

def scanPacket (srcIp : UInt32) : QueuedPacket := (scanSegment srcIp).decoded 68 {}

def scanFlow : FlowTrackerConfig := { portScanDistinctPortThreshold := 1 }

noncomputable def scanConfig : ProgramConfig Unit ℝ where
  pipeline := eicarPipeline
  analysis := { flow := scanFlow }
  backend := cpuEntropyBackend
  backendState := ()

theorem scan_accepted : Capture.accepted Frame.parse (eicarSources.map scanFrame) =
    eicarSources.map scanPacket := by
  have first := EthernetFrame.accepted (scanSegment 0x0A000001) 68 {} [scanFrame 0x0A000003]
  have second := EthernetFrame.accepted (scanSegment 0x0A000003) 68 {} []
  exact first.trans (congrArg (_ :: ·) second)

theorem scan_alerts : ∀ srcIp ∈ eicarSources,
    (({} : PerIpState).observe scanFlow.withShards (scanPacket srcIp).parsed).2.map Alert.type =
      [.portScan] := by
  intro srcIp listed
  rcases List.mem_cons.mp listed with rfl | listed
  · rfl
  · rw [List.mem_singleton.mp listed]
    rfl

theorem new_source_alerts {tracker : FlowTracker} {call : ObserveCall} {srcIp : UInt32}
    (known : srcIp ∈ eicarSources) (scan : call.packet = scanPacket srcIp)
    (config : tracker.config = scanFlow.withShards)
    (fresh : tracker.recordOf UInt32.toNat srcIp = none) :
    (tracker.observe UInt32.toNat call).2.map Alert.type = [.portScan] := by
  have mine : call.packet.parsed.isFrom srcIp := by
    rw [scan]
    exact beq_self_eq_true srcIp
  rw [(FlowTracker.observe_self UInt32.toNat tracker mine).1, fresh, config, scan]
  exact scan_alerts srcIp known

theorem ofTypeCount_map (type : AnomalyType) (alerts : List Alert) :
    ofTypeCount type alerts = (alerts.map Alert.type).count type := by
  rw [List.count, List.countP_map]
  refine (Multiset.coe_countP _ _).trans (List.countP_congr fun alert _ => ?_)
  rw [decide_eq_true_eq, Function.comp_apply, beq_iff_eq]

theorem two_scans_alert {first second : ObserveCall} {srcIp other : UInt32}
    (known : srcIp ∈ eicarSources) (listed : other ∈ eicarSources) (apart : srcIp ≠ other)
    (scan : first.packet = scanPacket srcIp) (next : second.packet = scanPacket other) :
    ofTypeCount .portScan
      (AnalysisWorkers.flowAlerts UInt32.toNat scanFlow [first, second]) = 2 := by
  have unknown (ip : UInt32) : (FlowTracker.new scanFlow).recordOf UInt32.toNat ip = none :=
    FlowTracker.recordOf_new UInt32.toNat scanFlow ip
  have foreign : ¬ first.packet.parsed.isFrom other := by
    rw [scan]
    exact fun same => apart (eq_of_beq same)
  have fresh : ((FlowTracker.new scanFlow).observe UInt32.toNat first).1.recordOf UInt32.toNat
      other = none := by
    rcases FlowTracker.observe_other UInt32.toNat (.new scanFlow) foreign with same | none
    · rw [same, unknown]
    · exact none
  have begins := new_source_alerts known scan rfl (unknown srcIp)
  have ends := new_source_alerts listed next (FlowTracker.observe_config UInt32.toNat _ first) fresh
  have alerts : AnalysisWorkers.flowAlerts UInt32.toNat scanFlow [first, second] =
      ((FlowTracker.new scanFlow).observe UInt32.toNat first).2 ++
        (((FlowTracker.new scanFlow).observe UInt32.toNat first).1.observe UInt32.toNat second).2 :=
    congrArg (_ ++ ·) (List.append_nil _)
  rw [alerts, ofTypeCount_map, List.map_append, begins, ends]
  rfl

theorem scans_alert {calls : List ObserveCall}
    (packets : (calls.map ObserveCall.packet).Perm (eicarSources.map scanPacket)) :
    ofTypeCount .portScan (AnalysisWorkers.flowAlerts UInt32.toNat scanFlow calls) = 2 := by
  rcases List.perm_pair.mp packets with same | same <;>
    obtain ⟨first, later, rfl, scan, more⟩ := List.map_eq_cons_iff.mp same <;>
    obtain ⟨second, last, rfl, next, none⟩ := List.map_eq_cons_iff.mp more <;>
    obtain rfl := List.map_eq_nil_iff.mp none
  · exact two_scans_alert (.head _) (.tail _ (.head _)) (by decide) scan next
  · exact two_scans_alert (.tail _ (.head _)) (.head _) (by decide) scan next

end Scans

namespace Program

theorem both_observe : ∃ (program : Program (Fin 2) Unit ℝ) (delivered : Int32),
    (system (Fin 2) UInt32.toNat scanConfig).Reachable program ∧
      program.pipeline.capture = ⟨.inner, false, delivered, eicarSources.map scanFrame⟩ ∧
      program.pipeline.main = .joiningCapture ∧ (∀ worker, program.output.idle worker) ∧
      program.analysis.pcs 0 = .observing [] none (scanPacket 0x0A000001) [] ∧
      program.analysis.pcs 1 = .observing [] none (scanPacket 0x0A000003) [] := by
  have room : (Capture.accepted scanConfig.pipeline.parse (eicarSources.map scanFrame)).length ≤
      scanConfig.pipeline.capacity := by
    rw [show scanConfig.pipeline.parse = Frame.parse from rfl, scan_accepted]
    decide
  obtain ⟨delivered, history, ahead⟩ := @readAhead_reachable (Fin 2) Unit ℝ _ _ UInt32.toNat
    scanConfig rfl (eicarSources.map scanFrame) room
  rw [show scanConfig.pipeline.parse = Frame.parse from rfl, scan_accepted] at ahead
  have popping := ahead.next
    (.pipeline _ (.pool _ (.popBatch 0 _ rfl (.popCall 0 1 false rfl))) rfl)
  have taken := popping.next
    (.pipeline _ (.pool _ (.queue .inside _ rfl (.popRun 0 false 1 _ _ rfl))) rfl)
  have notified := taken.next
    (.pipeline _ (.pool _ (.queue .inside _ rfl (.popNotifyFull 0 _ _ _ rfl))) rfl)
  have woken := notified.next (.pipeline _ (.pool _ (.queue .inside _ rfl
    (.popNotifyEmpty 0 _ _ _ rfl (.nobody (Fin.forall_fin_two.mpr ⟨rfl, rfl⟩))))) rfl)
  have popped := woken.next
    (.pipeline _ (.pool _ (.popped 0 _ _ _ rfl (.popReturn 0 _ _ rfl))) rfl)
  have called := popped.next (.call 0 _ _ rfl rfl)
  have started := called.next (.analyze 0 _ _ rfl ⟨rfl, rfl⟩
    (AnalysisWorkers.Step.acts (.start 0 _ _ _ rfl rfl rfl) rfl rfl (List.append_nil _).symm))
  have first := started.next (.act 0 _ _ rfl ⟨rfl, rfl⟩
    (AnalysisWorkers.Step.acts (.signature 0 _ _ _ _ rfl) rfl (List.append_nil _).symm rfl))
  have popping := first.next
    (.pipeline _ (.pool _ (.popBatch 1 _ rfl (.popCall 1 1 false rfl))) rfl)
  have taken := popping.next
    (.pipeline _ (.pool _ (.queue .inside _ rfl (.popRun 1 false 1 _ _ rfl))) rfl)
  have notified := taken.next
    (.pipeline _ (.pool _ (.queue .inside _ rfl (.popNotifyFull 1 _ _ _ rfl))) rfl)
  have popped := notified.next
    (.pipeline _ (.pool _ (.popped 1 _ _ _ rfl (.popReturn 1 _ _ rfl))) rfl)
  have called := popped.next (.call 1 _ _ rfl rfl)
  have started := called.next (.analyze 1 _ _ rfl ⟨rfl, rfl⟩
    (AnalysisWorkers.Step.acts (.start 1 _ _ _ rfl rfl rfl) rfl rfl (List.append_nil _).symm))
  have second := started.next (.act 1 _ _ rfl ⟨rfl, rfl⟩
    (AnalysisWorkers.Step.acts (.signature 1 _ _ _ _ rfl) rfl (List.append_nil _).symm rfl))
  exact ⟨_, delivered, second, rfl, rfl, fun _ => ⟨rfl, rfl⟩, rfl, rfl⟩

end Program

namespace LockedProgram

/-- Two workers are in `observe` at once, each with its shard locked. -/
theorem overlapping_run : ∃ together state :
      LockedProgram (Fin 2) Unit ℝ scanConfig.analysis.flow,
    (system (Fin 2) UInt32.toNat scanConfig).Reachable together ∧
      (∀ worker, ∃ call alerts phases,
        together.tracker.pcs worker = .working call alerts phases) ∧
      (system (Fin 2) UInt32.toNat scanConfig).Leads together state ∧
      state.program.pipeline.main = .finished ∧
      state.program.pipeline.capture.frames = eicarSources.map scanFrame := by
  obtain ⟨program, delivered, observing, capture, joining, silent, first, second⟩ :=
    Program.both_observe
  obtain ⟨state, reachable, quiet, rfl⟩ := quiet_reachable observing
  rw [atomic_of_quiet quiet] at capture joining silent first second
  have linear := LockedCells.Linear.of_reachable (Sheltered.of_reachable reachable).tracker
  have free (shard) : state.tracker.holder shard = none := linear.unheld quiet shard
  obtain ⟨one, leads, entered, holder⟩ := @enters_observe _ _ _ _ _ UInt32.toNat _ state 0 _ _ _ _ []
    ⟨1, by decide⟩ first (quiet 0) (silent 0) rfl (free _)
  obtain ⟨two, more, both, -⟩ := @enters_observe _ _ _ _ _ UInt32.toNat _ ⟨state.program, one⟩ 1 _ _
    _ _ [] ⟨3, by decide⟩ second ((congrFun entered 1).trans (quiet 1)) (silent 1) rfl
    ((congrFun holder _).trans (free _))
  have inside : two.pcs 0 = _ := (congrFun both 0).trans (congrFun entered 0)
  have together := (reachable.leads leads).leads more
  obtain ⟨alone, left, through, pipeline, others⟩ := @leaves_observe _ _ _ _ _ UInt32.toNat _
    ⟨state.program, two⟩ 0 _ _ _ _ _ _ _ ⟨1, by decide⟩ first inside rfl
  obtain ⟨at_tracker, at_engine⟩ := others 1 (by decide)
  obtain ⟨apart, gone, out, kept, still⟩ := @leaves_observe _ _ _ _ _ UInt32.toNat _ alone 1 _ _ _ _ _
    _ _ ⟨3, by decide⟩ (at_engine.trans second) (at_tracker.trans (congrFun both 1)) rfl
  have outside : apart.Quiet :=
    Fin.forall_fin_two.mpr ⟨(still 0 (by decide)).1.trans through, out⟩
  have along := (together.leads left).leads gone
  have same := kept.trans pipeline
  obtain ⟨after, ends, finished, frames⟩ := Program.finishes_from (by decide)
    (Sheltered.of_reachable along).atomic
    ((congrArg Pipeline.capture same).trans capture) ((congrArg Pipeline.main same).trans joining)
  obtain ⟨last, run, -, rfl⟩ := unfolds along outside ends
  refine ⟨_, last, together, ?_, (left.trans gone).trans run, finished, frames⟩
  exact Fin.forall_fin_two.mpr ⟨⟨_, _, _, inside⟩, _, _, _, congrFun both 1⟩

theorem overlapping_scans_alert : ∃ together state :
      LockedProgram (Fin 2) Unit ℝ scanConfig.analysis.flow,
    (system (Fin 2) UInt32.toNat scanConfig).Reachable together ∧
      (∀ worker, ∃ call alerts phases,
        together.tracker.pcs worker = .working call alerts phases) ∧
      (system (Fin 2) UInt32.toNat scanConfig).Leads together state ∧
      state.program.pipeline.main = .finished ∧
      state.program.pipeline.capture.frames = eicarSources.map scanFrame ∧
      state.program.output.alertsByType .portScan = 2 := by
  obtain ⟨together, state, begins, inside, leads, finished, frames⟩ := overlapping_run
  obtain ⟨calls, -, packets, -, -, -, -, counted⟩ := flow_alerts (begins.leads leads) finished
  refine ⟨together, state, begins, inside, leads, finished, frames, ?_⟩
  rw [frames, show scanConfig.pipeline.parse = Frame.parse from rfl, scan_accepted] at packets
  rw [counted .portScan (.inl rfl)]
  exact congrArg UInt64.ofNat (scans_alert packets)

end LockedProgram

end NetSentinel
