import NetSentinel.Capture.Encoding
import NetSentinel.Capture.Loop

namespace NetSentinel

open Layout

/-- `parse_packet` on a frame as `pcap_next_ex` hands it over, with all the bytes that were captured
    of it. -/
def Frame.parse (frame : Frame) : Option ParsedPacket :=
  match parsePacket (some frame.data) (UInt32.ofNat frame.data.length) frame.len frame.ts with
  | .ok parsed => parsed
  | .error _ => none

/-- A frame captured whole is a packet for the queue. -/
theorem EthernetFrame.parse_frame (frame : EthernetFrame) (len : UInt32) (ts : Timeval) :
    Frame.parse ⟨frame.bytes, len, ts⟩ = some (describe frame.bytes frame.caplen len ts) := by
  have whole := frame.parse_bytes len ts
  rw [EthernetFrame.caplen] at whole
  rw [Frame.parse, whole]
  rfl

theorem EthernetFrame.accepted (frame : EthernetFrame) (len : UInt32) (ts : Timeval)
    (frames : List Frame) : Capture.accepted Frame.parse (⟨frame.bytes, len, ts⟩ :: frames) =
      frame.decoded len ts :: Capture.accepted Frame.parse frames := by
  refine (List.filterMap_cons_some ?_).trans rfl
  rw [frame.parse_frame, Option.map_some, frame.describe_decoded]

end NetSentinel
