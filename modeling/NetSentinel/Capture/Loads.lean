import NetSentinel.Capture.Layout

namespace NetSentinel

open ByteBuffer Layout

namespace Layout

/-- The loads through the overlaid headers, by position and width. -/
inductive Loads (data : List UInt8) (caplen : Nat) : Nat → Nat → Prop
  | dstMac : Loads data caplen 0 6
  | srcMac : Loads data caplen 6 6
  | ethertype : Loads data caplen 12 2
  | versionIhl (fixed : 34 ≤ caplen) : Loads data caplen 14 1
  | totalLength (ip : HasIp data caplen) : Loads data caplen 16 2
  | ttl (ip : HasIp data caplen) : Loads data caplen 22 1
  | protocol (ip : HasIp data caplen) : Loads data caplen 23 1
  | srcAddr (ip : HasIp data caplen) : Loads data caplen 26 4
  | dstAddr (ip : HasIp data caplen) : Loads data caplen 30 4
  | dataOffset (ip : HasIp data caplen) (tcp : u8At data 23 = ipprotoTcp)
      (fits : transportOffset data + tcpHeaderSize ≤ caplen) :
      Loads data caplen (transportOffset data + 12) 1
  | srcPort (ports : transport data caplen = .tcp ∨ transport data caplen = .udp) :
      Loads data caplen (transportOffset data) 2
  | dstPort (ports : transport data caplen = .tcp ∨ transport data caplen = .udp) :
      Loads data caplen (transportOffset data + 2) 2
  | flags (found : transport data caplen = .tcp) : Loads data caplen (transportOffset data + 13) 1

theorem HasIp.start {data : List UInt8} {caplen : Nat} (ip : HasIp data caplen) :
    34 ≤ transportOffset data := by
  have long : 20 ≤ ipHeaderBytes (u8At data 14) := ip.2.2.2.1
  unfold transportOffset ethernetHeaderSize
  omega

theorem Loads.inside {data : List UInt8} {caplen offset count : Nat}
    (loads : Loads data caplen offset count) (whole : ethernetHeaderSize ≤ caplen) :
    offset + count ≤ caplen := by
  have bytes : 14 ≤ caplen := whole
  have ports : transport data caplen = .tcp ∨ transport data caplen = .udp →
      transportOffset data + 8 ≤ caplen := by
    rintro (tcp | udp)
    · have fits := ((transport_tcp_iff data caplen).mp tcp).2.2.1
      unfold tcpHeaderSize at fits
      omega
    · exact ((transport_udp_iff data caplen).mp udp).2.2
  cases loads with
  | dstMac => omega
  | srcMac => omega
  | ethertype => omega
  | versionIhl fixed => omega
  | dataOffset ip tcp fits =>
    unfold tcpHeaderSize at fits
    omega
  | srcPort known => have fits := ports known; omega
  | dstPort known => have fits := ports known; omega
  | flags found =>
    have fits := ((transport_tcp_iff data caplen).mp found).2.2.1
    unfold tcpHeaderSize at fits
    omega
  | _ ip =>
    have fixed : 34 ≤ caplen := ip.1
    omega

section SameLoads

variable {a b : List UInt8} {caplen : Nat}
  (same : ∀ {offset count}, Loads a caplen offset count →
    slice a offset count = slice b offset count)

include same

theorem u8At_of_loads {offset : Nat} (loads : Loads a caplen offset 1) :
    u8At a offset = u8At b offset := congrArg (UInt8.ofNat ∘ decode) (same loads)

theorem u16At_of_loads {offset : Nat} (loads : Loads a caplen offset 2) :
    u16At a offset = u16At b offset := congrArg (UInt16.ofNat ∘ decode) (same loads)

theorem u32At_of_loads {offset : Nat} (loads : Loads a caplen offset 4) :
    u32At a offset = u32At b offset := congrArg (UInt32.ofNat ∘ decode) (same loads)

theorem hasIp_of_loads : HasIp a caplen ↔ HasIp b caplen := by
  unfold HasIp transportOffset
  by_cases fixed : ethernetHeaderSize + ipv4HeaderSize ≤ caplen
  · rw [u16At_of_loads same .ethertype, u8At_of_loads same (.versionIhl fixed)]
  · simp only [fixed, false_and]

theorem transportOffset_of_loads (ip : HasIp a caplen) :
    transportOffset a = transportOffset b := by
  unfold transportOffset
  rw [u8At_of_loads same (.versionIhl ip.1)]

theorem transport_of_loads : transport a caplen = transport b caplen := by
  by_cases ip : HasIp a caplen
  · have start := transportOffset_of_loads same ip
    have protocol := u8At_of_loads same (.protocol ip)
    have other := (hasIp_of_loads same).mp ip
    by_cases header : u8At a 23 = ipprotoTcp ∧ transportOffset a + tcpHeaderSize ≤ caplen
    · have byte := u8At_of_loads same (.dataOffset ip header.1 header.2)
      simp only [transport, ip, other, protocol, ← start, byte]
    · unfold transport
      rw [protocol, start] at header
      simp only [ip, other, protocol, start]
      grind
  · have other := mt (hasIp_of_loads same).mpr ip
    simp only [transport, ip, other, if_false]

end SameLoads

end Layout

theorem describe_of_loads {a b : List UInt8} {caplen : UInt32}
    (same : ∀ {offset count}, Loads a caplen.toNat offset count →
      slice a offset count = slice b offset count) (wireLength : UInt32) (ts : Timeval) :
    describe a caplen wireLength ts = describe b caplen wireLength ts := by
  have macs : macAt a 6 = macAt b 6 ∧ macAt a 0 = macAt b 0 :=
    ⟨congrArg toMac (same .srcMac), congrArg toMac (same .dstMac)⟩
  by_cases ip : HasIp a caplen.toNat
  · have other := (hasIp_of_loads same).mp ip
    have start := transportOffset_of_loads same ip
    have src := u32At_of_loads same (.srcAddr ip)
    have dst := u32At_of_loads same (.dstAddr ip)
    have ttl := u8At_of_loads same (.ttl ip)
    have protocol := u8At_of_loads same (.protocol ip)
    have total := u16At_of_loads same (.totalLength ip)
    have versionIhl := u8At_of_loads same (.versionIhl ip.1)
    unfold describe payloadOffset payloadLength claimedLength payloadOffset
    rw [← transport_of_loads same]
    cases found : transport a caplen.toNat with
    | unknown =>
      simp only [ip, other, macs, src, dst, ttl, protocol, decide_true, if_true, reduceCtorEq,
        or_self, if_false]
    | tcp =>
      obtain ⟨-, tcp, fits, -, -⟩ := (transport_tcp_iff a caplen.toNat).mp found
      have srcPort := u16At_of_loads same (.srcPort (.inl found))
      have dstPort := u16At_of_loads same (.dstPort (.inl found))
      have dataOffset := u8At_of_loads same (.dataOffset ip tcp fits)
      have flags := u8At_of_loads same (.flags found)
      simp only [ip, other, macs, src, dst, ttl, protocol, total, versionIhl, ← start, srcPort,
        dstPort, dataOffset, flags, transportHeaderBytes]
    | udp =>
      have srcPort := u16At_of_loads same (.srcPort (.inr found))
      have dstPort := u16At_of_loads same (.dstPort (.inr found))
      simp only [ip, other, macs, src, dst, ttl, protocol, total, versionIhl, ← start, srcPort,
        dstPort, transportHeaderBytes, reduceCtorEq, if_false]
    | icmp =>
      simp only [ip, other, macs, src, dst, ttl, protocol, total, versionIhl, start,
        transportHeaderBytes, reduceCtorEq, or_self, if_false]
  · have noIp := mt (hasIp_of_loads same).mpr ip
    rw [describe_without_ip wireLength ts ip, describe_without_ip wireLength ts noIp, macs.1, macs.2]

end NetSentinel
