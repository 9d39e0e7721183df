import Mathlib.Data.List.Basic

/-
  `packet_handler` of `network/tcpdump/custom_tcpdump.c`: the
  callback `pcap_loop` runs on each captured frame, which
  decodes the Ethernet type, the IPv4 or IPv6 header and the
  TCP, UDP, ICMP or ICMPv6 fields, and prints one line.

  The frame is the memory at `packet`, a function from offsets
  to bytes; only its first `caplen` bytes are the capture, the
  others are whatever lies there.  The handler returns the
  offsets it reads, in the order of the source, and what it
  prints; the time stamp and `caplen` it prints come from the
  header, not the frame.  `struct ip`'s bit-field `ip_hl` is the
  low four bits of the first header byte, as on x86.

  Main declarations:
    * `span`, `be16`, `be32`, `Summary`, `packetHandler`
    * `packetFootprint`, the end of the bytes a frame makes it read
    * `reads_lt_iff_footprint_le`, `packetFootprint_le`
    * `packet_handler_reads_within_footprint`
-/

------------------------------------------------------------
-- Frames and Fields
------------------------------------------------------------

namespace OsHomework

namespace Tcpdump

/- `ETHERTYPE_IP`, `ETHERTYPE_IPV6` and the protocol numbers the handler tests. -/
def ETHERTYPE_IP : Nat := 0x0800
def ETHERTYPE_IPV6 : Nat := 0x86DD
def IPPROTO_ICMP : Nat := 1
def IPPROTO_TCP : Nat := 6
def IPPROTO_UDP : Nat := 17
def IPPROTO_ICMPV6 : Nat := 58

/- `sizeof(struct ether_header)` and `sizeof(struct ip6_hdr)`. -/
def etherHeaderLen : Nat := 14
def ip6HeaderLen : Nat := 40

/- The offsets `a`, ..., `a + n - 1` of an `n`-byte field at `a`. -/
def span
    (a n : Nat) : List Nat :=
  List.range' a n

/- `ntohs` of the 16-bit field at `a`. -/
def be16
    (mem : Nat → UInt8)
    (a : Nat) : Nat :=
  (mem a).toNat * 256 + (mem (a + 1)).toNat

/- `ntohl` of the 32-bit field at `a`. -/
def be32
    (mem : Nat → UInt8)
    (a : Nat) : Nat :=
  be16 mem a * 65536 + be16 mem (a + 2)

/- The bytes of an `n`-byte field at `a`, as `inet_ntop` reads them. -/
def field
    (mem : Nat → UInt8)
    (a n : Nat) : List UInt8 :=
  (span a n).map mem

/- `proto_str` -/
inductive Proto
  | tcp
  | udp
  | icmp
  | ip
  | icmpv6
  | ipv6
deriving DecidableEq, Repr

/- `desc`: `"Seq=%u Ack=%u"`, `"Len=%d"`, `"Type=%d Code=%d"`, or empty. -/
inductive Desc
  | empty
  | seqAck (seq ack : Nat)
  | len (n : Nat)
  | typeCode (type code : Nat)
deriving DecidableEq, Repr

/- The decoded fields of the printed line. -/
structure Summary where
  srcIp : List UInt8
  dstIp : List UInt8
  srcPort : Nat
  dstPort : Nat
  proto : Proto
  desc : Desc
deriving DecidableEq, Repr

end Tcpdump

end OsHomework

------------------------------------------------------------
-- The Handler
------------------------------------------------------------

namespace OsHomework

namespace Tcpdump

/- What the transport branch reads and decodes. -/
structure Transport where
  reads : List Nat
  srcPort : Nat
  dstPort : Nat
  proto : Proto
  desc : Desc

/-
  The transport part of a frame whose transport header starts at
  `t`: `tcphdr`'s ports, `seq` and `ack_seq`; `udphdr`'s ports
  and `len`; the first two bytes for ICMP; nothing otherwise.
  `icmp` is the protocol number of the ICMP of this IP version,
  `other` the name printed for the rest.
-/
def transport
    (mem : Nat → UInt8)
    (t p icmp : Nat)
    (icmpName other : Proto) : Transport :=
  if p = IPPROTO_TCP then
    ⟨span t 12, be16 mem t, be16 mem (t + 2), .tcp,
      .seqAck (be32 mem (t + 4)) (be32 mem (t + 8))⟩
  else if p = IPPROTO_UDP then
    ⟨span t 6, be16 mem t, be16 mem (t + 2), .udp, .len (be16 mem (t + 4))⟩
  else if p = icmp then
    ⟨span t 2, 0, 0, icmpName, .typeCode (mem t).toNat (mem (t + 1)).toNat⟩
  else ⟨[], 0, 0, other, .empty⟩

/-
  `packet_handler(user, pkthdr, packet)`: the offsets it reads,
  and the line it prints (`none` for a frame that is neither IPv4
  nor IPv6, which it skips).  For IPv4 it reads `ip_src` and
  `ip_dst` (bytes 12 to 19 of the header), `ip_hl` and `ip_p`
  (byte 9), and trusts `4 * ip_hl` as the header length; for
  IPv6 `ip6_src`, `ip6_dst` (bytes 8 to 39) and `ip6_nxt` (byte
  6), with the fixed 40-byte header.
-/
def packetHandler
    (mem : Nat → UInt8) : List Nat × Option Summary :=
  let ethType := be16 mem 12
  let r₀ := span 12 2
  if ethType = ETHERTYPE_IP then
    let ip := etherHeaderLen
    let ipHeaderLen := (mem ip).toNat % 16 * 4
    let tr := transport mem (etherHeaderLen + ipHeaderLen) (mem (ip + 9)).toNat
      IPPROTO_ICMP .icmp .ip
    (r₀ ++ span (ip + 12) 4 ++ span (ip + 16) 4 ++ [ip] ++ [ip + 9] ++ tr.reads,
      some ⟨field mem (ip + 12) 4, field mem (ip + 16) 4, tr.srcPort, tr.dstPort,
        tr.proto, tr.desc⟩)
  else if ethType = ETHERTYPE_IPV6 then
    let ip6 := etherHeaderLen
    let tr := transport mem (etherHeaderLen + ip6HeaderLen) (mem (ip6 + 6)).toNat
      IPPROTO_ICMPV6 .icmpv6 .ipv6
    (r₀ ++ span (ip6 + 8) 16 ++ span (ip6 + 24) 16 ++ [ip6 + 6] ++ tr.reads,
      some ⟨field mem (ip6 + 8) 16, field mem (ip6 + 24) 16, tr.srcPort, tr.dstPort,
        tr.proto, tr.desc⟩)
  else (r₀, none)

end Tcpdump

end OsHomework

------------------------------------------------------------
-- Which Bytes It Reads
------------------------------------------------------------

namespace OsHomework

namespace Tcpdump

/- How many transport bytes the handler reads for protocol `p`. -/
def transportLen
    (p icmp : Nat) : Nat :=
  if p = IPPROTO_TCP then 12
  else if p = IPPROTO_UDP then 6
  else if p = icmp then 2
  else 0

/-
  One past the last offset the handler reads: the Ethernet type
  for a frame it skips; for IPv4 the addresses, or the transport
  fields at `14 + 4 * ip_hl` when they end later; for IPv6 the
  addresses and the transport fields after them.
-/
def packetFootprint
    (mem : Nat → UInt8) : Nat :=
  let ethType := be16 mem 12
  if ethType = ETHERTYPE_IP then
    let tl := transportLen (mem 23).toNat IPPROTO_ICMP
    if tl = 0 then 34 else max 34 (14 + (mem 14).toNat % 16 * 4 + tl)
  else if ethType = ETHERTYPE_IPV6 then
    54 + transportLen (mem 20).toNat IPPROTO_ICMPV6
  else 14

theorem transport_reads
    (mem : Nat → UInt8)
    (t p icmp : Nat)
    (icmpName other : Proto) :
    (transport mem t p icmp icmpName other).reads = span t (transportLen p icmp) := by
  unfold transport transportLen
  split_ifs <;> rfl

/- A field lies below `c` when it is empty or ends by `c`. -/
theorem forall_mem_span_lt_iff
    (a n c : Nat) :
    (∀ i ∈ span a n, i < c) ↔ n = 0 ∨ a + n ≤ c := by
  simp only [span, List.mem_range']
  constructor
  · intro hAll
    by_cases hn : n = 0
    · exact .inl hn
    · -- the field's last byte is below `c`
      have hLast := hAll (a + n - 1) ⟨n - 1, by omega, by omega⟩
      exact .inr (by omega)
  · rintro hn i ⟨k, hk, rfl⟩
    omega

/-
  Every byte `packet_handler` reads lies below `caplen` exactly
  when `caplen` reaches the frame's footprint.
-/
theorem reads_lt_iff_footprint_le
    (mem : Nat → UInt8)
    (caplen : Nat) :
    (∀ i ∈ (packetHandler mem).1, i < caplen) ↔ packetFootprint mem ≤ caplen := by
  simp only [packetHandler, packetFootprint, transport_reads, etherHeaderLen, ip6HeaderLen,
    Nat.reduceAdd]
  split_ifs with hIp hTl hIp6
  · -- IPv4 with no transport fields read: the addresses end at 34
    simp only [hTl, List.mem_append, List.mem_singleton, or_imp, forall_and, forall_eq,
      forall_mem_span_lt_iff, true_or, and_true]
    omega
  · -- IPv4: the transport fields at `14 + 4 * ip_hl` may end past the addresses
    simp only [List.mem_append, List.mem_singleton, or_imp, forall_and, forall_eq,
      forall_mem_span_lt_iff]
    omega
  · -- IPv6: the addresses end at 54, where the transport fields start
    simp only [List.mem_append, List.mem_singleton, or_imp, forall_and, forall_eq,
      forall_mem_span_lt_iff]
    omega
  · -- any other frame: the Ethernet type only
    simp only [forall_mem_span_lt_iff]
    omega

end Tcpdump

end OsHomework

------------------------------------------------------------
-- Frames That Are Over-Read
------------------------------------------------------------

namespace OsHomework

namespace Tcpdump

/- No frame makes the handler read past byte 86: `ip_hl` is at most 15. -/
theorem packetFootprint_le
    (mem : Nat → UInt8) :
    packetFootprint mem ≤ 86 := by
  have hTl : ∀ p icmp, transportLen p icmp ≤ 12 := by
    intro p icmp
    unfold transportLen
    split_ifs <;> omega
  have hHl : (mem 14).toNat % 16 ≤ 15 := by omega
  have h4 := hTl (mem 23).toNat IPPROTO_ICMP
  have h6 := hTl (mem 20).toNat IPPROTO_ICMPV6
  dsimp only [packetFootprint]
  split_ifs <;> omega

/-
  `packet_handler` stays inside the capture exactly when
  `caplen` reaches the frame's footprint: 14 for a frame it
  skips; for IPv4 34, or `14 + 4 * ip_hl` plus 12, 6 or 2 bytes
  for TCP, UDP or ICMP when that is more; for IPv6 54 plus 12, 6
  or 2 bytes for TCP, UDP or ICMPv6.  No check in the handler
  compares an offset with `caplen`; a capture of 86 bytes or more
  is always read inside.
-/
theorem packet_handler_reads_within_footprint :
    (∀ (mem : Nat → UInt8) (caplen : Nat),
      (∀ i ∈ (packetHandler mem).1, i < caplen) ↔ packetFootprint mem ≤ caplen) ∧
    (∀ mem : Nat → UInt8, packetFootprint mem ≤ 86) :=
  ⟨reads_lt_iff_footprint_le, packetFootprint_le⟩

/- A frame with the IPv4 Ethernet type and nothing else: byte 12 is `0x08`. -/
def ipv4Stub : Nat → UInt8 :=
  fun i => if i = 12 then 8 else 0

/-
  Captured with `caplen = 14`, the Ethernet header alone, it
  makes the handler read the IPv4 addresses and fields past the
  capture, up to byte 33.
-/
theorem packet_handler_reads_past_short_frame :
    ¬ (∀ i ∈ (packetHandler ipv4Stub).1, i < 14) ∧
      33 ∈ (packetHandler ipv4Stub).1 := by
  refine ⟨by decide, by decide⟩

end Tcpdump

end OsHomework
