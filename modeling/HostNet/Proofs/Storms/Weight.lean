import HostNet.Proofs.Acceptance
import HostNet.Proofs.Fragmentation
import Mathlib.Algebra.GroupWithZero.Nat

/-!
# How much a frame can bring about

A frame that is received may be answered, its answer may be answered, and so on.  Every
frame is given a weight here: a bound on how many frames it can bring about between two
hosts without scripts, itself included.

* `Weight.frame` — the weight of a frame for a host at some address.
* `Weight.arp`, `Weight.ipv4`, `Weight.icmp` — the weight of what it carries.
* `one_le_frame`, `frame_le` — no frame weighs less than 1 or more than 6.
* `requestFrame_le`, `replyFrame_eq`, `ipv4_fragment_le`, `icmp_of_header` — the weights of
  what hosts send themselves.
* `ExpiringTable.total` — what the values that count in a table weigh together.

### Why these weights

What is not accepted weighs 1, and so does an answer to an echo request or an ARP reply,
as neither is answered.  A question for the host is answered with one such reply: 2.  An
echo request is answered with one message, which may have to wait and be asked for: 1, and
2 for the question, besides its own 1 make 4.  Anything else may lead to a message that it
could not be delivered.  That message is short, but may still take two fragments, and hosts
do not put fragments together: the second one is taken for a message of its own, and what it
says was chosen by whoever sent the datagram that it quotes.  It may be an echo request, so
that there are 1 and 4 besides the 1 of the datagram itself.
-/

namespace HostNet

/-! ### Sums over what counts in a table -/

namespace ExpiringTable

theorem sum_map_le_of_sublist {α : Type} (f : α → Nat) {l₁ l₂ : List α} (h : l₁.Sublist l₂) :
    (l₁.map f).sum ≤ (l₂.map f).sum := by
  induction h with
  | slnil => exact Nat.le_refl _
  | cons a _ ih =>
      rw [List.map_cons, List.sum_cons]
      omega
  | cons_cons a _ ih =>
      rw [List.map_cons, List.map_cons, List.sum_cons, List.sum_cons]
      omega

theorem sum_map_le_mul {α : Type} {f : α → Nat} {bound : Nat} (h : ∀ a, f a ≤ bound)
    (l : List α) : (l.map f).sum ≤ bound * l.length := by
  induction l with
  | nil => exact Nat.zero_le _
  | cons a l ih =>
      have ha := h a
      rw [List.map_cons, List.sum_cons, List.length_cons, Nat.mul_succ]
      omega

variable {κ ν : Type} (weight : ν → Nat)

/-- The weights of the values that count at some time, added up. -/
def total (t : ExpiringTable κ ν) (now : Nat) : Nat :=
  ((t.live now).map fun e => weight e.2.value).sum

theorem total_le_mul_size {bound : Nat} (hbound : ∀ value, weight value ≤ bound)
    (t : ExpiringTable κ ν) (now : Nat) : t.total weight now ≤ bound * t.size := by
  have hlive : t.total weight now ≤ bound * (t.live now).length :=
    sum_map_le_mul (fun e : κ × Stamped ν => hbound e.2.value) (t.live now)
  exact Nat.le_trans hlive (Nat.mul_le_mul_left bound (List.length_filter_le _ _))

/-- As time passes less and less counts. -/
theorem total_le_of_le (t : ExpiringTable κ ν) {now later : Nat} (hle : now ≤ later) :
    t.total weight later ≤ t.total weight now := by
  have hlive : t.live later = (t.live now).filter fun e => t.isFresh e.2.stamp later := by
    rw [live, live, List.filter_filter]
    refine List.filter_congr fun e _ => ?_
    cases hfresh : t.isFresh e.2.stamp later with
    | false => rfl
    | true => rw [t.isFresh_of_le hle hfresh]; rfl
  rw [total, hlive]
  exact sum_map_le_of_sublist _ List.filter_sublist

variable [DecidableEq κ]

/-- **A write adds one value** at most. -/
theorem total_set_le (t : ExpiringTable κ ν) (key : κ) (value : ν) (now : Nat) :
    (t.set key value now).total weight now ≤ weight value + t.total weight now := by
  -- Whether or not a purge is due, what is left of the entries before is among them.
  obtain ⟨rest, hentries, hrest⟩ : ∃ rest,
      (t.set key value now).table.entries = (key, ⟨value, now⟩) :: rest ∧
        rest.Sublist t.table.entries := by
    unfold set
    split
    · exact ⟨_, rfl, List.filter_sublist.trans List.filter_sublist⟩
    · exact ⟨_, rfl, List.filter_sublist⟩
  have hfresh (stamp : Nat) : (t.set key value now).isFresh stamp now = t.isFresh stamp now := by
    unfold set
    split
    · rfl
    · rfl
  have hlive : (t.set key value now).live now =
      (key, ⟨value, now⟩) :: rest.filter fun e => t.isFresh e.2.stamp now := by
    simp only [live, hentries, hfresh, List.filter_cons, t.isFresh_self now, if_true]
  rw [total, hlive, List.map_cons, List.sum_cons]
  exact Nat.add_le_add_left (sum_map_le_of_sublist _ (hrest.filter _)) _

theorem total_delete_le (t : ExpiringTable κ ν) (key : κ) (now : Nat) :
    (t.delete key).total weight now ≤ t.total weight now :=
  sum_map_le_of_sublist _ (List.filter_sublist.filter _)

/-- **Taking a value out** takes its weight away. -/
theorem total_delete_add_le (t : ExpiringTable κ ν) {key : κ} {now : Nat} {value : ν}
    (hget : t.get? key now = some value) :
    (t.delete key).total weight now + weight value ≤ t.total weight now := by
  obtain ⟨stamp, hstored, hfresh⟩ := (t.get?_eq_some_iff key now value).1 hget
  obtain ⟨before, after, hentries⟩ :=
    List.append_of_mem ((Table.mem_entries_iff t.table key ⟨value, stamp⟩).2 hstored)
  have hrest : (t.delete key).table.entries.Sublist (before ++ after) := by
    show ((t.table.entries.filter fun e => !decide (e.1 = key))).Sublist _
    rw [hentries, List.filter_append, List.filter_cons_of_neg (by simp)]
    exact List.filter_sublist.append List.filter_sublist
  have hle : (t.delete key).total weight now ≤
      (((before ++ after).filter fun e => t.isFresh e.2.stamp now).map
        fun e => weight e.2.value).sum :=
    sum_map_le_of_sublist _ (hrest.filter _)
  have hsplit : t.total weight now =
      (((before ++ after).filter fun e => t.isFresh e.2.stamp now).map
        fun e => weight e.2.value).sum + weight value := by
    have hlive : t.live now = (before.filter fun e => t.isFresh e.2.stamp now) ++
        (key, ⟨value, stamp⟩) :: after.filter fun e => t.isFresh e.2.stamp now := by
      simp only [live, hentries, List.filter_append, List.filter_cons, hfresh, if_true]
    rw [total, hlive, List.filter_append]
    simp only [List.map_append, List.map_cons, List.sum_append, List.sum_cons]
    omega
  omega

end ExpiringTable

/-! ### Weights -/

namespace Weight

/-- The weight of an ICMP message. -/
def icmp (source : Ipv4Addr) (message : Bytes) : Nat :=
  match Inbound.icmp source message with
  | .ok _ => 4
  | .error _ => 1

/-- The weight of an IPv4 packet for a host at `localIp`. -/
def ipv4 (localIp : Ipv4Addr) (window : Bytes) : Nat :=
  match Inbound.ipv4 localIp window with
  | .ok h =>
      if h.protocol = Protocol.icmp then
        icmp h.source ((window.take h.totalLength.toNat).drop h.headerLength)
      else 6
  | .error _ => 1

/-- The weight of an ARP packet for a host at `localIp`. -/
def arp (localIp : Ipv4Addr) (window : Bytes) : Nat :=
  match Inbound.arp window with
  | .ok h =>
      if h.operation = ArpOperation.request.code ∧ h.targetIp = localIp then 2 else 1
  | .error _ => 1

/-- The weight of the payload of a frame for a host at `localIp`. -/
def payload (localIp : Ipv4Addr) (etherType : UInt16) (window : Bytes) : Nat :=
  if etherType = EtherType.ipv4 then ipv4 localIp window
  else if etherType = EtherType.arp then arp localIp window
  else 1

/-- **The weight of a frame** for a host at `localIp`. -/
def frame (localIp : Ipv4Addr) (frame : Bytes) : Nat :=
  match Header.Ethernet.parse frame with
  | .ok h => payload localIp h.etherType (frame.drop Header.Ethernet.size)
  | .error _ => 1

/-! ### Bounds -/

theorem icmp_bounds (source : Ipv4Addr) (message : Bytes) :
    1 ≤ icmp source message ∧ icmp source message ≤ 4 := by
  unfold icmp
  split
  · decide
  · decide

theorem ipv4_bounds (localIp : Ipv4Addr) (window : Bytes) :
    1 ≤ ipv4 localIp window ∧ ipv4 localIp window ≤ 6 := by
  unfold ipv4
  split
  · split
    · have hbounds := icmp_bounds
      exact ⟨(hbounds _ _).1, Nat.le_trans (hbounds _ _).2 (by decide)⟩
    · decide
  · decide

theorem arp_bounds (localIp : Ipv4Addr) (window : Bytes) :
    1 ≤ arp localIp window ∧ arp localIp window ≤ 2 := by
  unfold arp
  split
  · split
    · decide
    · decide
  · decide

theorem payload_bounds (localIp : Ipv4Addr) (etherType : UInt16) (window : Bytes) :
    1 ≤ payload localIp etherType window ∧ payload localIp etherType window ≤ 6 := by
  unfold payload
  split
  · exact ipv4_bounds localIp window
  · split
    · exact ⟨(arp_bounds localIp window).1,
        Nat.le_trans (arp_bounds localIp window).2 (by decide)⟩
    · decide

/-- Every frame counts itself. -/
theorem one_le_frame (localIp : Ipv4Addr) (bytes : Bytes) : 1 ≤ frame localIp bytes := by
  unfold frame
  split
  · exact (payload_bounds _ _ _).1
  · exact Nat.le_refl 1

/-- **No frame weighs more than 6.** -/
theorem frame_le (localIp : Ipv4Addr) (bytes : Bytes) : frame localIp bytes ≤ 6 := by
  unfold frame
  split
  · exact (payload_bounds _ _ _).2
  · decide

/-! ### What hosts send -/

theorem frame_frame (localIp : Ipv4Addr) (c : Config) (mac : MacAddr) (etherType : UInt16)
    (bytes : Bytes) :
    frame localIp (Outbound.frame c mac etherType bytes) =
      payload localIp etherType (bytes ++ Bytes.zeros (c.minPayload - bytes.length)) := by
  rw [frame, Outbound.parse_frame, Outbound.drop_frame]

/-- The weight of a frame that carries an ARP packet. -/
theorem frame_arp (localIp : Ipv4Addr) (c : Config) (mac : MacAddr) (h : Header.Arp)
    (hsupported : h.isSupported = true) :
    frame localIp (Outbound.frame c mac EtherType.arp h.bytes) =
      if h.operation = ArpOperation.request.code ∧ h.targetIp = localIp then 2 else 1 := by
  rw [frame_frame, payload, if_neg (by decide), if_pos rfl, arp,
    Inbound.arp_of_supported h _ hsupported]

theorem requestFrame_le (localIp : Ipv4Addr) (c : Config) (target : Ipv4Addr) :
    frame localIp (Outbound.requestFrame c target) ≤ 2 := by
  rw [Outbound.requestFrame, frame_arp _ _ _ _ (Header.Arp.isSupported_new _ _ _ _ _)]
  split
  · decide
  · decide

/-- A reply is not answered. -/
theorem replyFrame_eq (localIp : Ipv4Addr) (c : Config) (target : Ipv4Addr) (mac : MacAddr) :
    frame localIp (Outbound.replyFrame c target mac) = 1 := by
  rw [Outbound.replyFrame, frame_arp _ _ _ _ (Header.Arp.isSupported_new _ _ _ _ _)]
  have hcode : ¬ArpOperation.reply.code = ArpOperation.request.code := by decide
  exact if_neg fun h => hcode h.1

/-- **A fragment of an ICMP message** weighs no more than a message of its own would. -/
theorem ipv4_fragment_le (localIp : Ipv4Addr) (c : Config) (destination : Ipv4Addr)
    (identification : UInt16) (offset : Nat) (more : Bool) (piece rest : Bytes)
    (hsize : piece.length ≤ Header.Ipv4.maxPayload) :
    ipv4 localIp (Outbound.fragment c destination Protocol.icmp identification offset more piece ++
      rest) ≤ icmp c.ip piece := by
  unfold ipv4
  split
  · rename_i h hok
    have hparse := Outbound.parse_fragment c destination Protocol.icmp identification offset more
      piece rest
    obtain ⟨valid, rfl⟩ := (Inbound.ipv4_eq_ok_iff _ _ h).1 hok
    rw [(Header.Ipv4.parse_eq_ok_iff _ _).2 ⟨valid.size, rfl⟩] at hparse
    rw [Except.ok.inj hparse, Outbound.take_fragment _ _ _ _ _ _ _ _ hsize,
      Outbound.drop_fragment]
    exact Nat.le_of_eq (if_pos rfl)
  · exact (icmp_bounds _ _).1

/-- A message that is not an echo request is not answered. -/
theorem icmp_of_header (source : Ipv4Addr) (h : Header.Icmp) (data : Bytes)
    (htype : h.messageType ≠ IcmpType.echoRequest) : icmp source (h.bytes ++ data) = 1 := by
  rw [icmp, Inbound.icmp, Header.Icmp.parse_append]
  simp only [Inbound.readHeader_ok, bind, Except.bind, if_neg htype]
  rfl

end Weight

end HostNet
