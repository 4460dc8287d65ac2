import HostNet.Header.Ethernet
import HostNet.Header.Ipv4

/-!
# Configuration

What a host is to be set up with is checked once, before there is a host.

* `Settings` — the values asked for, with defaults for all of them.
* `Config` — accepted values, together with what makes them acceptable.
* `Settings.build` — the `Config` of some settings, or the first reason against
  them.
* `ConfigError` — that reason: which setting, and what is wrong with it.
* `Config.maxFrame` — the length of the longest frame the host receives.

The payload of a fragment is limited by the *threshold*, the greatest packet
length less the 20 bytes of a header.  It has to be a multiple of 8, since the
place of a fragment in its datagram is counted in units of 8 bytes.
-/

namespace HostNet

/-- A setting that can be refused. -/
inductive Setting where
  | mtu
  | minPayload
  | timeToLive
  | arpTimeout
  | arpMinInterval
  | headRoom
  deriving Repr, DecidableEq

/-- The name of a setting in messages. -/
def Setting.name : Setting → String
  | mtu => "mtu"
  | minPayload => "min_payload"
  | timeToLive => "ttl"
  | arpTimeout => "arp_timeout"
  | arpMinInterval => "arp_min_interval"
  | headRoom => "head_room"

/-- What is wrong with the value of a setting. -/
inductive SettingFault where
  | zero
  /-- The value is below `low`, or it is not below `high`. -/
  | outOfRange (value low high : Nat)
  /-- The value is not a multiple of `align`. -/
  | unaligned (value align : Nat)
  deriving Repr, DecidableEq

/-- What is wrong with a value, in full. -/
def SettingFault.message : SettingFault → String
  | zero => "cannot be zero"
  | outOfRange value low high => s!"value '{value}' was out of range '{low}..{high}'"
  | unaligned value align => s!"value '{value}' is not a multiple of {align}"

/-- A setting that was refused. -/
structure ConfigError where
  setting : Setting
  fault : SettingFault
  deriving Repr, DecidableEq

/-- The refusal in full. -/
def ConfigError.message (e : ConfigError) : String :=
  e.setting.name ++ " is invalid: " ++ e.fault.message

/-- What a host is to be set up with.  Times are in nanoseconds. -/
structure Settings where
  /-- The address of the host. -/
  ip : Ipv4Addr := ⟨10, 0, 0, 1⟩
  /-- The address of its interface. -/
  mac : MacAddr := ⟨2, 0, 0, 0, 0, 1⟩
  /-- How long a learned address is trusted. -/
  arpTimeout : Nat := 300000000000
  /-- How long a datagram waits for an address before another may ask for it. -/
  arpMinInterval : Nat := 1000000000
  /-- Shorter payloads of frames are padded with zeros. -/
  minPayload : Nat := 46
  /-- The length of the longest IP packet sent in one frame. -/
  mtu : Nat := 1500
  timeToLive : UInt8 := 64
  serviceType : UInt8 := 0
  /-- The bytes kept free before the window of a fresh packet. -/
  headRoom : Nat := 64
  deriving Repr, DecidableEq

/-- The accepted configuration of a host. -/
structure Config where
  ip : Ipv4Addr
  mac : MacAddr
  arpTimeout : Nat
  arpMinInterval : Nat
  minPayload : Nat
  /-- The length of the longest IP payload sent without cutting it up. -/
  threshold : Nat
  timeToLive : UInt8
  serviceType : UInt8
  headRoom : Nat
  threshold_ge : 48 ≤ threshold
  threshold_le : threshold ≤ 8980
  threshold_aligned : threshold % 8 = 0
  minPayload_le : minPayload ≤ threshold + Header.Ipv4.size
  timeToLive_ne_zero : timeToLive ≠ 0
  arpTimeout_pos : 0 < arpTimeout
  arpMinInterval_pos : 0 < arpMinInterval
  headRoom_lt : headRoom < 65536
  deriving Repr, DecidableEq

namespace Config

/-- The length of the longest frame: a header and a packet of the greatest length. -/
def maxFrame (c : Config) : Nat := Header.Ethernet.size + c.threshold + Header.Ipv4.size

end Config

namespace Settings

/-- The greatest packet length a host can be set up with. -/
def maxMtu : Nat := 9000

/-- The least packet length a host can be set up with: every host has to accept
packets of this length. -/
def minMtu : Nat := 68

/-- The configuration of some settings.  The settings are looked at in the order
of the lines, and the first one that is refused is reported. -/
def build (s : Settings) : Except ConfigError Config :=
  let threshold := s.mtu - Header.Ipv4.size
  if hmtu : ¬(minMtu ≤ s.mtu ∧ s.mtu < maxMtu + 1) then
    .error ⟨.mtu, .outOfRange s.mtu minMtu (maxMtu + 1)⟩
  else if haligned : threshold % 8 ≠ 0 then
    .error ⟨.mtu, .unaligned threshold 8⟩
  else if hpayload : ¬s.minPayload < s.mtu + 1 then
    .error ⟨.minPayload, .outOfRange s.minPayload 0 (s.mtu + 1)⟩
  else if httl : s.timeToLive = 0 then
    .error ⟨.timeToLive, .zero⟩
  else if htimeout : s.arpTimeout = 0 then
    .error ⟨.arpTimeout, .zero⟩
  else if hinterval : s.arpMinInterval = 0 then
    .error ⟨.arpMinInterval, .zero⟩
  else if hroom : ¬s.headRoom < 65536 then
    .error ⟨.headRoom, .outOfRange s.headRoom 0 65536⟩
  else
    .ok {
      ip := s.ip
      mac := s.mac
      arpTimeout := s.arpTimeout
      arpMinInterval := s.arpMinInterval
      minPayload := s.minPayload
      threshold
      timeToLive := s.timeToLive
      serviceType := s.serviceType
      headRoom := s.headRoom
      threshold_ge := by simp only [minMtu] at hmtu; simp only [threshold, Header.Ipv4.size]; omega
      threshold_le := by simp only [maxMtu] at hmtu; simp only [threshold, Header.Ipv4.size]; omega
      threshold_aligned := Classical.not_not.1 haligned
      minPayload_le := by
        simp only [minMtu] at hmtu
        simp only [threshold, Header.Ipv4.size]
        omega
      timeToLive_ne_zero := httl
      arpTimeout_pos := Nat.pos_of_ne_zero htimeout
      arpMinInterval_pos := Nat.pos_of_ne_zero hinterval
      headRoom_lt := Classical.not_not.1 hroom }

end Settings

end HostNet
