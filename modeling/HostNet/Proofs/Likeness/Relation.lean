import HostNet.Proofs.Scripts
import HostNet.Proofs.Sending

/-!
# Hosts that are alike

A packet is a window into a buffer, and what lies outside of the window should not
matter.  That is a statement about two runs: two hosts that differ in nothing but such
bytes do the same, and differ in nothing but such bytes afterwards.

* `ExpiringTable.map` — a table with its values seen through a function.
* `Likeness` — what may differ between two hosts besides the storage outside of the windows
  of packets that wait: something about their configurations, and something about their
  receive buffers.
* `Likeness.Alike` — two hosts that differ in nothing else.
* `Event.isShown` — the events that say nothing of where a window lies in its storage.
* `Likeness.Oblivious` — scripts that make no use of what may differ of configurations.
* `Likeness.InStep` — two hosts that are alike and have recorded the same since two points in
  their pasts.  `InStep.emit` and the like keep this.
* `Likeness.SameEffect` — what this comes to for somebody who looks at frames, calls of
  handlers and the log.

### Why likenesses are a parameter

Two statements need this relation.  In one the configurations may differ in the room that
is kept before fresh packets, and scripts have to be told not to look; in the other the
configurations are the same and scripts may do as they like, but what earlier frames left
in the receive buffer differs.  Neither relation serves for both statements, and all that
either proof asks of them are the two fields of `Likeness` at its end.
-/

namespace HostNet

/-! ### Tables seen through a function -/

/-- The table with each value replaced by its image. -/
def Table.map {κ ν μ : Type} (f : ν → μ) (t : Table κ ν) : Table κ μ where
  entries := t.entries.map fun e => (e.1, f e.2)
  nodup := by
    rw [List.map_map]
    exact t.nodup

namespace Table

variable {κ ν μ : Type} (f : ν → μ)

theorem filter_map (t : Table κ ν) (keep : κ → μ → Bool) :
    (t.map f).filter keep = (t.filter fun k v => keep k (f v)).map f := by
  simp only [filter, map, List.filter_map, Function.comp_def]

variable [DecidableEq κ]

theorem get?_map (t : Table κ ν) (key : κ) : (t.map f).get? key = (t.get? key).map f := by
  simp only [get?, map, List.find?_map, Option.map_map]
  rfl

theorem erase_map (t : Table κ ν) (key : κ) : (t.map f).erase key = (t.erase key).map f :=
  filter_map f t _

theorem insert_map (t : Table κ ν) (key : κ) (value : ν) :
    (t.map f).insert key (f value) = (t.insert key value).map f := by
  have herase := congrArg entries (erase_map f t key)
  simp only [insert, map, mk.injEq, List.map_cons] at herase ⊢
  rw [← herase]

end Table

/-- The table with each value replaced by its image, and set when it was set. -/
def ExpiringTable.map {κ ν μ : Type} (f : ν → μ) (t : ExpiringTable κ ν) : ExpiringTable κ μ where
  ttl := t.ttl
  table := t.table.map fun e => ⟨f e.value, e.stamp⟩
  lastPurge := t.lastPurge

namespace ExpiringTable

variable {κ ν μ : Type} (f : ν → μ)

/-- The entries that count do not depend on the values. -/
theorem live_map (t : ExpiringTable κ ν) (now : Nat) :
    ((t.map f).live now).map Prod.fst = (t.live now).map Prod.fst := by
  simp only [live, map, Table.map, List.filter_map, List.map_map]
  rfl

variable [DecidableEq κ]

theorem get?_map (t : ExpiringTable κ ν) (key : κ) (now : Nat) :
    (t.map f).get? key now = (t.get? key now).map f := by
  simp only [get?, map, Table.get?_map]
  cases t.table.get? key with
  | none => rfl
  | some e =>
      show (if t.isFresh e.stamp now then some (f e.value) else none) =
        (if t.isFresh e.stamp now then some e.value else none).map f
      cases t.isFresh e.stamp now with
      | true => rfl
      | false => rfl

theorem delete_map (t : ExpiringTable κ ν) (key : κ) :
    (t.map f).delete key = (t.delete key).map f := by
  simp only [delete, map, Table.erase_map]

theorem set_map (t : ExpiringTable κ ν) (key : κ) (value : ν) (now : Nat) :
    (t.map f).set key (f value) now = (t.set key value now).map f := by
  have hdue : (t.map f).isPurgeDue now = t.isPurgeDue now := rfl
  unfold set
  rw [hdue]
  split
  · simp only [purge, map, Table.filter_map, ← Table.insert_map]
    rfl
  · simp only [map, ← Table.insert_map]

end ExpiringTable

/-! ### What may differ -/

/-- The configurations are the same but for the room that is kept before fresh packets. -/
def Config.SameButHeadRoom (c c' : Config) : Prop :=
  ∃ headRoom headRoom_lt, c' = { c with headRoom, headRoom_lt }

theorem Config.SameButHeadRoom.refl (c : Config) : c.SameButHeadRoom c :=
  ⟨c.headRoom, c.headRoom_lt, rfl⟩

/-- What may differ between two hosts, besides the storage outside of the windows of packets
that wait. -/
structure Likeness where
  /-- Whether two configurations are alike. -/
  config : Config → Config → Prop
  /-- Whether two receive buffers are alike. -/
  buffer : Bytes → Bytes → Prop
  config_same : ∀ c c', config c c' → c.SameButHeadRoom c'
  buffer_splice : ∀ b b', buffer b b' → ∀ frame,
    buffer (Bytes.splice b 0 frame) (Bytes.splice b' 0 frame)

/-- Whether an event says nothing of where a window lies in its storage, and nothing of what
the host's configuration is. -/
def Event.isShown : Event → Bool
  | frameHandled _ _ _ _ => false
  | protocolHandled _ _ _ _ => false
  | replied _ _ => false
  | _ => true

namespace Likeness

variable (l : Likeness)

/-- **Two hosts that are alike**: they differ in what the likeness allows to differ, in the
storage outside of the windows of packets that wait, and in nothing else. -/
structure Alike (h h' : Host) : Prop where
  config : l.config h.config h'.config
  clock : h'.clock = h.clock
  link : h'.link = h.link
  rxBuffer : l.buffer h.rxBuffer h'.rxBuffer
  cache : h'.cache = h.cache
  held : h'.held.map Packet.window = h.held.map Packet.window
  frameHandlers : h'.frameHandlers = h.frameHandlers
  protocolHandlers : h'.protocolHandlers = h.protocolHandlers
  nextId : h'.nextId = h.nextId
  ports : h'.ports = h.ports
  bindings : h'.bindings = h.bindings
  running : h'.running = h.running

/-- Two replies that do not tell hosts apart that are alike. -/
inductive SameReply : Reply → Reply → Prop where
  | same (reply : Reply) : SameReply reply reply
  | config {c c' : Config} (hconfig : l.config c c') : SameReply (.config c) (.config c')

/-- Going on in the same way after replies that do not tell hosts apart. -/
def Fair (next : Reply → Script) : Prop :=
  ∀ reply reply', l.SameReply reply reply' → next reply' = next reply

/-- A script that makes no use of what may differ of configurations, and neither does any
script that it may bring about. -/
def Oblivious (script : Script) : Prop := script.Throughout (fun _ => True) l.Fair

/-- **Two hosts in step**: they are alike, their handlers answer by scripts that cannot tell
them apart, and they have recorded the same since their traces were `before` and `before'`,
as far as it is shown. -/
structure InStep (before before' : List Record) (h h' : Host) : Prop extends l.Alike h h' where
  answers : h.AnswersBy (fun _ => True) l.Fair
  recorded : ∃ new new' : List Record, h.trace = new ++ before ∧ h'.trace = new' ++ before' ∧
    new'.filter (fun r => r.event.isShown) = new.filter (fun r => r.event.isShown)

/-- **The same effect**, for somebody who looks at the frames handed to the link, the calls of
the handlers of ports and the log: since `h` and `h'` the same was added to each of these,
and the hosts that this led to are alike. -/
structure SameEffect (h h' after after' : Host) : Prop where
  alike : l.Alike after after'
  frames : ∃ new, after.frames = h.frames ++ new ∧ after'.frames = h'.frames ++ new
  calls : ∃ new, after.calls = h.calls ++ new ∧ after'.calls = h'.calls ++ new
  notices : ∃ new, after.notices = h.notices ++ new ∧ after'.notices = h'.notices ++ new

variable {l} {before before' : List Record} {h h' : Host}

/-- Hosts of which only the configuration and the receive buffer may differ. -/
theorem Alike.of_config (h : Host) {config : Config} (hconfig : l.config h.config config)
    {rxBuffer : Bytes} (hbuffer : l.buffer h.rxBuffer rxBuffer)
    (rxBuffer_length : rxBuffer.length = config.maxFrame) :
    l.Alike h { h with config, rxBuffer, rxBuffer_length } where
  config := hconfig
  clock := rfl
  link := rfl
  rxBuffer := hbuffer
  cache := rfl
  held := rfl
  frameHandlers := rfl
  protocolHandlers := rfl
  nextId := rfl
  ports := rfl
  bindings := rfl
  running := rfl

/-- Hosts that are alike are in step from where they are. -/
theorem Alike.inStep (alike : l.Alike h h') (answers : h.AnswersBy (fun _ => True) l.Fair) :
    l.InStep h.trace h'.trace h h' where
  toAlike := alike
  answers
  recorded := ⟨[], [], rfl, rfl, rfl⟩

namespace InStep

/-- What a view that sees only what is shown has seen since. -/
theorem observed {α : Type} {see : Event → Option α} {after after' : Host}
    (hsee : ∀ e, e.isShown = false → see e = none)
    (s : l.InStep h.trace h'.trace after after') :
    ∃ new, after.observed see = h.observed see ++ new ∧
      after'.observed see = h'.observed see ++ new := by
  obtain ⟨new, new', htrace, htrace', hshown⟩ := s.recorded
  have hfilter (records : List Record) :
      records.filterMap (fun r => see r.event) =
        (records.filter fun r => r.event.isShown).filterMap fun r => see r.event := by
    rw [List.filterMap_filter]
    congr 1
    funext r
    cases hr : r.event.isShown with
    | true => rfl
    | false => exact hsee r.event hr
  have hnew : new'.filterMap (fun r => see r.event) = new.filterMap fun r => see r.event := by
    rw [hfilter new', hshown, ← hfilter new]
  refine ⟨(new.filterMap fun r => see r.event).reverse, ?_, ?_⟩
  · simp only [Host.observed, htrace, List.filterMap_append, List.reverse_append]
  · simp only [Host.observed, htrace', List.filterMap_append, List.reverse_append, hnew]

/-- Hosts in step have had the same effect. -/
theorem sameEffect {after after' : Host} (s : l.InStep h.trace h'.trace after after') :
    l.SameEffect h h' after after' where
  alike := s.toAlike
  frames := s.observed fun e he => by cases e <;> first | rfl | cases he
  calls := s.observed fun e he => by cases e <;> first | rfl | cases he
  notices := s.observed fun e he => by cases e <;> first | rfl | cases he

/-! ### Configurations -/

theorem config_same (s : l.InStep before before' h h') : h.config.SameButHeadRoom h'.config :=
  l.config_same _ _ s.config

theorem ip (s : l.InStep before before' h h') : h'.config.ip = h.config.ip := by
  obtain ⟨headRoom, hlt, heq⟩ := s.config_same
  rw [heq]

theorem mac (s : l.InStep before before' h h') : h'.config.mac = h.config.mac := by
  obtain ⟨headRoom, hlt, heq⟩ := s.config_same
  rw [heq]

theorem threshold (s : l.InStep before before' h h') :
    h'.config.threshold = h.config.threshold := by
  obtain ⟨headRoom, hlt, heq⟩ := s.config_same
  rw [heq]

/-- The room before fresh packets has no part in a frame. -/
theorem frame (s : l.InStep before before' h h') (destination : MacAddr) (etherType : UInt16)
    (payload : Bytes) :
    Outbound.frame h'.config destination etherType payload =
      Outbound.frame h.config destination etherType payload := by
  obtain ⟨headRoom, hlt, heq⟩ := s.config_same
  rw [heq]
  rfl

/-- Nor in the header of a fragment. -/
theorem fragmentHeader (s : l.InStep before before' h h') (destination : Ipv4Addr)
    (protocol : UInt8) (identification : UInt16) (offset : Nat) (more : Bool) (size : Nat) :
    Outbound.fragmentHeader h'.config destination protocol identification offset more size =
      Outbound.fragmentHeader h.config destination protocol identification offset more size := by
  obtain ⟨headRoom, hlt, heq⟩ := s.config_same
  rw [heq]
  rfl

/-- The link may change, in the same way on both sides. -/
theorem setLink (s : l.InStep before before' h h') {link link' : Link} (heq : link' = link) :
    l.InStep before before' { h with link } { h' with link := link' } :=
  { s with
    link := heq
    answers := s.answers.congr rfl rfl rfl }

/-! ### Records -/

/-- Both hosts record something, which is the same unless it is not shown. -/
theorem record (s : l.InStep before before' h h') {e e' : Event}
    (he : e' = e ∨ (e.isShown = false ∧ e'.isShown = false)) :
    l.InStep before before' (h.emit e) (h'.emit e') := by
  obtain ⟨new, new', htrace, htrace', hshown⟩ := s.recorded
  refine { s with answers := s.answers.congr rfl rfl rfl, recorded := ?_ }
  refine ⟨⟨h.clock, e⟩ :: new, ⟨h'.clock, e'⟩ :: new', congrArg _ htrace, congrArg _ htrace', ?_⟩
  simp only [List.filter_cons, s.clock]
  rcases he with rfl | ⟨hhidden, hhidden'⟩
  · rw [hshown]
  · simp only [hhidden, hhidden', Bool.false_eq_true, if_false, hshown]

theorem emit (s : l.InStep before before' h h') (e : Event) :
    l.InStep before before' (h.emit e) (h'.emit e) :=
  s.record (.inl rfl)

theorem log (s : l.InStep before before' h h') (n : Notice) :
    l.InStep before before' (h.log n) (h'.log n) :=
  s.emit (.notice n)

theorem refuse (s : l.InStep before before' h h') (refusal : Refusal) :
    l.InStep before before' (h.refuse refusal) (h'.refuse refusal) :=
  s.emit refusal.event

theorem noteNarrowing (s : l.InStep before before' h h') (value : Nat) :
    l.InStep before before' (h.noteNarrowing value) (h'.noteNarrowing value) := by
  unfold Host.noteNarrowing
  cases Checked.word16 value with
  | ok word => exact s
  | error fault => exact s.emit (.fault fault)

end InStep

end Likeness

end HostNet
