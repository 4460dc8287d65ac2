import HostNet.Proofs.Simulation.Runs

/-!
# Failures of sending are not noticed

A frame that the link fails to send is lost, and the host says so and goes on.  That this is
all is a statement about two runs, with the same host on two links that are in the same state
but for what they have sent and how they will fail to send.

* `Retraced` — two traces that are the same but for how sending went.
* `Host.Relinked` — two hosts that are the same but for that, and for their links.
* `Simulation.lossy` — the simulation that these are related by; `relinked_iff` says so.
* `Relinked.perform`, `Relinked.execAll` — actions and whole runs.
* `SameButLink` — what this comes to for somebody who looks at frames, calls, tables and logs.
* `send_failures_unnoticed` — how sending fails changes nothing but the wire.

### Why traces are related by their transmissions

A warning stands right behind the failure that it reports, so that the two of them come as one
piece, `History.transmission`, which is what may differ.  Related traces then have the same
frames, and each has as many warnings as failures, without anything being counted.

### What an observer of the link would see

How many frames were sent is part of the link, and a script that asks for it can behave
differently where a frame was lost.  Such scripts are left out, and nothing else is.
-/

namespace HostNet

open History (transmission)

/-! ### Traces -/

namespace Event

/-- The event, regardless of how sending a frame went. -/
def regardless? : Event → Option Event
  | transmitted frame _ => some (transmitted frame none)
  | notice n => if n.level = .warn then none else some (notice n)
  | e => some e

/-- The line that was logged, if it is a warning. -/
def warning? : Event → Option Notice
  | notice n => if n.level = .warn then some n else none
  | _ => none

/-- The line that should be logged for a frame that could not be sent. -/
def failure? : Event → Option Notice
  | transmitted frame (some cause) => some (.sendFailed frame.length cause)
  | _ => none

/-- What does not tell how sending went is neither a warning nor a failure. -/
theorem warning?_eq_failure? {e : Event} (he : e.isOffWire = true) : e.warning? = e.failure? := by
  cases e with
  | notice n => exact if_neg (bne_iff_ne.1 he)
  | transmitted frame fault => cases he
  | _ => rfl

end Event

/-- **Two traces that are the same** but for how sending each frame went. -/
inductive Retraced : List Record → List Record → Prop where
  | nil : Retraced [] []
  | same {t t' : List Record} (r : Record) (hr : r.event.isOffWire = true) (rest : Retraced t t') :
      Retraced (r :: t) (r :: t')
  | sent {t t' : List Record} (time : Nat) (frame : Bytes) (fault fault' : Option LinkError)
      (rest : Retraced t t') :
      Retraced (transmission time frame fault ++ t) (transmission time frame fault' ++ t')

namespace Retraced

variable {t t' : List Record}

theorem symm (same : Retraced t t') : Retraced t' t := by
  induction same with
  | nil => exact .nil
  | same r hr _ ih => exact .same r hr ih
  | sent time frame fault fault' _ ih => exact .sent time frame fault' fault ih

/-- A view that sees the frame of a transmission at most sees the same of both. -/
theorem filterMap_eq {α : Type} {see : Event → Option α}
    (hfault : ∀ frame fault, see (.transmitted frame fault) = see (.transmitted frame none))
    (hwarning : ∀ size cause, see (.notice (.sendFailed size cause)) = none)
    (same : Retraced t t') :
    t'.filterMap (fun r => see r.event) = t.filterMap fun r => see r.event := by
  have hsent (time : Nat) (frame : Bytes) (fault : Option LinkError) :
      (transmission time frame fault).filterMap (fun r => see r.event) =
        (see (.transmitted frame none)).toList := by
    cases fault with
    | none =>
        rw [transmission, List.filterMap_cons, List.filterMap_nil]
        cases see (.transmitted frame none) with
        | none => rfl
        | some a => rfl
    | some cause =>
        simp only [transmission, List.filterMap_cons, hwarning, hfault, List.filterMap_nil]
        cases see (.transmitted frame none) with
        | none => rfl
        | some a => rfl
  induction same with
  | nil => rfl
  | same r hr _ ih => rw [List.filterMap_cons, List.filterMap_cons, ih]
  | sent time frame fault fault' _ ih =>
      rw [List.filterMap_append, List.filterMap_append, hsent, hsent, ih]

/-- **A warning for each failure**, and no others. -/
theorem warnings_eq (same : Retraced t t') :
    t.filterMap (fun r => r.event.warning?) = t.filterMap fun r => r.event.failure? := by
  induction same with
  | nil => rfl
  | same r hr _ ih =>
      rw [List.filterMap_cons, List.filterMap_cons, Event.warning?_eq_failure? hr, ih]
  | sent time frame fault fault' _ ih =>
      rw [List.filterMap_append, List.filterMap_append, ih]
      cases fault with
      | none => rfl
      | some cause => rfl

end Retraced

/-! ### Hosts -/

/-- Whether an action does not ask the link what was sent. -/
def Action.IgnoresLink : Action → Prop
  | .countSent => False
  | _ => True

/-- An action that neither asks the link what was sent nor brings about a script that does. -/
abbrev Action.Heedless (action : Action) : Prop :=
  action.Throughout Action.IgnoresLink fun _ => True

/-- Links with the same frames waiting receive the same. -/
theorem Link.receive_congr {l l' : Link} (hqueue : l'.queue = l.queue)
    (hfault : l'.receiveFault = l.receiveFault) (capacity : Nat) :
    (l'.receive capacity).2 = (l.receive capacity).2 ∧
      (l'.receive capacity).1.queue = (l.receive capacity).1.queue ∧
      (l'.receive capacity).1.receiveFault = (l.receive capacity).1.receiveFault := by
  unfold receive
  rw [hqueue, hfault]
  cases l.receiveFault with
  | some cause => exact ⟨rfl, hqueue, hfault⟩
  | none =>
      cases l.queue with
      | nil => exact ⟨rfl, hqueue, hfault⟩
      | cons frame rest =>
          simp only []
          split
          · exact ⟨rfl, rfl, rfl⟩
          · exact ⟨rfl, rfl, rfl⟩

/-- Links that fail otherwise to send, and traces that say so. -/
def Simulation.lossy : Simulation where
  allows := Action.IgnoresLink
  links l l' := l'.queue = l.queue ∧ l'.receiveFault = l.receiveFault
  buffers := Eq
  traces := Retraced
  record r _ _ hr traces := .same r hr traces
  send l l' frame := by
    rintro ⟨hqueue, hfault⟩
    constructor
    · rw [l'.queue_send, l.queue_send, hqueue]
    · rw [l'.receiveFault_send, l.receiveFault_send, hfault]
  transmit _ _ _ _ time frame _ traces := .sent time frame _ _ traces
  receive l l' capacity _ := fun ⟨hqueue, hfault⟩ => Link.receive_congr hqueue hfault capacity
  fill _ _ frame _ := congrArg (Bytes.splice · 0 frame)
  inject _ _ frame _ := fun ⟨hqueue, hfault⟩ => ⟨congrArg (· ++ [frame]) hqueue, hfault⟩
  deliver _ _ := ⟨trivial, trivial⟩
  setLink _ _ _ _ _ := fun ⟨hqueue, _⟩ => ⟨hqueue, rfl⟩
  countSent _ _ hallowed := hallowed.elim

namespace Host

/-- **The same host on a link that fails otherwise**: what waits to be received is the same, and
so is what the host recorded but for how sending went.  Its handlers answer by scripts that do
not look at the link. -/
structure Relinked (h h' : Host) : Prop where
  unchanged : ∃ link trace, h' = { h with link, trace }
  queue : h'.link.queue = h.link.queue
  receiveFault : h'.link.receiveFault = h.link.receiveFault
  traces : Retraced h.trace h'.trace
  answers : h.AnswersBy Action.IgnoresLink fun _ => True

variable {h h' : Host}

theorem relinked_iff : Relinked h h' ↔ Simulation.lossy.Related h h' := by
  constructor
  · intro s
    obtain ⟨link, trace, rfl⟩ := s.unchanged
    exact ⟨⟨link, h.rxBuffer, trace, h.rxBuffer_length, rfl⟩, ⟨s.queue, s.receiveFault⟩, rfl,
      s.traces, s.answers⟩
  · intro s
    obtain ⟨hqueue, hfault⟩ := s.links
    have hbuffer : h.rxBuffer = h'.rxBuffer := s.buffers
    have traces := s.traces
    obtain ⟨link, rxBuffer, trace, rxBuffer_length, rfl⟩ := s.unchanged
    subst hbuffer
    exact ⟨⟨link, trace, rfl⟩, hqueue, hfault, traces, s.answers⟩

namespace Relinked

theorem sendArpRequest (s : Relinked h h') (target : Ipv4Addr) :
    Relinked (h.sendArpRequest target) (h'.sendArpRequest target) :=
  relinked_iff.2 ((relinked_iff.1 s).sendArpRequest target)

/-- **One action** that does not ask the link, with the same reply. -/
theorem perform (s : Relinked h h') {run : Runner} (hrun : Simulation.lossy.RunsRelated run)
    (action : Action) (haction : action.Heedless) :
    Relinked (h.perform run action).1 (h'.perform run action).1 ∧
      (h'.perform run action).2 = (h.perform run action).2 := by
  obtain ⟨hdone, hreply⟩ := (relinked_iff.1 s).perform hrun action haction
  exact ⟨relinked_iff.2 hdone, hreply⟩

/-- **A run**. -/
theorem execAll (s : Relinked h h') (depth : Nat) (actions : List Action)
    (hactions : ∀ action ∈ actions, action.Heedless) :
    Relinked (h.execAll depth actions) (h'.execAll depth actions) :=
  relinked_iff.2 ((relinked_iff.1 s).execAll depth actions hactions)

end Relinked

/-- **Scripts nested to any depth** do the same to both. -/
theorem runner_relinked (depth : Nat) : Simulation.lossy.RunsRelated (runner depth) :=
  Simulation.runner_related _ depth

/-! ### What an observer sees -/

/-- **The same but for the link**: the same frames were handed to it, the same calls made and the
same lines logged but for warnings, of which each host has one for each of its failures.  All
tables and counters are the same. -/
structure SameButLink (h h' : Host) : Prop where
  frames : h'.frames = h.frames
  calls : h'.calls = h.calls
  state : ∃ link trace, h' = { h with link, trace }
  queue : h'.link.queue = h.link.queue
  /-- All that was recorded, in its order, with the frames but not with what became of them. -/
  events : h'.observed Event.regardless? = h.observed Event.regardless?
  log : (h'.notices.filter fun n => n.level != .warn) = h.notices.filter fun n => n.level != .warn
  warnings : h.observed Event.warning? = h.observed Event.failure?
  warnings' : h'.observed Event.warning? = h'.observed Event.failure?

namespace Relinked

variable {h h' : Host}

/-- A view that sees the frame of a transmission at most sees the same of both. -/
theorem observed_eq (s : Relinked h h') {α : Type} {see : Event → Option α}
    (hfault : ∀ frame fault, see (.transmitted frame fault) = see (.transmitted frame none))
    (hwarning : ∀ size cause, see (.notice (.sendFailed size cause)) = none) :
    h'.observed see = h.observed see :=
  congrArg List.reverse (s.traces.filterMap_eq hfault hwarning)

theorem sameButLink (s : Relinked h h') : SameButLink h h' where
  frames := s.observed_eq (fun _ _ => rfl) fun _ _ => rfl
  calls := s.observed_eq (fun _ _ => rfl) fun _ _ => rfl
  state := s.unchanged
  queue := s.queue
  events := s.observed_eq (fun _ _ => rfl) fun _ _ => rfl
  log := by
    have hlines (g : Host) : (g.notices.filter fun n => n.level != .warn) =
        g.observed fun e => e.notice?.filter fun n => n.level != .warn := by
      rw [notices, observed, observed, List.filter_reverse, List.filter_filterMap]
    rw [hlines, hlines]
    exact s.observed_eq (fun _ _ => rfl) fun _ _ => rfl
  warnings := congrArg List.reverse s.traces.warnings_eq
  warnings' := congrArg List.reverse s.traces.symm.warnings_eq

end Relinked

theorem silent_relinked (config : Config) {link link' : Link} (hqueue : link'.queue = link.queue)
    (hfault : link'.receiveFault = link.receiveFault) :
    Relinked (silent config link) (silent config link') where
  unchanged := ⟨link', [], rfl⟩
  queue := hqueue
  receiveFault := hfault
  traces := .nil
  answers := .of_hasOwnHandlers (silent_hasOwnHandlers config link) fun port _ hbound =>
    nomatch (Table.get?_empty port).symm.trans hbound

/-- **Failures to send change nothing but the wire.**  Take a host on a link, and two ways in
which each attempt to send may fail or not, and ask anything of it, with handlers that do not
ask the link what was sent.  Both ways, the same frames are handed to the link in the same
order, beginning with those of the announcement; the same handlers are called; the same is
known of addresses, waits for them and is bound to ports; and the same is replied to whatever
is asked next.  The logs differ by one warning for each frame that could not be sent. -/
theorem send_failures_unnoticed (config : Config) (link : Link)
    (sendFault sendFault' : Nat → Option LinkError) (depth : Nat) (actions : List Action)
    (hactions : ∀ action ∈ actions, action.Heedless) :
    let h := (start config { link with sendFault }).execAll depth actions
    let h' := (start config { link with sendFault := sendFault' }).execAll depth actions
    SameButLink h h' ∧
      ∀ action : Action, action.Heedless → (h'.exec depth action).2 = (h.exec depth action).2 := by
  intro h h'
  have hsilent : Relinked (silent config { link with sendFault })
      (silent config { link with sendFault := sendFault' }) := silent_relinked config rfl rfl
  have hdone : Relinked h h' := (hsilent.sendArpRequest config.ip).execAll depth actions hactions
  refine ⟨hdone.sameButLink, fun action haction => ?_⟩
  exact (hdone.perform (runner_relinked depth) action haction).2

/-- The announcement and the question for an address are lost, and the datagram waits for an
answer all the same. -/
theorem send_failures_unnoticed_closed :
    ∃ config, Settings.build {} = .ok config ∧
      let actions : List Action := [.sendUdp [1, 2, 3] 7 ⟨10, 0, 0, 2⟩ 9]
      let h := (start config { sendFault := fun _ => none }).execAll 0 actions
      let h' := (start config { sendFault := fun _ => some .closed }).execAll 0 actions
      SameButLink h h' ∧ (h'.exec 0 .listPending).2 = (h.exec 0 .listPending).2 := by
  obtain ⟨config, hconfig⟩ : ∃ config, Settings.build {} = .ok config := ⟨_, rfl⟩
  refine ⟨config, hconfig, ?_⟩
  have hsame := send_failures_unnoticed config {} (fun _ => none) (fun _ => some .closed) 0
    [.sendUdp [1, 2, 3] 7 ⟨10, 0, 0, 2⟩ 9] fun action haction => by
      cases List.mem_singleton.1 haction
      simp only [Action.Heedless, Action.Throughout, Action.IgnoresLink]
  refine ⟨hsame.1, hsame.2 .listPending ?_⟩
  simp only [Action.Heedless, Action.Throughout, Action.IgnoresLink]

end Host

end HostNet
