import HostNet.Proofs.Likeness.Receiving

/-!
# Runs in step

* `InStep.perform` — one action, asked of both hosts.
* `InStep.script_run`, `runner_inStep` — scripts, nested to any depth.
* `InStep.execAll` — actions one after another.
* `headRooms`, `buffers` — the two likenesses: hosts whose configurations differ in the room
  before fresh packets, and hosts whose receive buffers differ.
* `action_buffers`, `answersBy_buffers` — where configurations are the same, neither actions
  nor handlers can tell hosts apart.
-/

namespace HostNet.Likeness

variable {l : Likeness} {before before' : List Record} {h h' : Host}

namespace InStep

/-- **One action**; the cases are the constructors of `Action`.  The replies do not tell the
hosts apart. -/
theorem perform (s : l.InStep before before' h h') {run : Host.Runner} (hrun : l.RunsInStep run)
    (action : Action) (haction : action.Throughout (fun _ => True) l.Fair) :
    l.InStep before before' (h.perform run action).1 (h'.perform run action).1 ∧
      l.SameReply (h.perform run action).2 (h'.perform run action).2 := by
  cases action with
  | inject frame => exact ⟨s.setLink (by rw [s.link]), .same _⟩
  | poll =>
      obtain ⟨hpolled, hreply⟩ := s.poll hrun
      refine ⟨hpolled, ?_⟩
      show l.SameReply (h.poll run).2 (h'.poll run).2
      rw [hreply]
      exact .same _
  | deliver frame =>
      have hqueued : l.InStep before before' { h with link := h.link.inject frame }
          { h' with link := h'.link.inject frame } := s.setLink (by rw [s.link])
      obtain ⟨hpolled, hreply⟩ := hqueued.poll hrun
      refine ⟨hpolled, ?_⟩
      show l.SameReply ({ h with link := h.link.inject frame }.poll run).2
        ({ h' with link := h'.link.inject frame }.poll run).2
      rw [hreply]
      exact .same _
  | receiveFrame packet => exact ⟨s.receiveFrame hrun (.of_eq _ rfl) (.inl rfl), .same _⟩
  | sendFrame packet destination etherType => exact ⟨s.sendFrame rfl _ _, .same _⟩
  | receiveArp packet => exact ⟨s.receiveArp rfl, .same _⟩
  | sendPacket packet target => exact ⟨s.sendPacket rfl _, .same _⟩
  | sendArpRequest target => exact ⟨s.sendArpRequest _, .same _⟩
  | sendArpReply target mac => exact ⟨s.sendArpReply _ _, .same _⟩
  | receiveIpv4 packet => exact ⟨s.receiveIpv4 hrun (.of_eq _ rfl) (.inl rfl), .same _⟩
  | sendDatagram packet destination protocol => exact ⟨s.sendDatagram rfl _ _, .same _⟩
  | sendFragment packet destination protocol identification offset more =>
      exact ⟨s.sendFragment rfl _ _ _ _ _, .same _⟩
  | receiveIcmp packet source => exact ⟨s.receiveIcmp rfl _, .same _⟩
  | sendUnreachable undelivered target what => exact ⟨s.sendUnreachable rfl _ _, .same _⟩
  | receiveUdp packet source => exact ⟨s.receiveUdp hrun (.of_eq _ _ rfl) .same, .same _⟩
  | sendSegment packet sourcePort destination port =>
      exact ⟨s.sendSegment rfl _ _ _, .same _⟩
  | sendUdp payload sourcePort destination port => exact ⟨s.sendUdp _ _ _ _, .same _⟩
  | openPort port name body =>
      rw [Action.Throughout] at haction
      let bound : Binding := { number := h.bindings, name, memory := 0, body }
      have hopened : l.InStep before before'
          { h with ports := h.ports.insert port bound, bindings := h.bindings + 1 }
          { h' with ports := h'.ports.insert port bound, bindings := h'.bindings + 1 } :=
        { s with
          ports := by rw [s.ports]
          bindings := by rw [s.bindings]
          answers := (s.answers.insert_port port bound haction.2).congr rfl rfl rfl }
      have hrecorded := hopened.emit (.portOpened port bound.number)
      refine ⟨?_, .same _⟩
      show l.InStep before before' _ (Host.emit { h' with
        ports := h'.ports.insert port { bound with number := h'.bindings }
        bindings := h'.bindings + 1 } (.portOpened port h'.bindings))
      rw [s.bindings]
      rw [s.bindings] at hrecorded
      exact hrecorded
  | closePort port =>
      have hclosed : l.InStep before before' { h with ports := h.ports.erase port }
          { h' with ports := h'.ports.erase port } :=
        { s with
          ports := by rw [s.ports]
          answers := s.answers.erase_port port }
      exact ⟨hclosed.emit (.portClosed port), .same _⟩
  | onEtherType etherType handler =>
      rw [Action.Throughout] at haction
      exact ⟨{ s with
        frameHandlers := by
          show Table.insert _ _ _ = Table.insert _ _ _
          rw [s.frameHandlers]
        answers := s.answers.insert_frameHandler etherType haction.2 }, .same _⟩
  | onProtocol protocol handler =>
      rw [Action.Throughout] at haction
      exact ⟨{ s with
        protocolHandlers := by
          show Table.insert _ _ _ = Table.insert _ _ _
          rw [s.protocolHandlers]
        answers := s.answers.insert_protocolHandler protocol haction.2 }, .same _⟩
  | advance nanoseconds =>
      exact ⟨{ s with
        clock := by
          show h'.clock + nanoseconds = h.clock + nanoseconds
          rw [s.clock]
        answers := s.answers.congr rfl rfl rfl }, .same _⟩
  | setLink send receive => exact ⟨s.setLink (by rw [s.link]), .same _⟩
  | listEntries =>
      refine ⟨s, ?_⟩
      show l.SameReply (.entries h.entries) (.entries h'.entries)
      rw [Host.entries, Host.entries, s.cache, s.clock]
      exact .same _
  | listPending =>
      refine ⟨s, ?_⟩
      show l.SameReply (.addresses h.pending) (.addresses h'.pending)
      rw [Host.pending, Host.pending, ← ExpiringTable.live_map Packet.window h.held,
        ← ExpiringTable.live_map Packet.window h'.held, s.held, s.clock]
      exact .same _
  | showConfig => exact ⟨s, .config s.config⟩
  | countSent =>
      refine ⟨s, ?_⟩
      show l.SameReply (.count h.link.sent.size) (.count h'.link.sent.size)
      rw [s.link]
      exact .same _
  | refuse cause => exact ⟨s, .same _⟩
  | batch script =>
      rw [Action.Throughout] at haction
      exact ⟨(hrun before before' .batch script h h' haction.2 s).1, .same _⟩

/-- A script keeps hosts in step if its actions do, by induction on it: replies that do not
tell the hosts apart lead on to the same script. -/
theorem script_run {exec : Action → Host → Host × Option Reply}
    (hexec : ∀ (h h' : Host) (action : Action), l.InStep before before' h h' →
      action.Throughout (fun _ => True) l.Fair →
        l.InStep before before' (exec action h).1 (exec action h').1 ∧
          Option.Rel l.SameReply (exec action h).2 (exec action h').2)
    (caller : Caller) :
    ∀ (script : Script) (h h' : Host), l.Oblivious script → l.InStep before before' h h' →
      l.InStep before before' (script.run exec caller h).1 (script.run exec caller h').1 ∧
        (script.run exec caller h').2 = (script.run exec caller h).2
  | .done memory, h, h', _, s => ⟨s, rfl⟩
  | .fail cause, h, h', _, s => ⟨s.emit (.gaveUp caller cause), rfl⟩
  | .step action next, h, h', hscript, s => by
      rw [Oblivious, Script.Throughout] at hscript
      obtain ⟨haction, hfair, hnext⟩ := hscript
      have hdone := hexec h h' action s haction
      rw [Script.run, Script.run]
      cases hreply : exec action h with
      | mk h₁ reply? =>
          cases hreply' : exec action h' with
          | mk h₁' reply?' =>
              rw [hreply, hreply'] at hdone
              obtain ⟨hstep, hreplies⟩ := hdone
              cases hreplies with
              | none => exact ⟨hstep, rfl⟩
              | @some reply reply' hsame =>
                  have hreplied : l.InStep before before' (h₁.emit (.replied caller reply))
                      (h₁'.emit (.replied caller reply')) := hstep.record (.inr ⟨rfl, rfl⟩)
                  simp only [hfair reply reply' hsame]
                  exact script_run hexec caller (next reply) _ _ (hnext reply) hreplied

end InStep

/-- **Scripts nested to any depth** keep hosts in step, by induction on the depth. -/
theorem runner_inStep (depth : Nat) : l.RunsInStep (Host.runner depth) := by
  induction depth with
  | zero =>
      intro before before' caller script h h' hscript s
      refine InStep.script_run (fun h h' action s haction => ?_) caller script h h' hscript s
      exact ⟨s.emit .tooDeep, .none⟩
  | succ depth ih =>
      intro before before' caller script h h' hscript s
      refine InStep.script_run (fun h h' action s haction => ?_) caller script h h' hscript s
      obtain ⟨hstep, hreply⟩ := s.perform ih action haction
      exact ⟨hstep, .some hreply⟩

/-- **A run** keeps hosts in step, by induction on its actions. -/
theorem InStep.execAll (s : l.InStep before before' h h') (depth : Nat) (actions : List Action)
    (hactions : ∀ action ∈ actions, action.Throughout (fun _ => True) l.Fair) :
    l.InStep before before' (h.execAll depth actions) (h'.execAll depth actions) := by
  induction actions generalizing h h' with
  | nil => exact s
  | cons action rest ih =>
      have hfirst := (s.perform (runner_inStep depth) action
        (hactions action List.mem_cons_self)).1
      exact ih hfirst fun a ha => hactions a (List.mem_cons_of_mem _ ha)

/-! ### The two likenesses -/

/-- Hosts whose configurations may differ in the room before fresh packets. -/
def headRooms : Likeness where
  config := Config.SameButHeadRoom
  buffer := Eq
  config_same _ _ hconfig := hconfig
  buffer_splice _ _ hbuffer _ := by rw [hbuffer]

/-- Hosts whose receive buffers may differ. -/
def buffers : Likeness where
  config := Eq
  buffer _ _ := True
  config_same c _ hconfig := hconfig ▸ .refl c
  buffer_splice _ _ _ _ := trivial

/-- Where configurations are the same, so are replies. -/
theorem fair_buffers (next : Reply → Script) : buffers.Fair next := by
  intro reply reply' hsame
  cases hsame with
  | same reply => rfl
  | config hconfig =>
      cases hconfig
      rfl

/-- **Where configurations are the same**, no action can tell hosts apart. -/
theorem action_buffers (action : Action) : action.Throughout (fun _ => True) buffers.Fair :=
  Action.throughout_of_forall (fun _ => trivial) fair_buffers action

theorem answersBy_buffers (h : Host) : h.AnswersBy (fun _ => True) buffers.Fair :=
  .of_forall (fun _ => trivial) fair_buffers h

end HostNet.Likeness
