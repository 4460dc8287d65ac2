import HostNet.Proofs.Receiving

/-!
# What every script keeps

A port handler answers by a script, the script brings about more calls, and so on to any
depth of nesting.  A property of hosts that holds along all of this is shown of single
actions here, and of scripts and runs once and for all.

* `Action.Throughout`, `Script.Throughout` — whether conditions hold of an action or script
  and of everything it may bring about.
* `Host.AnswersBy` — all handlers that a host may call answer by such scripts.
* `Host.Keeps` — a runner under which such scripts keep a property.
* `Host.Kept` — a property that one action keeps, whatever runs its scripts as long as that
  keeps it; `Kept.runner` and `Kept.execAll` are what follows for scripts nested to any
  depth, and for whole runs.

### Two conditions

`allowed` is a condition on the actions themselves, whatever is done with the reply.
`fair` is one on how a script goes on after a reply, and says nothing of actions.  They
are kept apart since a statement about one run restricts what is done, and a statement
that compares two runs restricts what may be made of the replies.
-/

namespace HostNet

variable (allowed : Action → Prop) (fair : (Reply → Script) → Prop)

mutual

/-- Whether `allowed` holds of an action and of all actions of the scripts that it may bring
about, and `fair` of each way on from a reply. -/
def Action.Throughout : Action → Prop
  | .openPort port name body =>
      allowed (.openPort port name body) ∧
        ∀ memory datagram, (body memory datagram).Throughout
  | .onEtherType etherType handler =>
      allowed (.onEtherType etherType handler) ∧ handler.Throughout
  | .onProtocol protocol handler =>
      allowed (.onProtocol protocol handler) ∧ handler.Throughout
  | .batch script => allowed (.batch script) ∧ script.Throughout
  | action => allowed action

/-- Whether `allowed` holds of all actions of a script, whatever is replied, and `fair` of
each way on from a reply. -/
def Script.Throughout : Script → Prop
  | .step action next => action.Throughout ∧ fair next ∧ ∀ reply, (next reply).Throughout
  | _ => True

/-- Whether this is so of the scripts of the handler of an ether type. -/
def FrameHandler.Throughout : FrameHandler → Prop
  | .custom _ body => ∀ packet source, (body packet source).Throughout
  | _ => True

/-- Whether this is so of the scripts of the handler of a protocol. -/
def ProtocolHandler.Throughout : ProtocolHandler → Prop
  | .custom _ body => ∀ packet source, (body packet source).Throughout
  | _ => True

end

variable {allowed fair} in
theorem Action.allowed_of_throughout {action : Action}
    (haction : action.Throughout allowed fair) : allowed action := by
  cases action with
  | openPort port name body =>
      rw [Action.Throughout] at haction
      exact haction.1
  | onEtherType etherType handler =>
      rw [Action.Throughout] at haction
      exact haction.1
  | onProtocol protocol handler =>
      rw [Action.Throughout] at haction
      exact haction.1
  | batch script =>
      rw [Action.Throughout] at haction
      exact haction.1
  | _ => simpa only [Action.Throughout] using haction

section

variable {allowed fair}

mutual

/-- Conditions that always hold do so throughout an action. -/
theorem Action.throughout_of_forall (hallowed : ∀ action, allowed action)
    (hfair : ∀ next, fair next) : ∀ action : Action, action.Throughout allowed fair
  | .openPort port name body => by
      rw [Action.Throughout]
      exact ⟨hallowed _, fun memory datagram =>
        Script.throughout_of_forall hallowed hfair (body memory datagram)⟩
  | .onEtherType etherType handler => by
      rw [Action.Throughout]
      exact ⟨hallowed _, FrameHandler.throughout_of_forall hallowed hfair handler⟩
  | .onProtocol protocol handler => by
      rw [Action.Throughout]
      exact ⟨hallowed _, ProtocolHandler.throughout_of_forall hallowed hfair handler⟩
  | .batch script => by
      rw [Action.Throughout]
      exact ⟨hallowed _, Script.throughout_of_forall hallowed hfair script⟩
  | .inject _ | .poll | .deliver _ | .receiveFrame _ | .sendFrame _ _ _ | .receiveArp _
  | .sendPacket _ _ | .sendArpRequest _ | .sendArpReply _ _ | .receiveIpv4 _
  | .sendDatagram _ _ _ | .sendFragment _ _ _ _ _ _ | .receiveIcmp _ _ | .sendUnreachable _ _ _
  | .receiveUdp _ _ | .sendSegment _ _ _ _ | .sendUdp _ _ _ _ | .closePort _ | .advance _
  | .setLink _ _ | .listEntries | .listPending | .showConfig | .countSent | .refuse _ => by
      simp only [Action.Throughout, hallowed]

theorem Script.throughout_of_forall (hallowed : ∀ action, allowed action)
    (hfair : ∀ next, fair next) : ∀ script : Script, script.Throughout allowed fair
  | .step action next => by
      rw [Script.Throughout]
      exact ⟨Action.throughout_of_forall hallowed hfair action, hfair next,
        fun reply => Script.throughout_of_forall hallowed hfair (next reply)⟩
  | .done _ | .fail _ => by simp only [Script.Throughout]

theorem FrameHandler.throughout_of_forall (hallowed : ∀ action, allowed action)
    (hfair : ∀ next, fair next) : ∀ handler : FrameHandler, handler.Throughout allowed fair
  | .custom _ body => by
      rw [FrameHandler.Throughout]
      exact fun packet source => Script.throughout_of_forall hallowed hfair (body packet source)
  | .arp | .ipv4 => by simp only [FrameHandler.Throughout]

theorem ProtocolHandler.throughout_of_forall (hallowed : ∀ action, allowed action)
    (hfair : ∀ next, fair next) : ∀ handler : ProtocolHandler, handler.Throughout allowed fair
  | .custom _ body => by
      rw [ProtocolHandler.Throughout]
      exact fun packet source => Script.throughout_of_forall hallowed hfair (body packet source)
  | .icmp | .udp => by simp only [ProtocolHandler.Throughout]

end

end

/-- Whether an event is recorded for a script, apart from what its actions record. -/
def Event.IsOfScripts : Event → Prop
  | replied _ _ => True
  | gaveUp _ _ => True
  | tooDeep => True
  | _ => False

namespace Host

/-- All handlers that the host may call answer by scripts that keep to the conditions. -/
structure AnswersBy (h : Host) : Prop where
  ports : ∀ port bound, h.ports.get? port = some bound →
    ∀ memory datagram, (bound.body memory datagram).Throughout allowed fair
  frameHandlers : ∀ etherType handler, h.frameHandlers.get? etherType = some handler →
    handler.Throughout allowed fair
  protocolHandlers : ∀ protocol handler, h.protocolHandlers.get? protocol = some handler →
    handler.Throughout allowed fair

namespace AnswersBy

variable {allowed fair} {h h' : Host}

/-- Conditions that always hold do so of the scripts of every handler. -/
theorem of_forall (hallowed : ∀ action, allowed action) (hfair : ∀ next, fair next) (h : Host) :
    h.AnswersBy allowed fair where
  ports _ _ _ _ _ := Script.throughout_of_forall hallowed hfair _
  frameHandlers _ handler _ := FrameHandler.throughout_of_forall hallowed hfair handler
  protocolHandlers _ handler _ := ProtocolHandler.throughout_of_forall hallowed hfair handler

/-- Only the three tables matter. -/
theorem congr (answers : h.AnswersBy allowed fair) (hports : h'.ports = h.ports)
    (hframe : h'.frameHandlers = h.frameHandlers)
    (hprotocol : h'.protocolHandlers = h.protocolHandlers) : h'.AnswersBy allowed fair where
  ports := by
    rw [hports]
    exact answers.ports
  frameHandlers := by
    rw [hframe]
    exact answers.frameHandlers
  protocolHandlers := by
    rw [hprotocol]
    exact answers.protocolHandlers

/-- The handlers that a host is set up with have no scripts. -/
theorem of_hasOwnHandlers (own : h.HasOwnHandlers)
    (hports : ∀ port bound, h.ports.get? port = some bound →
      ∀ memory datagram, (bound.body memory datagram).Throughout allowed fair) :
    h.AnswersBy allowed fair where
  ports := hports
  frameHandlers etherType handler hhandler := by
    rcases own.eq_of_frameHandler hhandler with ⟨-, rfl⟩ | ⟨-, rfl⟩
    · simp only [FrameHandler.Throughout]
    · simp only [FrameHandler.Throughout]
  protocolHandlers protocol handler hhandler := by
    rcases own.eq_of_protocolHandler hhandler with ⟨-, rfl⟩ | ⟨-, rfl⟩
    · simp only [ProtocolHandler.Throughout]
    · simp only [ProtocolHandler.Throughout]

/-- A table with one more handler: that one keeps to the conditions by assumption. -/
theorem insert_port (answers : h.AnswersBy allowed fair) (port : UInt16) (bound : Binding)
    (hbound : ∀ memory datagram, (bound.body memory datagram).Throughout allowed fair) :
    { h with ports := h.ports.insert port bound }.AnswersBy allowed fair where
  ports p b hb := by
    replace hb := (Table.get?_insert _ _ _ _).symm.trans hb
    split at hb
    · cases hb
      exact hbound
    · exact answers.ports p b hb
  frameHandlers := answers.frameHandlers
  protocolHandlers := answers.protocolHandlers

theorem erase_port (answers : h.AnswersBy allowed fair) (port : UInt16) :
    { h with ports := h.ports.erase port }.AnswersBy allowed fair where
  ports p b hb := by
    replace hb := (Table.get?_erase _ _ _).symm.trans hb
    split at hb
    · cases hb
    · exact answers.ports p b hb
  frameHandlers := answers.frameHandlers
  protocolHandlers := answers.protocolHandlers

theorem insert_frameHandler (answers : h.AnswersBy allowed fair) (etherType : UInt16)
    {handler : FrameHandler} (hhandler : handler.Throughout allowed fair) :
    { h with frameHandlers := h.frameHandlers.insert etherType handler }.AnswersBy allowed
      fair where
  ports := answers.ports
  frameHandlers t f hf := by
    replace hf := (Table.get?_insert _ _ _ _).symm.trans hf
    split at hf
    · cases hf
      exact hhandler
    · exact answers.frameHandlers t f hf
  protocolHandlers := answers.protocolHandlers

theorem insert_protocolHandler (answers : h.AnswersBy allowed fair) (protocol : UInt8)
    {handler : ProtocolHandler} (hhandler : handler.Throughout allowed fair) :
    { h with protocolHandlers := h.protocolHandlers.insert protocol handler }.AnswersBy allowed
      fair where
  ports := answers.ports
  frameHandlers := answers.frameHandlers
  protocolHandlers t f hf := by
    replace hf := (Table.get?_insert _ _ _ _).symm.trans hf
    split at hf
    · cases hf
      exact hhandler
    · exact answers.protocolHandlers t f hf

/-- What a handler leaves for the next call does not change its scripts. -/
theorem leavePort (answers : h.AnswersBy allowed fair) (port : UInt16) (binding : Nat)
    (outcome : Outcome) : (h.leavePort port binding outcome).AnswersBy allowed fair := by
  obtain ⟨ports, heq, hports⟩ := leavePort_eq h port binding outcome
  rw [heq]
  refine ⟨fun p b hb => ?_, answers.frameHandlers, answers.protocolHandlers⟩
  rcases hports p with hsame | ⟨bound, memory, hbound, hnew⟩
  · exact answers.ports p b (hsame.symm.trans hb)
  · cases hnew.symm.trans hb
    exact answers.ports p bound hbound

end AnswersBy

/-! ### Properties of one run -/

/-- A runner under which scripts that keep to the conditions keep a property. -/
def Keeps (holds : Host → Prop) (run : Runner) : Prop :=
  ∀ caller (script : Script) (h : Host), script.Throughout allowed fair → holds h →
    holds (run caller script h).1

/-- A property that is kept by what scripts record and by every action, whatever runs the
scripts that it brings about, if only that keeps the property. -/
structure Kept (holds : Host → Prop) : Prop where
  emit : ∀ (h : Host) (e : Event), e.IsOfScripts → holds h → holds (h.emit e)
  perform : ∀ (run : Runner), Keeps allowed fair holds run → ∀ (h : Host) (action : Action),
    action.Throughout allowed fair → holds h → holds (h.perform run action).1

namespace Kept

variable {allowed fair} {holds : Host → Prop}

/-- By induction on the script: each reply leads on to a script that keeps to the conditions
again. -/
theorem script_run (kept : Kept allowed fair holds)
    {exec : Action → Host → Host × Option Reply}
    (hexec : ∀ action h, action.Throughout allowed fair → holds h → holds (exec action h).1)
    (caller : Caller) :
    ∀ (script : Script) (h : Host), script.Throughout allowed fair → holds h →
      holds (script.run exec caller h).1
  | .done _, h, _, hh => hh
  | .fail cause, h, _, hh => kept.emit h (.gaveUp caller cause) trivial hh
  | .step action next, h, hscript, hh => by
      rw [Script.Throughout] at hscript
      have hdone := hexec action h hscript.1 hh
      rw [Script.run]
      cases hreply : exec action h with
      | mk h₁ reply? =>
          rw [hreply] at hdone
          cases reply? with
          | none => exact hdone
          | some reply =>
              exact kept.script_run hexec caller (next reply) _ (hscript.2.2 reply)
                (kept.emit h₁ (.replied caller reply) trivial hdone)

/-- **Scripts nested to any depth** keep the property, by induction on the depth. -/
theorem runner (kept : Kept allowed fair holds) (depth : Nat) :
    Keeps allowed fair holds (runner depth) := by
  induction depth with
  | zero =>
      intro caller script h hscript hh
      refine kept.script_run (fun action h _ hh => ?_) caller script h hscript hh
      exact kept.emit h .tooDeep trivial hh
  | succ depth ih =>
      intro caller script h hscript hh
      refine kept.script_run (fun action h haction hh => ?_) caller script h hscript hh
      exact kept.perform _ ih h action haction hh

/-- **A run** keeps the property, by induction on its actions. -/
theorem execAll (kept : Kept allowed fair holds) (depth : Nat) (h : Host) (actions : List Action)
    (hactions : ∀ action ∈ actions, action.Throughout allowed fair) (hh : holds h) :
    holds (execAll depth h actions) := by
  induction actions generalizing h with
  | nil => exact hh
  | cons action rest ih =>
      have hfirst := kept.perform _ (kept.runner depth) h action
        (hactions action List.mem_cons_self) hh
      exact ih _ (fun a ha => hactions a (List.mem_cons_of_mem _ ha)) hfirst

end Kept

end Host

end HostNet
