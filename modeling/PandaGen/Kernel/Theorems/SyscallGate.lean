import PandaGen.Kernel.Lemmas.Gate

/-!
# The gate and its callers
-/

namespace PandaGen.Kernel.SyscallGate

open Lib SimulatedKernel Session List

variable {k k' : SimulatedKernel} {gate gate' : SyscallGate} {draws : Draws} {debug : KernelError → String}
  {caller : ExecutionId} {c : ChannelId} {m : MessageEnvelope} {timestampNanos : Nat}
  {r : Except KernelError SyscallResult}

def Queued (k : SimulatedKernel) (m : MessageEnvelope) (k' : SimulatedKernel) : Prop :=
  ∃ c, (k.mailFor c).count m < (k'.mailFor c).count m

theorem eq_of_queued {x} (henqueued : Enqueued k c m k') (h : Queued k x k') : x = m := by
  obtain ⟨c', hcount⟩ := h
  by_contra hne
  rcases henqueued c' with hperm | ⟨rfl, hperm⟩
  · rw [hperm.count_eq] at hcount
    exact Nat.lt_irrefl _ hcount
  · rw [hperm.count_eq, List.count_cons_of_ne (Ne.symm hne)] at hcount
    exact Nat.lt_irrefl _ hcount

/-- A send is made in the name of an execution: what it queues has a task of the execution as its source, it was
allowed to a task of the execution, and the message is charged to the execution and to nobody else. -/
structure BoundTo (e : ExecutionId) (k : SimulatedKernel) (c : ChannelId) (ok : Prop) (k' : SimulatedKernel) :
    Prop where
  source : ∀ x, Queued k x k' → k.sender x = some e
  allowed : ok → ∃ t, k.taskToIdentity[t]? = some e ∧ k.maySend c t = true
  charged : ChargedTo (some e) k ok k'

theorem boundTo_of_sender {e} {ok : Prop} (h : SentForSource k c m ok k') (hsender : k.sender m = some e) :
    BoundTo e k c ok k' := by
  refine ⟨?_, ?_, hsender ▸ h.charged⟩
  · intro x hqueued
    rw [eq_of_queued h.enqueued hqueued]
    exact hsender
  · intro hok
    obtain ⟨t, hsource, htask⟩ := Option.bind_eq_some_iff.mp hsender
    exact ⟨t, htask, h.allowed hok t hsource⟩

/-- A send through the gate checks and charges the source of its message. So it is bound to its caller if the source
is a task of the caller, and if it queues the message, only then. -/
theorem send_bound_iff_source
    (hcall : (execute (api draws) debug caller (.send c m) timestampNanos).call (gate, k) = some (r, gate', k')) :
    SentForSource k c m (r = .ok .ok) k' ∧ (∀ x, Queued k x k' → x = m) ∧
      (k.sender m = some caller → BoundTo caller k c (r = .ok .ok) k') ∧
      (Queued k m k' → (BoundTo caller k c (r = .ok .ok) k' ↔ k.sender m = some caller)) := by
  have hsent : SentForSource k c m (r = .ok .ok) k' := by
    rw [execute, audited_call, dispatch, Proc.call_map, Option.map_map] at hcall
    obtain ⟨⟨r₁, k₁⟩, hcall, ⟨⟩⟩ := Option.map_eq_some_iff.mp hcall
    rcases (sendMessage_forSource draws.orders k c m).of_call hcall with hpanic | hsent
    · cases r₁ <;> cases hpanic
    · cases r₁ with
      | error => exact ⟨hsent.enqueued, nofun, hsent.charged.mono nofun⟩
      | ok => exact ⟨hsent.enqueued, fun _ => hsent.allowed rfl, hsent.charged.mono fun _ => rfl⟩
  refine ⟨hsent, fun x => eq_of_queued hsent.enqueued, boundTo_of_sender hsent, fun hqueued => ?_⟩
  exact ⟨fun hbound => hbound.source m hqueued, boundTo_of_sender hsent⟩

def letter (source : Option TaskId) : MessageEnvelope := ⟨⟨9⟩, ⟨9⟩, source, "action", ⟨1, 0⟩, none, []⟩

def someDraws : Draws := ⟨⟨⟨8⟩, ⟨8⟩, ⟨8⟩⟩, ⟨8⟩, .listed⟩

def sendAsFirst (source : Option TaskId) (k : SimulatedKernel) :
    Option (Except KernelError SyscallResult × SyscallGate × SimulatedKernel) :=
  (execute (api someDraws) (fun _ => "") ⟨1⟩ (.send ⟨7⟩ (letter source)) 0).call (.new, k)

def restricted : List Call :=
  [.spawn 1, .spawn 2, .updateIdentity ⟨2⟩ fun i => i.withBudget ⟨none, none, some 5, none, none, none⟩,
    .createChannel ⟨7⟩, .grantChannelAccess ⟨7⟩ ⟨2⟩ .send]

def messagesOf (k : SimulatedKernel) (e : ExecutionId) : Option Nat :=
  k.identityTable[e]?.map fun i => i.usage.messageCount

theorem send_bound_iff_source_own : ∃ (tr : Trace) (w : Session) (gate : SyscallGate)
    (k' : SimulatedKernel), machine.FreeRun (start .default) tr w ∧
      sendAsFirst (some ⟨1⟩) w.kernel = some (.ok .ok, gate, k') ∧ Queued w.kernel (letter (some ⟨1⟩)) k' ∧
      BoundTo ⟨1⟩ w.kernel ⟨7⟩ ((.ok .ok : Except KernelError SyscallResult) = .ok .ok) k' := by
  obtain ⟨tr, w, hrun, hsender, ⟨gate, k'⟩, hsend, hcount⟩ : ∃ tr w,
      machine.FreeRun (start .default) tr w ∧ w.kernel.sender (letter (some ⟨1⟩)) = some ⟨1⟩ ∧
      ∃ r, sendAsFirst (some ⟨1⟩) w.kernel = some (.ok .ok, r) ∧
        (w.kernel.mailFor ⟨7⟩).count (letter (some ⟨1⟩)) < (r.2.mailFor ⟨7⟩).count (letter (some ⟨1⟩)) :=
    Machine.exists_run [.spawn 1, .createChannel ⟨7⟩] (by decide +kernel)
  exact ⟨tr, w, gate, k', hrun, hsend, ⟨_, hcount⟩, (send_bound_iff_source hsend).2.2.1 hsender⟩

set_option synthInstance.maxSize 1000 in
/-- The first task may not send to the channel. It can still send without a source, where nobody is checked, and in
the name of the second task, which is charged for it. -/
theorem send_in_another_name : ∃ (tr : Trace) (w : Session) (error : KernelError)
    (gate₁ gate₂ gate₃ : SyscallGate) (k₁ k₂ k₃ : SimulatedKernel),
    machine.FreeRun (start .default) tr w ∧ w.kernel.sender (letter (some ⟨1⟩)) = some ⟨1⟩ ∧
      sendAsFirst (some ⟨1⟩) w.kernel = some (.error error, gate₁, k₁) ∧
      sendAsFirst none w.kernel = some (.ok .ok, gate₂, k₂) ∧
      Queued w.kernel (letter none) k₂ ∧ w.kernel.sender (letter none) = none ∧
      sendAsFirst (some ⟨2⟩) w.kernel = some (.ok .ok, gate₃, k₃) ∧
      Queued w.kernel (letter (some ⟨2⟩)) k₃ ∧ w.kernel.sender (letter (some ⟨2⟩)) = some ⟨2⟩ ∧
      messagesOf w.kernel ⟨2⟩ = some 0 ∧ messagesOf k₃ ⟨2⟩ = some 1 := by
  obtain ⟨tr, w, hrun, hown, hnobody, hother, hbefore, ⟨r₁, gate₁, k₁⟩, hsend₁, hrefused,
    ⟨⟨gate₂, k₂⟩, hsend₂, hcount₂⟩,
      ⟨gate₃, k₃⟩, hsend₃, hcount₃, hafter⟩ : ∃ tr w, machine.FreeRun (start .default) tr w ∧
      w.kernel.sender (letter (some ⟨1⟩)) = some ⟨1⟩ ∧ w.kernel.sender (letter none) = none ∧
      w.kernel.sender (letter (some ⟨2⟩)) = some ⟨2⟩ ∧ messagesOf w.kernel ⟨2⟩ = some 0 ∧
      ∃ r, sendAsFirst (some ⟨1⟩) w.kernel = some r ∧ r.1.isOk = false ∧
      (∃ r, sendAsFirst none w.kernel = some (.ok .ok, r) ∧
        (w.kernel.mailFor ⟨7⟩).count (letter none) < (r.2.mailFor ⟨7⟩).count (letter none)) ∧
      ∃ r, sendAsFirst (some ⟨2⟩) w.kernel = some (.ok .ok, r) ∧
        (w.kernel.mailFor ⟨7⟩).count (letter (some ⟨2⟩)) < (r.2.mailFor ⟨7⟩).count (letter (some ⟨2⟩)) ∧
        messagesOf r.2 ⟨2⟩ = some 1 :=
    Machine.exists_run restricted (by decide +kernel)
  cases r₁ with
  | ok => cases hrefused
  | error error =>
    exact ⟨tr, w, error, gate₁, gate₂, gate₃, k₁, k₂, k₃, hrun, hown, hsend₁, hsend₂, ⟨_, hcount₂⟩, hnobody, hsend₃,
      ⟨_, hcount₃⟩, hother, hbefore, hafter⟩

/-! ## The audit log -/

/-- Calls of the gate, each with a kernel of its own: who calls, the name of the syscall, and whether it returns `Ok`.
Only memory operations are sent to `execute_with_memory`. -/
inductive Calls : SyscallGate → List (ExecutionId × String × Bool) → SyscallGate → Prop
  | nil {g} : Calls g [] g
  | execute {K : Type} {api : KernelApi K} {text e syscall time kernel s g g₁ kernel₁ calls g'}
      (call : (execute api text e syscall time).call (g, kernel) = some (s, g₁, kernel₁)) (rest : Calls g₁ calls g') :
      Calls g ((e, syscall.name, s.isOk) :: calls) g'
  | executeWithMemory {K : Type} {ops : MemoryOps K} {drawn e syscall time kernel s g g₁ kernel₁ calls g'}
      (routed : (dispatchMemory ops e syscall).isSome = true)
      (call : (executeWithMemory ops drawn e syscall time).call (g, kernel) = some (s, g₁, kernel₁))
      (rest : Calls g₁ calls g') : Calls g ((e, syscall.name, s.isOk) :: calls) g'

inductive Bracketed : List SyscallEvent → List (ExecutionId × String × Bool) → Prop
  | nil : Bracketed [] []
  | completed {e name time log calls} : Bracketed log calls →
      Bracketed (.invoked e name time :: .completed e name time :: log) ((e, name, true) :: calls)
  | rejected {e name reason time log calls} : Bracketed log calls →
      Bracketed (.invoked e name time :: .rejected e name reason time :: log) ((e, name, false) :: calls)

def Logs (gate : SyscallGate) (calls : List (ExecutionId × String × Bool)) (gate' : SyscallGate) : Prop :=
  ∃ log, gate'.auditLog = gate.auditLog ++ log ∧ Bracketed log calls

theorem Logs.audited {K ε : Type} {text : ε → String} {name gate1 calls kernel kernel1 s} {m : Proc K ε SyscallResult}
    (h : Logs gate1 calls gate')
    (hcall : (audited text caller name timestampNanos m).call (gate, kernel) = some (s, gate1, kernel1)) :
    Logs gate ((caller, name, s.isOk) :: calls) gate' := by
  rw [audited_call] at hcall
  obtain ⟨⟨s, kernel1⟩, -, ⟨⟩⟩ := Option.map_eq_some_iff.mp hcall
  obtain ⟨log, hlog, hbracketed⟩ := h
  cases s with
  | ok => exact ⟨_, hlog.trans (append_assoc ..) |>.trans (append_assoc ..), .completed hbracketed⟩
  | error => exact ⟨_, hlog.trans (append_assoc ..) |>.trans (append_assoc ..), .rejected hbracketed⟩

theorem Calls.logs {calls} (h : Calls gate calls gate') : Logs gate calls gate' := by
  induction h with
  | nil => exact ⟨[], by simp, .nil⟩
  | execute call _ ih => exact ih.audited call
  | executeWithMemory routed call _ ih =>
    obtain ⟨m, hroute⟩ := Option.isSome_iff_exists.mp routed
    rw [SyscallGate.executeWithMemory, hroute] at call
    exact ih.audited call

/-- The log of a gate is a sequence of pairs, one for each call, if `execute_with_memory` is called for memory
operations only. -/
theorem log_bracketed {calls : List (ExecutionId × String × Bool)} {gate : SyscallGate} (h : Calls .new calls gate) :
    Bracketed gate.auditLog calls := by
  obtain ⟨log, hlog, hbracketed⟩ := h.logs
  exact hlog ▸ hbracketed

/-- A yield, a new address space, a region that does not exist, and a memory operation sent to `execute`. -/
theorem log_bracketed_memory : ∃ calls gate, Calls .new calls gate ∧ gate.auditLog.length = 8 ∧
    calls.map (fun call => call.2.2) = [true, true, false, false] ∧ Bracketed gate.auditLog calls := by
  have hcalls : Calls .new [(⟨1⟩, "Yield", true), (⟨1⟩, "CreateAddressSpace", true), (⟨2⟩, "AccessRegion", false),
      (⟨2⟩, "CreateAddressSpace", false)] _ :=
    .execute (show (execute (api someDraws) (fun _ => "") ⟨1⟩ .yield 0).call (new, .new) = _ from rfl) <|
    .executeWithMemory rfl
      (show (executeWithMemory (memoryOps ⟨8⟩ ⟨8⟩) ⟨8⟩ ⟨1⟩ .createAddressSpace 1).call (_, .new) = _ from rfl) <|
    .executeWithMemory rfl
      (show (executeWithMemory (memoryOps ⟨8⟩ ⟨8⟩) ⟨8⟩ ⟨2⟩ (.accessRegion ⟨⟨3⟩, ⟨3⟩, 3⟩ .read) 2).call (_, .new) = _
        from rfl) <|
    .execute (show (execute (api someDraws) (fun _ => "") ⟨2⟩ .createAddressSpace 3).call (_, .new) = _ from rfl) .nil
  exact ⟨_, _, hcalls, rfl, rfl, log_bracketed hcalls⟩

/-- A yield that is sent to the entry point for memory operations leaves an event without its pair. -/
theorem yield_leaves_log_open : ∃ r gate k, (executeWithMemory (memoryOps ⟨8⟩ ⟨8⟩) ⟨8⟩ ⟨1⟩ .yield 0).call (new, .new) =
    some (r, gate, k) ∧ gate.auditLog = [.invoked ⟨1⟩ "Yield" 0] ∧ ¬ ∃ calls, Bracketed gate.auditLog calls :=
  ⟨_, _, _, rfl, rfl, nofun⟩

end PandaGen.Kernel.SyscallGate
