import PandaGen.Process.Manager

/-!
# Supervision of a batch of exits
-/

namespace PandaGen.Process.ProcessManager

open Lib Kernel Proc

/-- The spawns that were asked for, each with the service it is for and the answer of the kernel. -/
abbrev Spawns := List (ServiceId × Except (Fault KernelError) TaskId)

variable {K : Type} {api : KernelApi K} {s s' : ProcessManager × K} {n n' : ExitNotification} {id : ServiceId}
  {ns : List ExitNotification} {r : Except (Fault ProcessManagerError) Unit} {log before : Spawns}

/-! ## One notification -/

def about (self : ProcessManager) (n : ExitNotification) : Option ServiceId :=
  n.taskId.bind fun taskId => self.taskToService[taskId]?

def exited (self : ProcessManager) (n : ExitNotification) : Option (ServiceId × ManagedService) := do
  let id ← self.about n
  let service ← self.services[id]?
  some (id, { service with handle.state := stateAfter n.reason })

theorem exited_eq_some {self : ProcessManager} {service} (h : exited self n = some (id, service)) :
    self.about n = some id ∧ id ∈ self.services ∧ service.handle.state = stateAfter n.reason := by
  obtain ⟨_, hid, h⟩ := Option.bind_eq_some_iff.mp h
  obtain ⟨service', hservice, ⟨⟩⟩ := Option.bind_eq_some_iff.mp h
  exact ⟨hid, Std.ExtTreeMap.mem_iff_isSome_getElem?.mpr (hservice ▸ rfl), rfl⟩

theorem exited_ne_none {self : ProcessManager} (hid : self.about n = some id) (hmem : id ∈ self.services) :
    exited self n ≠ none := by
  obtain ⟨service, hservice⟩ := Option.isSome_iff_exists.mp (Std.ExtTreeMap.mem_iff_isSome_getElem?.mp hmem)
  simp [exited, hid, hservice]

def restarting (service : ManagedService) : ManagedService :=
  { service with
    restartAttempts := min (service.restartAttempts + 1) (2 ^ 32 - 1)
    handle.state := .restarting }

inductive Handled (api : KernelApi K) (s : ProcessManager × K) (n : ExitNotification) :
    Spawns → Except (Fault ProcessManagerError) Unit → ProcessManager × K → Prop
  | skipped (unknown : exited s.1 n = none) : Handled api s n [] (.ok ()) s
  | ended {id service} (known : exited s.1 n = some (id, service)) (stays : shouldRestart service n.reason = false) :
      Handled api s n [] (.ok ()) ({ s.1 with services := s.1.services.insert id service }, s.2)
  | restarted {id service t k} (known : exited s.1 n = some (id, service))
      (restarts : shouldRestart service n.reason = true)
      (spawned : (api.spawnTask service.descriptor.task).exec s.2 = (.ok t, k)) :
      Handled api s n [(id, .ok t)] (.ok ()) (
        { services := s.1.services.insert id { restarting service with handle := ⟨t, .running⟩ }
          taskToService := s.1.taskToService.insert t id }, k)
  | refused {id service f k} (known : exited s.1 n = some (id, service))
      (restarts : shouldRestart service n.reason = true)
      (refused : (api.spawnTask service.descriptor.task).exec s.2 = (.error f, k)) (f') :
      Handled api s n [(id, .error f)] (.error f')
        ({ s.1 with services := s.1.services.insert id (restarting service) }, k)

theorem insert_insert {services : BTreeMap ServiceId ManagedService} {service service'} :
    (services.insert id service).insert id service' = services.insert id service' := by
  ext1 i
  simp only [BTreeMap.getElem?_insert]
  split <;> rfl

theorem handleExit_handled : (handleExit api n).Post s fun r s' => ∃ log, Handled api s n log r s' := by
  rw [handleExit]
  cases htask : n.taskId with
  | none => exact ⟨_, .skipped (by simp [exited, about, htask])⟩
  | some t =>
    simp only [post_get_bind]
    cases hid : s.1.taskToService[t]? with
    | none => exact ⟨_, .skipped (by simp [exited, about, htask, hid])⟩
    | some id =>
      simp only [post_get_bind]
      cases hservice : s.1.services[id]? with
      | none => exact ⟨_, .skipped (by simp [exited, about, htask, hid, hservice])⟩
      | some service =>
        have hknown : exited s.1 n = some (id, { service with handle.state := stateAfter n.reason }) := by
          simp [exited, about, htask, hid, hservice]
        simp only [putService, putTask, post_bind, post_ite, post_modify]
        split
        · rename_i hrestarts
          simp only [restartService, putService, post_bind, post_modify, spawnTask, post_zoom, post_mapErr, post_pure]
          rw [Post]
          rcases hspawn : (api.spawnTask service.descriptor.task).exec s.2 with ⟨⟨_ | _⟩ | t1, k1⟩
          · have hrefused := Handled.refused hknown hrestarts hspawn
            exact ⟨_, by simpa only [insert_insert, restarting] using hrefused _⟩
          · have hrefused := Handled.refused hknown hrestarts hspawn
            exact ⟨_, by simpa only [insert_insert, restarting] using hrefused _⟩
          · have hrestarted := Handled.restarted hknown hrestarts hspawn
            exact ⟨_, by simpa only [insert_insert, restarting] using hrestarted⟩
        · rename_i hstays
          exact ⟨_, .ended hknown (by simpa using hstays)⟩

/-- A notification is about the same service as before, if its task is not one just spawned. -/
theorem Handled.about (h : Handled api s n log r s') (hfresh : ∀ id t, (id, .ok t) ∈ log → n'.taskId ≠ some t) :
    about s'.1 n' = about s.1 n' := by
  cases h with
  | skipped | ended | refused => rfl
  | @restarted id _ t =>
    unfold ProcessManager.about
    cases htask : n'.taskId with
    | none => rfl
    | some t' =>
      have hne : t ≠ t' := fun heq => hfresh id t (by simp) (heq ▸ htask)
      simp [BTreeMap.getElem?_insert, hne]

theorem Handled.mem_services (h : Handled api s n log r s') : id ∈ s'.1.services ↔ id ∈ s.1.services := by
  have hinsert {id'} (hmem : id' ∈ s.1.services) (service) :
      id ∈ s.1.services.insert id' service ↔ id ∈ s.1.services := by
    rw [Std.ExtTreeMap.mem_insert, Std.LawfulEqOrd.compare_eq_iff_eq]
    exact or_iff_right_of_imp fun heq => heq ▸ hmem
  cases h with
  | skipped => exact Iff.rfl
  | ended known | restarted known | refused known => exact hinsert (exited_eq_some known).2.1 _

/-- The service is stopped or failed, or it runs in a task that the kernel has spawned for it. -/
def SettledIn (log : Spawns) (self : ProcessManager) (id : ServiceId) : Prop :=
  ∃ service, self.services[id]? = some service ∧
    (service.handle.state = .stopped ∨ service.handle.state = .failed ∨
      service.handle.state = .running ∧ (id, .ok service.handle.taskId) ∈ log)

theorem Handled.settled (h : Handled api s n log (.ok ()) s')
    (hid : SettledIn before s.1 id ∨ id ∈ s.1.services ∧ s.1.about n = some id) :
    SettledIn (before ++ log) s'.1 id := by
  have hstays {log} (hsettled : SettledIn before s.1 id) : SettledIn (before ++ log) s.1 id := by
    obtain ⟨service, hservice, hstate⟩ := hsettled
    exact ⟨service, hservice, hstate.imp_right (.imp_right (.imp_right fun hmem => List.mem_append_left _ hmem))⟩
  have hinsert {id' service log taskToService} (hknown : exited s.1 n = some (id', service)) (service')
      (hstate : service'.handle.state = .stopped ∨ service'.handle.state = .failed ∨
        service'.handle.state = .running ∧ (id', .ok service'.handle.taskId) ∈ before ++ log) :
      SettledIn (before ++ log) ⟨s.1.services.insert id' service', taskToService⟩ id := by
    rw [SettledIn]
    simp only [BTreeMap.getElem?_insert]
    split
    · rename_i heq
      exact ⟨service', rfl, heq ▸ hstate⟩
    · rename_i hne
      refine hstays (hid.resolve_right fun ⟨_, habout⟩ => hne ?_)
      exact Option.some.inj ((exited_eq_some hknown).1.symm.trans habout)
  cases h with
  | skipped unknown => exact hstays (hid.resolve_right fun ⟨hmem, habout⟩ => exited_ne_none habout hmem unknown)
  | ended known =>
    refine hinsert known _ ?_
    rw [(exited_eq_some known).2.2]
    cases n.reason <;> simp [stateAfter]
  | restarted known => exact hinsert known _ (.inr (.inr ⟨rfl, by simp⟩))

theorem Handled.granted (h : Handled api s n log (.ok ()) s') (spawn) (hmem : spawn ∈ log) : spawn.2.toBool = true := by
  cases h with
  | skipped | ended => cases hmem
  | restarted =>
    cases List.mem_singleton.mp hmem
    rfl

theorem Handled.unsettled {f} (h : Handled api s n log (.error f) s') : ∃ id f' service, log = [(id, .error f')] ∧
    id ∈ s.1.services ∧ s.1.about n = some id ∧ s'.1.services[id]? = some service ∧
      service.handle.state = .restarting := by
  cases h with
  | @refused id service f' k known =>
    obtain ⟨hid, hmem, -⟩ := exited_eq_some known
    exact ⟨id, f', _, rfl, hmem, hid, by rw [BTreeMap.getElem?_insert, if_pos rfl], rfl⟩

/-! ## A batch -/

/-- The spawns that a batch asks for, up to the first that is refused. -/
def spawnsOf (api : KernelApi K) (s : ProcessManager × K) : List ExitNotification → Spawns
  | [] => []
  | n :: ns =>
    let rest := spawnsOf api ((handleExit api n).exec s).2 ns
    match exited s.1 n with
    | none => rest
    | some (id, service) =>
      if shouldRestart service n.reason then
        let answer := ((api.spawnTask service.descriptor.task).exec s.2).1
        (id, answer) :: if answer.toBool then rest else []
      else rest

theorem Handled.spawnsOf (h : Handled api s n log r s') (hexec : (handleExit api n).exec s = (r, s')) (ns) :
    spawnsOf api s (n :: ns) = log ++ if r.toBool then spawnsOf api s' ns else [] := by
  rw [ProcessManager.spawnsOf, hexec]
  cases h with
  | skipped unknown => simp [unknown, Except.toBool]
  | ended known stays => simp [known, stays, Except.toBool]
  | restarted known restarts spawned => simp [known, restarts, spawned, Except.toBool]
  | refused known restarts refused => simp [known, restarts, refused, Except.toBool]

/-- A task that the manager has for the service has exited. -/
def Notified (self : ProcessManager) (ns : List ExitNotification) (id : ServiceId) : Prop :=
  id ∈ self.services ∧ ∃ n ∈ ns, self.about n = some id

theorem Handled.notified (h : Handled api s n log r s')
    (hfresh : ∀ id t, (id, .ok t) ∈ log → ∀ n' ∈ ns, n'.taskId ≠ some t) :
    Notified s'.1 ns id ↔ Notified s.1 ns id := by
  unfold Notified
  refine and_congr h.mem_services (exists_congr fun n' => and_congr_right fun hmem => ?_)
  rw [h.about fun id t hlog => hfresh id t hlog n' hmem]

/-- The state after each notification has been handled alone, whatever the calls returned. -/
def handledAlone (api : KernelApi K) (s : ProcessManager × K) (ns : List ExitNotification) : ProcessManager × K :=
  ns.foldl (fun s n => ((handleExits api [n]).exec s).2) s

theorem handledAlone_cons (hexec : (handleExit api n).exec s = (r, s')) :
    handledAlone api s (n :: ns) = handledAlone api s' ns := by
  have hone : ((handleExits api [n]).exec s).2 = s' := by
    change ((handleExit api n >>= fun _ => pure ()).exec s).2 = s'
    rw [exec_bind, hexec]
    cases r <;> rfl
  rw [handledAlone, List.foldl_cons, hone]
  rfl

theorem handleExits_cons : (handleExits api (n :: ns)).exec s = match (handleExit api n).exec s with
    | (.ok (), s') => (handleExits api ns).exec s'
    | (.error f, s') => (.error f, s') := by
  change (handleExit api n >>= fun _ => handleExits api ns).exec s = _
  rw [exec_bind]
  rcases (handleExit api n).exec s with ⟨_ | _, _⟩ <;> rfl

theorem settled_of_granted (before) (hgranted : ∀ spawn ∈ spawnsOf api s ns, spawn.2.toBool = true)
    (hfresh : ∀ id t, (id, .ok t) ∈ spawnsOf api s ns → ∀ n ∈ ns, n.taskId ≠ some t) :
    (handleExits api ns).exec s = (.ok (), handledAlone api s ns) ∧ ∀ id,
      SettledIn before s.1 id ∨ Notified s.1 ns id →
        SettledIn (before ++ spawnsOf api s ns) (handledAlone api s ns).1 id := by
  induction ns generalizing s before with
  | nil =>
    refine ⟨rfl, fun id h => ?_⟩
    rw [spawnsOf, List.append_nil]
    exact h.resolve_right (by simp [Notified])
  | cons n ns ih =>
    rcases hexec : (handleExit api n).exec s with ⟨r, s₁⟩
    obtain ⟨log, h⟩ := handleExit_handled.of_exec hexec
    rw [h.spawnsOf hexec] at hgranted hfresh ⊢
    cases r with
    | error f =>
      obtain ⟨id, f', _, rfl, -⟩ := h.unsettled
      cases hgranted (id, .error f') (by simp)
    | ok =>
      simp only [Except.toBool, if_true, List.mem_append] at hgranted hfresh ⊢
      obtain ⟨hok, hsettled⟩ := ih (before ++ log) (fun spawn hmem => hgranted spawn (.inr hmem))
        fun id t hmem n' hn' => hfresh id t (.inr hmem) n' (List.mem_cons_of_mem _ hn')
      rw [handledAlone_cons hexec, handleExits_cons, hexec, ← List.append_assoc]
      refine ⟨hok, fun id hid => hsettled id ?_⟩
      rcases hid with hid | ⟨hmem, n', hn', habout⟩
      · exact .inl (h.settled (.inl hid))
      · rcases List.mem_cons.mp hn' with rfl | hn'
        · exact .inl (h.settled (.inr ⟨hmem, habout⟩))
        · exact .inr ((h.notified fun id t hlog n' hn' => hfresh id t (.inl hlog) n' (List.mem_cons_of_mem _ hn')).mpr
            ⟨hmem, n', hn', habout⟩)

theorem unsettled_of_refused (hrefused : ∃ spawn ∈ spawnsOf api s ns, spawn.2.toBool = false)
    (hfresh : ∀ id t, (id, .ok t) ∈ spawnsOf api s ns → ∀ n ∈ ns, n.taskId ≠ some t) :
    ∃ id service, Notified s.1 ns id ∧ ((handleExits api ns).exec s).2.1.services[id]? = some service ∧
      service.handle.state = .restarting := by
  induction ns generalizing s with
  | nil => obtain ⟨_, hmem, -⟩ := hrefused; cases hmem
  | cons n ns ih =>
    rcases hexec : (handleExit api n).exec s with ⟨r, s₁⟩
    obtain ⟨log, h⟩ := handleExit_handled.of_exec hexec
    rw [handleExits_cons, hexec]
    rw [h.spawnsOf hexec] at hrefused hfresh
    cases r with
    | error f =>
      obtain ⟨id, -, service, -, hmem, habout, hservice⟩ := h.unsettled
      exact ⟨id, service, ⟨hmem, n, by simp, habout⟩, hservice⟩
    | ok =>
      simp only [Except.toBool, if_true, List.mem_append] at hrefused hfresh
      obtain ⟨spawn, hmem, hspawn⟩ := hrefused
      obtain ⟨id, service, hnotified, hservice⟩ := ih
        ⟨spawn, hmem.resolve_left fun hlog => Bool.eq_false_iff.mp hspawn (h.granted spawn hlog), hspawn⟩
        fun id t hmem n' hn' => hfresh id t (.inr hmem) n' (List.mem_cons_of_mem _ hn')
      obtain ⟨hid, n', hn', habout⟩ := (h.notified fun id t hlog n' hn' => hfresh id t (.inl hlog) n'
        (List.mem_cons_of_mem _ hn')).mp hnotified
      exact ⟨id, service, ⟨hid, n', List.mem_cons_of_mem _ hn', habout⟩, hservice⟩

/-- A batch settles every service that it is about, as its notifications do when they are handled alone, exactly if the
kernel refuses no spawn that it asks for. No task is spawned whose exit is in the batch. -/
theorem handleExits_settles_iff (hfresh : ∀ id t, (id, .ok t) ∈ spawnsOf api s ns → ∀ n ∈ ns, n.taskId ≠ some t) :
    (∀ id, Notified s.1 ns id → SettledIn (spawnsOf api s ns) ((handleExits api ns).exec s).2.1 id ∧
      ((handleExits api ns).exec s).2.1.services[id]? = (handledAlone api s ns).1.services[id]?) ↔
    ∀ spawn ∈ spawnsOf api s ns, spawn.2.toBool = true := by
  constructor
  · intro hsettled spawn hmem
    by_contra hrefused
    obtain ⟨id, service, hnotified, hservice, hstate⟩ :=
      unsettled_of_refused ⟨spawn, hmem, Bool.eq_false_iff.mpr hrefused⟩ hfresh
    obtain ⟨⟨_, hservice', hstates⟩, -⟩ := hsettled id hnotified
    cases hservice.symm.trans hservice'
    simp [hstate] at hstates
  · intro hgranted id hnotified
    obtain ⟨hok, hsettled⟩ := settled_of_granted [] hgranted hfresh
    rw [hok]
    exact ⟨hsettled id (.inr hnotified), rfl⟩

def rationed : KernelApi (List TaskId) where
  spawnTask _ := do
    match ← get with
    | [] => throw (.err (.spawnFailed "no task left"))
    | t :: ts =>
      set ts
      return t
  createChannel := throw .panic
  sendMessage _ _ := throw .panic
  receiveMessage _ _ := throw .panic
  now := throw .panic
  sleep _ := throw .panic
  grantCapability _ _ := throw .panic
  registerService _ _ := throw .panic
  lookupService _ := throw .panic

def twoServices : Call (List TaskId) Unit := do
  let _ ← startService rationed ⟨⟨1⟩, "shell", .always, []⟩
  let _ ← startService rationed ⟨⟨2⟩, "log", .never, []⟩

def bothExit : List ExitNotification := [⟨⟨1⟩, some ⟨1⟩, .normal, 0⟩, ⟨⟨2⟩, some ⟨2⟩, .timeout, 0⟩]

/-- The kernel has a third task, in which the first service is restarted. The second one fails. -/
theorem handleExits_settles_bothExit : ∃ s, twoServices.exec ({}, [⟨1⟩, ⟨2⟩, ⟨3⟩]) = (.ok (), s) ∧
    ∀ id ∈ [⟨1⟩, ⟨2⟩], Notified s.1 bothExit id ∧
      SettledIn (spawnsOf rationed s bothExit) ((handleExits rationed bothExit).exec s).2.1 id := by
  refine ⟨_, rfl, fun id hid => ?_⟩
  have hspawns : spawnsOf rationed (twoServices.exec ({}, [⟨1⟩, ⟨2⟩, ⟨3⟩])).2 bothExit = [(⟨1⟩, .ok ⟨3⟩)] := by rfl
  have hnotified : Notified (twoServices.exec ({}, [⟨1⟩, ⟨2⟩, ⟨3⟩])).2.1 bothExit id := by
    rcases hid with _ | ⟨_, _ | ⟨_, ⟨⟩⟩⟩
    · exact ⟨by decide +kernel, _, .head _, rfl⟩
    · exact ⟨by decide +kernel, _, .tail _ (.head _), rfl⟩
  refine ⟨hnotified, ((handleExits_settles_iff ?_).mpr ?_ id hnotified).1⟩
  · rw [hspawns]
    rintro _ _ (_ | ⟨_, ⟨⟩⟩)
    decide
  · rw [hspawns]
    rintro _ (_ | ⟨_, ⟨⟩⟩)
    rfl

/-- No task is left for the first service, and the exit of the second is not seen. -/
theorem handleExits_hides_exit : ∃ s s', twoServices.exec ({}, [⟨1⟩, ⟨2⟩]) = (.ok (), s) ∧
    (handleExits rationed bothExit).exec s =
      (.error (.err (.kernel "Failed to spawn task: no task left")), s') ∧
    s'.1.services[(⟨1⟩ : ServiceId)]?.map (·.handle) = some ⟨⟨1⟩, .restarting⟩ ∧
    s'.1.services[(⟨2⟩ : ServiceId)]?.map (·.handle) = some ⟨⟨2⟩, .running⟩ ∧
    (handledAlone rationed s bothExit).1.services[(⟨2⟩ : ServiceId)]?.map (·.handle) = some ⟨⟨2⟩, .failed⟩ :=
  ⟨_, _, rfl, rfl, by decide +kernel, by decide +kernel, by decide +kernel⟩

end PandaGen.Process.ProcessManager
