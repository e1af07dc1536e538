import PandaGen.Pipeline.Lemmas.Executor

/-!
# Retries
-/

namespace PandaGen.Pipeline

open Lib Kernel Storage List Nat Event Environment

variable {W : Type} {e e' : Execution W}

def Event.isSent : Event → Bool
  | .sent _ _ => true
  | _ => false

structure Adds (events : List Event) (entries : List StageTraceEntry) (e e' : Execution W) : Prop where
  history : e'.history = e.history ++ events
  trace : e'.trace.entries = e.trace.entries ++ entries

theorem Quiet.adds (h : Quiet e e') : Adds [] [] e e' := ⟨by simp [h.history], by simp [h.entries]⟩

theorem Adds.trans {events events' entries entries' e''} (h : Adds events entries e e')
    (h' : Adds events' entries' e' e'') : Adds (events ++ events') (entries ++ entries') e e'' := by
  constructor
  · rw [h'.history, h.history, append_assoc]
  · rw [h'.trace, h.trace, append_assoc]

theorem Adds.event {events entries} (h : Adds events entries e e') (event : Event) :
    Adds (events ++ [event]) entries e { e' with history := e'.history ++ [event] } :=
  ⟨by simp [h.history], h.trace⟩

theorem Adds.entry {events entries} (h : Adds events entries e e') (entry : StageTraceEntry) :
    Adds events (entries ++ [entry]) e { e' with trace := e'.trace.addEntry entry } :=
  ⟨h.history, by simp [ExecutionTrace.addEntry, h.trace]⟩

structure Tries (index : Nat) (stage : StageSpec) (first : Nat) (r : Except (Fault ExecutorError) StageResult)
    (events : List Event) (entries : List StageTraceEntry) : Prop where
  sent : events.countP Event.isSent ≤ stage.retryPolicy.maxRetries + 1 - first
  numbered : entries.map StageTraceEntry.attempt = range' first entries.length
  retrying : ∀ entry ∈ entries.dropLast, ∃ error, entry.result = .retrying error
  handled : ∀ error, r ≠ .ok (.retryable error)
  succeeded : ∀ output capabilities, r = .ok (.success output capabilities) →
    .answered index (.success output capabilities) ∈ events
  failed : ∀ error, r = .ok (.failure error) →
    (entries.getLast?.map StageTraceEntry.result = some (.failure error)) ∨
      entries.length = stage.retryPolicy.maxRetries + 1 - first ∧
        ∀ entry ∈ entries, ∃ error, entry.result = .retrying error

namespace Tries

variable {index first : Nat} {stage : StageSpec} {r : Except (Fault ExecutorError) StageResult} {events : List Event}
  {entry : StageTraceEntry}

theorem unanswered (hr : ∀ result, r = .ok result → ∃ reason, result = .cancelled reason)
    (hsent : events.countP isSent ≤ 1) (hfirst : first ≤ stage.retryPolicy.maxRetries) :
    Tries index stage first r events [] := by
  refine ⟨by omega, rfl, nofun, fun error h => ?_, fun output capabilities h => ?_, fun error h => ?_⟩
  · exact nomatch (hr _ h).choose_spec
  · exact nomatch (hr _ h).choose_spec
  · exact nomatch (hr _ h).choose_spec

theorem answered {result} (hfirst : first ≤ stage.retryPolicy.maxRetries) (hsent : events.countP isSent ≤ 1)
    (hanswered : .answered index result ∈ events) (hattempt : entry.attempt = first)
    (hresult : entry.result = traceResult result) (hretry : ∀ error, result ≠ .retryable error) :
    Tries index stage first (.ok result) events [entry] := by
  refine ⟨by omega, by simp [hattempt], nofun, ?_, ?_, ?_⟩
  · rintro error ⟨⟩
    exact hretry error rfl
  · rintro output capabilities ⟨⟩
    exact hanswered
  · rintro error ⟨⟩
    exact .inl (by simp [hresult, traceResult])

theorem retried {error events' entries} (h : Tries index stage (first + 1) r events' entries)
    (hfirst : first < stage.retryPolicy.maxRetries) (hsent : events.countP isSent ≤ 1)
    (hattempt : entry.attempt = first) (hresult : entry.result = traceResult (.retryable error)) :
    Tries index stage first r (events ++ events') (entry :: entries) := by
  have hretrying : ∃ error, entry.result = .retrying error := ⟨error, hresult⟩
  refine ⟨?_, ?_, ?_, h.handled, fun output capabilities hr => ?_, fun error hr => ?_⟩
  · have := h.sent
    rw [countP_append]
    omega
  · rw [map_cons, h.numbered, hattempt]
    rfl
  · cases entries with
    | nil => exact nofun
    | cons entry' entries =>
      rw [dropLast_cons_cons, forall_mem_cons]
      exact ⟨hretrying, h.retrying⟩
  · exact mem_append_right events (h.succeeded output capabilities hr)
  · refine (h.failed error hr).imp (fun hlast => ?_) fun ⟨hlength, hall⟩ => ⟨?_, ?_⟩
    · cases entries with
      | nil => cases hlast
      | cons => exact hlast
    · rw [length_cons]
      omega
    · rw [forall_mem_cons]
      exact ⟨hretrying, hall⟩

end Tries

namespace Environment

open Exec Proc

variable [SerdeDisplay StageInvokeRequest] [SerdeDisplay StageInvokeResponse]

theorem executeStageOnce_adds (env : Environment W) (index stage input e) :
    (env.executeStageOnce index stage input).Post e fun r e' => ∃ events, Adds events [] e e' ∧
      events.countP isSent ≤ 1 ∧ ∀ result, r = .ok result → .answered index result ∈ events := by
  refine (quietly_lookupHandler env stage e).bind (fun _ e1 h => ⟨[], h.adds, by simp, nofun⟩) fun channel e1 h1 => ?_
  refine (stageRequest_post env stage input e1).bind
    (fun _ e2 h => ⟨[], h1.adds.trans h.1.adds, by simp, nofun⟩) fun request e2 h2 => ?_
  have hsent := (h1.adds.trans h2.1.adds).event (.sent index request)
  rw [post_bind, record, post_modify]
  refine ((quietly_onWorld (env.kernel.sendMessage channel request)).mapErr _ _).bind
    (fun _ e3 h => ⟨_, hsent.trans h.adds, by simp [isSent], nofun⟩) fun _ e3 h3 => ?_
  refine (quietly_receiveResponse env stage channel request.id e3).bind
    (fun _ e4 h => ⟨_, (hsent.trans h3.adds).trans h.adds, by simp [isSent], nofun⟩) fun result e4 h4 => ?_
  refine ⟨_, ((hsent.trans h3.adds).trans h4.adds).event _, by simp [countP_cons, isSent], ?_⟩
  rintro _ ⟨⟩
  simp

theorem tryStage_adds (env : Environment W) (index stage input attempt e) :
    (env.tryStage index stage input attempt).Post e fun r e' => ∃ events entries, Adds events entries e e' ∧
      events.countP isSent ≤ 1 ∧ match r with
        | .ok result => .answered index result ∈ events ∧
          ∃ entry, entries = [entry] ∧ entry.attempt = attempt ∧ entry.result = traceResult result
        | .error _ => entries = [] := by
  refine (quietly_now env e).bind (fun _ e1 h => ⟨[], [], h.adds, by simp, rfl⟩) fun startTime e1 h1 => ?_
  refine (executeStageOnce_adds env index stage input e1).bind ?_ fun result e2 h2 => ?_
  · rintro _ e2 ⟨events, hadds, hsent, -⟩
    exact ⟨events, [], h1.adds.trans hadds, hsent, rfl⟩
  obtain ⟨events, hadds, hsent, hanswered⟩ := h2
  refine (quietly_now env e2).bind (fun _ e3 h => ?_) fun endTime e3 h3 => ?_
  · exact ⟨_, [], (h1.adds.trans hadds).trans h.adds, by simpa using hsent, rfl⟩
  · exact ⟨_, _, ((h1.adds.trans hadds).trans h3.adds).entry _, by simpa using hsent, by simpa using hanswered, _, rfl,
      rfl, rfl⟩

theorem attempts_tries (env : Environment W) (index stage input stageDeadline left e)
    (hleft : left ≤ stage.retryPolicy.maxRetries) :
    (env.attempts index stage input stageDeadline left).Post e fun r e' => ∃ events entries,
      Adds events entries e e' ∧ Tries index stage (stage.retryPolicy.maxRetries - left) r events entries := by
  have hfirst := sub_le stage.retryPolicy.maxRetries left
  unfold attempts
  refine (quietly_interrupted env stageDeadline e).bind (fun _ e1 h => ?_) fun reason e1 h1 => ?_
  · exact ⟨[], [], h.adds, .unanswered (by simp) (zero_le 1) hfirst⟩
  split
  · exact ⟨[], [], h1.adds, .unanswered (fun _ h => ⟨_, (Except.ok.inj h).symm⟩) (zero_le 1) hfirst⟩
  refine (tryStage_adds env index stage input _ e1).bind ?_ ?_
  · rintro _ e2 ⟨events, _, hadds, hsent, rfl⟩
    exact ⟨events, [], h1.adds.trans hadds, .unanswered (by simp) hsent hfirst⟩
  rintro result e2 ⟨events, _, hadds, hsent, hanswered, entry, rfl, hattempt, hresult⟩
  split
  · rename_i error
    cases left with
    | zero =>
      refine ⟨events, [entry], h1.adds.trans hadds, by omega, by simp [hattempt], by simp, fun _ h => ?_,
        fun _ _ h => ?_, fun _ _ => .inr ?_⟩
      · cases h
      · cases h
      simp [hresult, traceResult]
    | succ left =>
      have hnext : stage.retryPolicy.maxRetries - left = stage.retryPolicy.maxRetries - (left + 1) + 1 := by omega
      refine (quietly_backOff env _ _ e2).bind (fun _ e3 h => ?_) fun _ e3 h3 => ?_
      · refine ⟨_, _, (h1.adds.trans hadds).trans h.adds, .retried ?_ (by omega) hsent hattempt hresult⟩
        exact .unanswered (by simp) (zero_le 1) (by omega)
      refine (attempts_tries env index stage input stageDeadline left e3 (by omega)).mono fun r e4 h4 => ?_
      obtain ⟨events', entries, hadds', htries⟩ := h4
      rw [hnext] at htries
      refine ⟨_, _, ((h1.adds.trans hadds).trans h3.adds).trans hadds', ?_⟩
      simpa using htries.retried (by omega) hsent hattempt hresult
  · rename_i hretry
    exact ⟨events, [entry], h1.adds.trans hadds, .answered hfirst hsent hanswered hattempt hresult hretry⟩
termination_by left

/-- A stage gets at most one request more than it has retries. Its entries are numbered from 0 on without gaps, all but
the last are retries, and a failure that no handler reported comes after the last attempt. -/
theorem retry_discipline (env : Environment W) (index : Nat) (stage : StageSpec) (input : TypedPayload)
    (e : Execution W) : (env.executeStageWithRetry index stage input).Post e fun r e' => ∃ events entries,
      Adds events entries e e' ∧ Tries index stage 0 r events entries := by
  refine (quietly_deadline env stage.timeoutMs e).bind (fun _ e₁ h => ?_) fun stageDeadline e₁ h₁ => ?_
  · exact ⟨[], [], h.adds, .unanswered nofun (Nat.zero_le 1) (Nat.zero_le _)⟩
  · refine (attempts_tries env index stage input stageDeadline _ e₁ (Nat.le_refl _)).mono fun r e₂ h₂ => ?_
    obtain ⟨events, entries, hadds, htries⟩ := h₂
    rw [Nat.sub_self] at htries
    exact ⟨_, _, h₁.adds.trans hadds, htries⟩

end Environment

end PandaGen.Pipeline
