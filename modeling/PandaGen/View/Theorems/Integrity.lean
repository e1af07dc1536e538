import PandaGen.Lib.Machine
import PandaGen.View.Host

/-!
# Integrity of the views
-/

namespace PandaGen.View.ViewHost

open Lib List ViewRecord

/-! ## What is accepted -/

section

variable {host host' : ViewHost} {handle : ViewHandleCap} {frame : ViewFrame} {v : ViewId}

theorem verifyHandle_ok {record : ViewRecord} (h : record.verifyHandle handle = .ok ()) :
    record.viewId = handle.viewId ∧ record.ownerTaskId = handle.taskId ∧ record.handleToken = handle.token := by
  unfold verifyHandle at h
  split at h
  · cases h
  · split at h
    · cases h
    · rename_i hview howner
      simp only [not_or, not_not] at hview howner
      exact ⟨hview.symm, howner.1.symm, howner.2.symm⟩

theorem publishFrame_ok (h : host.publishFrame handle frame = .ok host') :
    ∃ record, host.views[handle.viewId]? = some record ∧ record.verifyHandle handle = .ok () ∧
      (∀ latest ∈ record.latestFrame, latest.revision < frame.revision) ∧
      host' = { host with views := host.views.insert handle.viewId { record with latestFrame := some frame } } := by
  unfold publishFrame at h
  split at h
  · cases h
  · split at h
    · cases h
    · split at h
      · cases h
      · split at h
        · cases h
        · rename_i record hrecord _ hverify _ _ hrevision
          cases h
          refine ⟨record, hrecord, hverify, fun latest hlatest => ?_, rfl⟩
          simp only [verifyRevision, Option.mem_def.mp hlatest] at hrevision
          grind

theorem views_publishFrame (h : host.publishFrame handle frame = .ok host') (hv : v ≠ handle.viewId) :
    host'.views[v]? = host.views[v]? := by
  obtain ⟨record, -, -, -, rfl⟩ := publishFrame_ok h
  simp [BTreeMap.getElem?_insert, hv.symm]

theorem views_createView {w kind title taskId channel} (hv : v ≠ w) :
    (host.createView w kind title taskId channel).2.views[v]? = host.views[v]? := by
  simp [createView, BTreeMap.getElem?_insert, hv.symm]

theorem views_subscribe {w taskId channel subscription}
    (h : host.subscribe w taskId channel = .ok (subscription, host')) (hv : v ≠ w) :
    host'.views[v]? = host.views[v]? := by
  unfold subscribe at h
  split at h
  · cases h
  · cases h
    simp [BTreeMap.getElem?_insert, hv.symm]

theorem removeView_ok (h : host.removeView handle = .ok host') :
    ∃ record, host.views[handle.viewId]? = some record ∧ record.verifyHandle handle = .ok () ∧
      host' = { host with views := host.views.erase handle.viewId } := by
  unfold removeView at h
  split at h
  · cases h
  · rename_i record hrecord
    cases hverify : record.verifyHandle handle with
    | error e => rw [hverify] at h; cases h
    | ok _ =>
      rw [hverify] at h
      cases h
      exact ⟨record, hrecord, hverify, rfl⟩

theorem views_removeView (h : host.removeView handle = .ok host') (hv : v ≠ handle.viewId) :
    host'.views[v]? = host.views[v]? := by
  obtain ⟨record, -, -, rfl⟩ := removeView_ok h
  simp [BTreeMap.getElem?_erase, hv.symm]

end

/-! ## The calls of the host -/

inductive Call where
  | createView (viewId : ViewId) (kind : ViewKind) (title : Option String) (taskId : TaskId) (channel : ChannelId)
  | publishFrame (handle : ViewHandleCap) (frame : ViewFrame)
  | subscribe (viewId : ViewId) (taskId : TaskId) (channel : ChannelId)
  | removeView (handle : ViewHandleCap)

inductive Answer where
  | created (handle : ViewHandleCap)
  | done
  | subscribed (subscription : ViewSubscriptionCap)
  | refused (e : ViewHostError)

abbrev Trace := List (Call × Answer)

def Call.viewId : Call → ViewId
  | createView viewId .. => viewId
  | publishFrame handle _ => handle.viewId
  | subscribe viewId .. => viewId
  | removeView handle => handle.viewId

def perform (host : ViewHost) : Call → Answer × ViewHost
  | .createView viewId kind title taskId channel =>
    let (handle, host) := host.createView viewId kind title taskId channel
    (.created handle, host)
  | .publishFrame handle frame =>
    match host.publishFrame handle frame with
    | .ok host => (.done, host)
    | .error e => (.refused e, host)
  | .subscribe viewId taskId channel =>
    match host.subscribe viewId taskId channel with
    | .ok (subscription, host) => (.subscribed subscription, host)
    | .error e => (.refused e, host)
  | .removeView handle =>
    match host.removeView handle with
    | .ok host => (.done, host)
    | .error e => (.refused e, host)

def Answer.inRange : Answer → Bool
  | .refused (.revisionNotMonotonic expected _) => expected < 2 ^ 64
  | _ => true

/-- A call that steps a token counter past `u64`, or asks for a revision past it (`latest.revision + 1`), panics. -/
def machine : Machine ViewHost Call Answer where
  step host call :=
    let done := host.perform call
    if done.2.nextToken < 2 ^ 64 ∧ done.2.nextSubscriptionToken < 2 ^ 64 ∧ done.1.inRange then some done else none

inductive Did (host : ViewHost) : Call → Answer → ViewHost → Prop
  | created {v kind title taskId channel} : Did host (.createView v kind title taskId channel)
      (.created (host.createView v kind title taskId channel).1) (host.createView v kind title taskId channel).2
  | published {handle frame host'} : host.publishFrame handle frame = .ok host' →
      Did host (.publishFrame handle frame) .done host'
  | subscribed {v taskId channel subscription host'} :
      host.subscribe v taskId channel = .ok (subscription, host') →
      Did host (.subscribe v taskId channel) (.subscribed subscription) host'
  | removed {handle host'} : host.removeView handle = .ok host' → Did host (.removeView handle) .done host'
  | refused {call e} : Did host call (.refused e) host

/-! ## What a run says of a view -/

def createdBy : Call × Answer → Option ViewId
  | (.createView viewId .., .created _) => some viewId
  | _ => none

abbrev drawn (tr : Trace) : List ViewId := tr.filterMap createdBy

def removedBy : Call × Answer → Option ViewId
  | (.removeView handle, .done) => some handle.viewId
  | _ => none

abbrev removed (tr : Trace) : List ViewId := tr.filterMap removedBy

/-- The frame that an event gives to the view: the initial one of a view with a title, or one that is accepted. -/
def frameFor (v : ViewId) : Call × Answer → Option ViewFrame
  | (.createView viewId kind title .., .created _) =>
    if viewId = v then title.map fun title => (ViewFrame.new v kind 0 (initialContent kind) 0).withTitle title else none
  | (.publishFrame handle frame, .done) => if handle.viewId = v then some frame else none
  | _ => none

abbrev frames (tr : Trace) (v : ViewId) : List ViewFrame := tr.filterMap (frameFor v)

def Live (tr : Trace) (v : ViewId) (taskId : TaskId) (token : Nat) : Prop :=
  (∃ kind title channel, (.createView v kind title taskId channel, .created ⟨v, taskId, channel, token⟩) ∈ tr) ∧
    v ∉ removed tr

def state (host : ViewHost) (v : ViewId) : Option (TaskId × Nat × Option ViewFrame) :=
  host.views[v]?.map fun record => (record.ownerTaskId, record.handleToken, record.latestFrame)

structure Shown (tr : Trace) (host : ViewHost) (v : ViewId) : Prop where
  live : ∀ taskId token latest, host.state v = some (taskId, token, latest) →
    Live tr v taskId token ∧ latest = (frames tr v).getLast?
  gone : host.state v = none → v ∈ drawn tr → v ∈ removed tr
  rising : (frames tr v).Pairwise (·.revision < ·.revision)
  fresh : v ∉ drawn tr → frames tr v = [] ∧ v ∉ removed tr

variable {host host' : ViewHost} {tr : Trace} {ev : Call × Answer} {v : ViewId} {handle : ViewHandleCap}

theorem Live.mem_drawn {taskId token} (h : Live tr v taskId token) : v ∈ drawn tr := by
  obtain ⟨⟨kind, title, channel, hmem⟩, -⟩ := h
  exact mem_filterMap.mpr ⟨_, hmem, rfl⟩

theorem Live.concat {taskId token} (h : Live tr v taskId token) (hremoved : removedBy ev ≠ some v) :
    Live (tr ++ [ev]) v taskId token := by
  obtain ⟨⟨kind, title, channel, hmem⟩, hnot⟩ := h
  refine ⟨⟨kind, title, channel, mem_append_left _ hmem⟩, ?_⟩
  simpa [hnot] using hremoved

/-! ## One call -/

theorem Shown.quiet (h : Shown tr host v) (hframe : frameFor v ev = none) (hcreated : createdBy ev ≠ some v)
    (hremoved : removedBy ev ≠ some v) (hstate : host'.state v = host.state v) : Shown (tr ++ [ev]) host' v where
  live taskId token latest heq := by
    obtain ⟨hlive, hlatest⟩ := h.live taskId token latest (hstate.symm.trans heq)
    exact ⟨hlive.concat hremoved, by simpa [hframe] using hlatest⟩
  gone heq hmem := by
    have := h.gone (hstate.symm.trans heq)
    simp_all
  rising := by simpa [hframe] using h.rising
  fresh hmem := by
    have := h.fresh
    simp_all

theorem Shown.created (h : Shown tr host v) (hnew : v ∉ drawn tr) (kind title taskId channel) :
    Shown (tr ++ [(.createView v kind title taskId channel, .created ⟨v, taskId, channel, host.nextToken⟩)])
      (host.createView v kind title taskId channel).2 v := by
  obtain ⟨hframes, hremoved⟩ := h.fresh hnew
  constructor
  case live =>
    intro taskId' token latest heq
    simp [state, createView] at heq
    obtain ⟨rfl, rfl, rfl⟩ := heq
    refine ⟨⟨⟨kind, title, channel, by simp⟩, by simp [hremoved, removedBy]⟩, ?_⟩
    cases title <;> simp [hframes, frameFor]
  case gone => simp [state, createView]
  case rising => cases title <;> simp [hframes, frameFor]
  case fresh => simp [createdBy]

theorem rising_concat {l : List ViewFrame} {frame : ViewFrame} (h : l.Pairwise (·.revision < ·.revision))
    (hlast : ∀ latest ∈ l.getLast?, latest.revision < frame.revision) :
    (l ++ [frame]).Pairwise (·.revision < ·.revision) := by
  refine pairwise_append.mpr ⟨h, pairwise_singleton .., fun x hx y hy => ?_⟩
  obtain rfl := mem_singleton.mp hy
  induction l using reverseRecOn with
  | nil => cases hx
  | append_singleton l latest =>
    have hlatest := hlast latest (by simp)
    rcases mem_append.mp hx with hx | hx
    · exact ((pairwise_append.mp h).2.2 x hx latest (by simp)).trans hlatest
    · rw [mem_singleton.mp hx]
      exact hlatest

theorem Shown.published {frame} (h : Shown tr host handle.viewId) (hok : host.publishFrame handle frame = .ok host') :
    Shown (tr ++ [(.publishFrame handle frame, .done)]) host' handle.viewId := by
  obtain ⟨record, hrecord, -, hrevision, rfl⟩ := publishFrame_ok hok
  obtain ⟨hlive, hlatest⟩ := h.live record.ownerTaskId record.handleToken record.latestFrame (by simp [state, hrecord])
  constructor
  case live =>
    intro taskId token latest heq
    simp [state] at heq
    obtain ⟨rfl, rfl, rfl⟩ := heq
    exact ⟨hlive.concat (by simp [removedBy]), by simp [frameFor]⟩
  case gone => simp [state]
  case rising =>
    rw [hlatest] at hrevision
    simpa [frameFor] using rising_concat h.rising hrevision
  case fresh => exact fun hmem => absurd hlive.mem_drawn (by simpa [createdBy] using hmem)

theorem Shown.removed (h : Shown tr host handle.viewId)
    (hok : host.removeView handle = .ok host') : Shown (tr ++ [(.removeView handle, .done)]) host' handle.viewId := by
  obtain ⟨record, hrecord, -, rfl⟩ := removeView_ok hok
  obtain ⟨hlive, -⟩ := h.live record.ownerTaskId record.handleToken record.latestFrame (by simp [state, hrecord])
  constructor
  case live => simp [state]
  case gone => simp [removedBy]
  case rising => simpa [frames, filterMap_cons, frameFor] using h.rising
  case fresh => exact fun hmem => absurd hlive.mem_drawn (by simpa [createdBy] using hmem)

theorem Shown.live_of_verified {record : ViewRecord} (h : Shown tr host handle.viewId)
    (hrecord : host.views[handle.viewId]? = some record) (hverify : record.verifyHandle handle = .ok ()) :
    Live tr handle.viewId handle.taskId handle.token := by
  obtain ⟨-, howner, htoken⟩ := verifyHandle_ok hverify
  refine (h.live handle.taskId handle.token record.latestFrame ?_).1
  rw [state, hrecord, Option.map_some, howner, htoken]

theorem about_other {call} (hv : v ≠ call.viewId) (answer) :
    frameFor v (call, answer) = none ∧ createdBy (call, answer) ≠ some v ∧ removedBy (call, answer) ≠ some v := by
  cases call <;> cases answer <;> simp_all [frameFor, createdBy, removedBy, Call.viewId, Ne.symm]

theorem perform_did (host call) : Did host call (host.perform call).1 (host.perform call).2 := by
  cases call with
  | createView => exact .created
  | publishFrame =>
    rw [perform]
    split
    exacts [.published ‹_›, .refused]
  | subscribe =>
    rw [perform]
    split
    exacts [.subscribed ‹_›, .refused]
  | removeView =>
    rw [perform]
    split
    exacts [.removed ‹_›, .refused]

variable {call : Call} {answer : Answer}

theorem Did.views (h : Did host call answer host') (hv : v ≠ call.viewId) : host'.views[v]? = host.views[v]? := by
  cases h with
  | created => exact views_createView hv
  | published h => exact views_publishFrame h hv
  | subscribed h => exact views_subscribe h hv
  | removed h => exact views_removeView h hv
  | refused => rfl

theorem Did.shown (hd : Did host call answer host') (h : ∀ v, Shown tr host v)
    (hids : (drawn (tr ++ [(call, answer)])).Nodup) (v) : Shown (tr ++ [(call, answer)]) host' v := by
  by_cases hv : v = call.viewId
  · subst hv
    cases hd with
    | @created w kind title taskId channel =>
      refine (h w).created ?_ kind title taskId channel
      rw [drawn, filterMap_append] at hids
      exact fun hmem => (nodup_append.mp hids).2.2 w hmem w (by simp [createdBy]) rfl
    | published hok => exact (h _).published hok
    | subscribed hok =>
      refine (h _).quiet rfl nofun nofun ?_
      unfold subscribe at hok
      split at hok
      · cases hok
      · rename_i record hrecord
        cases hok
        simp [state, Call.viewId, hrecord]
    | removed hok => exact (h _).removed hok
    | refused => cases call <;> exact (h _).quiet rfl nofun nofun rfl
  · obtain ⟨hframe, hcreated, hremoved⟩ := about_other hv answer
    exact (h v).quiet hframe hcreated hremoved (by rw [state, hd.views hv, state])

/-- A frame is published and a view removed only with a handle as `create_view` returned it for a view that has not
been removed; the revisions of a view's frames rise; the host shows the last of them; and no call changes another
view. -/
theorem view_integrity (hrun : machine.FreeRun new tr host) (hids : (drawn tr).Nodup) :
    (∀ handle frame host', host.publishFrame handle frame = .ok host' →
      Live tr handle.viewId handle.taskId handle.token) ∧
    (∀ handle host', host.removeView handle = .ok host' → Live tr handle.viewId handle.taskId handle.token) ∧
    (∀ v, (frames tr v).Pairwise (·.revision < ·.revision)) ∧
    (∀ v, host.getLatest v = if v ∈ drawn tr ∧ v ∉ removed tr then .ok (frames tr v).getLast?
      else .error (.viewNotFound v)) ∧
    ∀ call v, v ≠ call.viewId → (host.perform call).2.views[v]? = host.views[v]? := by
  have h := hrun.invariantReached (P := fun tr host => (drawn tr).Nodup → ∀ v, Shown tr host v)
    (fun tr host call answer host' _ ih hstep _ hids => by
      have hdid := host.perform_did call
      rw [Option.some.inj (Option.ite_none_right_eq_some.mp hstep).2] at hdid
      have hids₀ : (drawn tr).Nodup := by
        rw [drawn, filterMap_append] at hids
        exact (nodup_append.mp hids).1
      exact hdid.shown (ih hids₀) hids)
    (fun _ v => ⟨by simp [state, new], by simp [drawn], by simp [frames], by simp [frames, removed]⟩) hids
  refine ⟨?_, ?_, fun v => (h v).rising, fun v => ?_, fun call v hv => (host.perform_did call).views hv⟩
  · intro handle frame host' hok
    obtain ⟨record, hrecord, hverify, -⟩ := publishFrame_ok hok
    exact (h _).live_of_verified hrecord hverify
  · intro handle host' hok
    obtain ⟨record, hrecord, hverify, -⟩ := removeView_ok hok
    exact (h _).live_of_verified hrecord hverify
  · cases hrecord : host.views[v]? with
    | none =>
      have hgone := (h v).gone (by simp [state, hrecord])
      rw [if_neg fun hmem => hmem.2 (hgone hmem.1)]
      simp [getLatest, hrecord]
    | some record =>
      obtain ⟨hlive, hlatest⟩ := (h v).live record.ownerTaskId record.handleToken record.latestFrame
        (by simp [state, hrecord])
      simp [getLatest, hrecord, hlive.mem_drawn, hlive.2, hlatest]

theorem view_integrity_forged : ∃ host, machine.FreeRun new
      [(.createView ⟨7⟩ .panel (some "t") ⟨1⟩ ⟨2⟩, .created ⟨⟨7⟩, ⟨1⟩, ⟨2⟩, 1⟩),
        (.removeView ⟨⟨7⟩, ⟨1⟩, ⟨2⟩, 2⟩, .refused (.unauthorized ⟨7⟩))] host ∧
    host.getLatest ⟨7⟩ = .ok (some ((ViewFrame.new ⟨7⟩ .panel 0 (.panel []) 0).withTitle "t")) := by
  refine Exists.imp (fun host hrun => ⟨hrun, ?_⟩) ⟨_, .cons rfl trivial (.cons rfl trivial .nil)⟩
  rw [(view_integrity hrun (by decide)).2.2.2.1]
  rfl

end PandaGen.View.ViewHost
