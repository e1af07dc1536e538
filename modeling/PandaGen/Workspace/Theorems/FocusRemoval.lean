import PandaGen.Workspace.Lemmas.FocusHistory

/-!
# Removed subscriptions
-/

namespace PandaGen.Workspace.FocusManager

open Lib Input List

variable {self : FocusManager} {cap : InputSubscriptionCap} {id : Nat}

def entries (self : FocusManager) (id : Nat) : Nat := self.focusStack.countP fun c => c.id = id

def Call.Requests (id : Nat) : Call → Prop
  | .requestFocus cap => cap.id = id
  | _ => False

theorem entries_removeSubscription (h : (self.removeSubscription cap).1 = .ok ()) :
    self.entries cap.id = (self.removeSubscription cap).2.entries cap.id + 1 := by
  obtain ⟨c, hmem, hid⟩ := mem_of_removeSubscription_ok h
  obtain ⟨removed, above, below, _, hremoved, hstack, herased⟩ :=
    exists_of_eraseP (p := fun c => decide (c.id = cap.id)) hmem (by simpa using hid)
  rw [removeSubscription_of_mem ⟨c, hmem, hid⟩]
  simp only [entries, released]
  rw [herased, hstack]
  simp [countP_append, of_decide_eq_true hremoved, Nat.add_assoc]

theorem entries_perform_le {call} (h : ¬ call.Requests id) : (self.perform call).2.entries id ≤ self.entries id := by
  cases call with
  | requestFocus cap =>
    have hne : cap.id ≠ id := h
    simp only [perform, requestFocus]
    split
    · split <;> simp_all [entries]
    · simp_all [entries]
  | releaseFocus =>
    simp only [perform, releaseFocus]
    split
    · exact Nat.le_refl _
    · rename_i cap rest hstack
      simp [entries, released, hstack, countP_cons]
  | removeSubscription cap =>
    by_cases hmem : ∃ c ∈ self.focusStack, c.id = cap.id
    · simp only [perform, removeSubscription_of_mem hmem, entries, released]
      exact List.Sublist.countP_le eraseP_sublist
    · simp only [perform, removeSubscription_of_not_mem hmem]
      exact Nat.le_refl _

theorem entries_run_le {tr m} (h : machine.Run (fun _ call _ => ¬ call.Requests id) self tr m) :
    m.entries id ≤ self.entries id := by
  induction h with
  | nil => exact Nat.le_refl _
  | @cons s call _ s' _ _ hs hg _ ih =>
    have hnext : (s.perform call).2 = s' := congrArg Prod.snd (Option.some.inj hs)
    rw [← hnext] at ih
    exact ih.trans (entries_perform_le hg)

theorem entries_pos_of_focus {c} (h : c ∈ self.currentFocus) : 0 < self.entries c.id := by
  rw [entries, countP_pos_iff]
  exact ⟨c, mem_of_mem_head? h, by simp⟩

theorem exists_run_focus (h : 0 < self.entries id) :
    ∃ tr m, machine.Run (fun _ call _ => ¬ call.Requests id) self tr m ∧ ∃ c ∈ m.currentFocus, c.id = id := by
  obtain ⟨stack, hstack⟩ : ∃ stack, self.focusStack = stack := ⟨_, rfl⟩
  induction stack generalizing self with
  | nil => simp [entries, hstack] at h
  | cons cap rest ih =>
    by_cases hid : cap.id = id
    · exact ⟨[], self, .nil, cap, by simp [currentFocus, hstack], hid⟩
    · have hrelease : self.releaseFocus = (.ok cap, self.released cap.id rest) := by
        simp [releaseFocus, hstack]
      have hpos : 0 < (self.released cap.id rest).entries id := by
        simpa [entries, released, hstack, hid] using h
      obtain ⟨tr, m, hrun, hfocus⟩ := ih hpos rfl
      refine ⟨(.releaseFocus, .ok (some cap)) :: tr, m, .cons ?_ (fun hreq => hreq) hrun, hfocus⟩
      simp [machine, perform, hrelease, Except.map]

/-- A removed subscription gets no input until it asks for the focus again, exactly if it was on the stack once. -/
theorem removed_gets_no_input (self : FocusManager) (cap : InputSubscriptionCap)
    (hremoved : (self.removeSubscription cap).1 = .ok ()) :
    (∀ tr m, machine.Run (fun _ call _ => ¬ call.Requests cap.id) (self.removeSubscription cap).2 tr m →
      (∀ c ∈ m.currentFocus, c.id ≠ cap.id) ∧ ∀ event c, m.routeEvent event = .ok (some c) → c.id ≠ cap.id) ↔
    self.entries cap.id = 1 := by
  have hentries := entries_removeSubscription hremoved
  constructor
  · intro hno
    by_contra hmore
    obtain ⟨tr, m, hrun, c, hc, hid⟩ :=
      exists_run_focus (show 0 < (self.removeSubscription cap).2.entries cap.id by omega)
    exact (hno tr m hrun).1 c hc hid
  · intro hone tr m hrun
    have hnone : ∀ c ∈ m.currentFocus, c.id ≠ cap.id := by
      intro c hc hid
      have hpos := entries_pos_of_focus hc
      have hle := entries_run_le hrun
      rw [hid] at hpos
      omega
    refine ⟨hnone, fun event c hroute => hnone c ?_⟩
    exact Except.ok.inj hroute

def first : InputSubscriptionCap := ⟨1, ⟨1⟩, ⟨1⟩⟩

def second : InputSubscriptionCap := ⟨2, ⟨2⟩, ⟨2⟩⟩

/-- The first subscription asks for the focus twice, with the second in between. -/
def switched : FocusManager := (((new.requestFocus first).2.requestFocus second).2.requestFocus first).2

theorem removed_gets_no_input_second : (switched.removeSubscription second).1 = .ok () ∧
    ∀ tr m, machine.Run (fun _ call _ => ¬ call.Requests second.id) (switched.removeSubscription second).2 tr m →
      (∀ c ∈ m.currentFocus, c.id ≠ second.id) ∧ ∀ event c, m.routeEvent event = .ok (some c) → c.id ≠ second.id :=
  ⟨rfl, (removed_gets_no_input switched second rfl).mpr rfl⟩

/-- After its removal, the first subscription has the focus again when the second one releases it. -/
theorem removed_subscription_focused : (switched.removeSubscription first).1 = .ok () ∧
    (switched.removeSubscription first).2.releaseFocus.2.currentFocus = some first ∧
    ∀ event, (switched.removeSubscription first).2.releaseFocus.2.routeEvent event = .ok (some first) :=
  ⟨rfl, rfl, fun _ => rfl⟩

end PandaGen.Workspace.FocusManager
