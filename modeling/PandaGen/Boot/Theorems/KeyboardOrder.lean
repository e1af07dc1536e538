import PandaGen.Boot.Keyboard
import PandaGen.Lib.Ring
import Mathlib.Tactic.Common

/-!
# The order of scancodes
-/

namespace PandaGen.Boot

open Lib Keyboard List

/-! ## What became of the scancodes -/

namespace Keyboard

variable {read r : Nat} {scancode : UInt8} {q : KeyboardEventQueue}

variable {tr : List (Action × Outcome)} {k k' : Keyboard} {log : List UInt8} {consumed : List (UInt8 × Bool)}

@[simp] theorem pushed_push (tr scancode o) : pushed (tr ++ [(.push scancode, o)]) = pushed tr ++ [scancode] := by
  simp [pushed]

@[simp] theorem pushed_access (tr o) : pushed (tr ++ [(.access, o)]) = pushed tr := by
  simp [pushed]

@[simp] theorem popped_pushed (tr i dropped) : popped (tr ++ [(i, .pushed dropped)]) = popped tr := by
  simp [popped]

@[simp] theorem popped_accessed (tr i) : popped (tr ++ [(i, .accessed)]) = popped tr := by
  simp [popped]

@[simp] theorem popped_popped (tr i result) : popped (tr ++ [(i, .popped result)]) = popped tr ++ result.toList := by
  cases result <;> simp [popped]

@[simp] theorem drops_append (tr i o) : drops (tr ++ [(i, o)]) = drops tr + if o = .pushed true then 1 else 0 := by
  unfold drops
  split <;> simp_all

/-- The position that a pop has read is the current one, or that of the last scancode, which was dropped since. -/
def At (consumed : List (UInt8 × Bool)) (read r : Nat) : Prop :=
  read = r % 2 ^ 64 ∧ (r = consumed.length ∨ ∃ init c, consumed = init ++ [(c, false)] ∧ r = init.length)

def PopTracks (log : List UInt8) (consumed : List (UInt8 × Bool)) : PopState → Prop
  | .idle => True
  | .loadedRead read => ∃ r, At consumed read r
  | .loadedWrite read => ∃ r, At consumed read r ∧ r < log.length
  | .loadedScancode read scancode => ∃ r, At consumed read r ∧ log[r]? = some scancode

structure Tracks (log : List UInt8) (consumed : List (UInt8 × Bool)) (k : Keyboard) : Prop where
  taken : consumed.map Prod.fst = log.take consumed.length
  length_le : consumed.length ≤ log.length
  length_lt : log.length < consumed.length + keyboardQueueSize
  writePos : k.queue.writePos = log.length % 2 ^ 64
  readPos : k.queue.readPos = consumed.length % 2 ^ 64
  ring : Ring.Holds k.queue.buffer log
  pop : PopTracks log consumed k.pop

theorem At.le (h : At consumed read r) : r ≤ consumed.length ∧ consumed.length ≤ r + 1 := by
  rcases h.2 with rfl | ⟨init, c, rfl, rfl⟩
  · exact ⟨Nat.le_refl _, Nat.le_succ _⟩
  · simp

theorem wrappingAdd_mod (n i) : wrappingAdd (n % 2 ^ 64) i = (n + i) % 2 ^ 64 := by
  simp [wrappingAdd]

theorem slot_mod (n) : n % 2 ^ 64 % keyboardQueueSize = n % keyboardQueueSize :=
  Nat.mod_mod_of_dvd n (by decide)

section

variable (h : Tracks log consumed k)
include h

theorem Tracks.size : wrappingSub k.queue.writePos k.queue.readPos = log.length - consumed.length := by
  have hlt := h.length_lt
  rw [h.writePos, h.readPos]
  refine wrappingSub_mod h.length_le ?_
  simp only [keyboardQueueSize] at hlt
  omega

theorem Tracks.queued : k.queue.queued = log.drop consumed.length := by
  have hslots : ∀ i, wrappingAdd k.queue.readPos i % keyboardQueueSize =
      (consumed.length + i) % k.queue.buffer.length := by
    intro i
    rw [h.readPos, wrappingAdd_mod, slot_mod, k.queue.buffer_length]
  have hlt := h.length_lt
  simp only [KeyboardEventQueue.queued, h.size, hslots]
  exact h.ring.window (by rw [k.queue.buffer_length]; omega) 0

theorem Tracks.push_cases {dropped} (hpush : k.queue.push scancode = (dropped, q)) :
    Ring.Holds q.buffer (log ++ [scancode]) ∧ q.writePos = (log.length + 1) % 2 ^ 64 ∧
    ((dropped = false ∧ log.length + 1 < consumed.length + keyboardQueueSize ∧ q.readPos = consumed.length % 2 ^ 64) ∨
      (dropped = true ∧ log.length + 1 = consumed.length + keyboardQueueSize ∧
        q.readPos = (consumed.length + 1) % 2 ^ 64)) := by
  have hring : Ring.Holds (k.queue.buffer.set (k.queue.writePos % keyboardQueueSize) scancode) (log ++ [scancode]) := by
    have hpos : 0 < k.queue.buffer.length := by
      rw [k.queue.buffer_length]
      decide
    have := h.ring.push hpos scancode
    rwa [k.queue.buffer_length, ← slot_mod, ← h.writePos] at this
  have hwrite : wrappingAdd k.queue.writePos 1 = (log.length + 1) % 2 ^ 64 := by rw [h.writePos, wrappingAdd_mod]
  have hread : wrappingAdd k.queue.readPos 1 = (consumed.length + 1) % 2 ^ 64 := by rw [h.readPos, wrappingAdd_mod]
  have hle := h.length_le
  have hlt := h.length_lt
  have hsize : wrappingSub ((log.length + 1) % 2 ^ 64) k.queue.readPos = log.length + 1 - consumed.length := by
    rw [h.readPos]
    refine wrappingSub_mod (by omega) ?_
    simp only [keyboardQueueSize] at hlt
    omega
  simp only [KeyboardEventQueue.push, hwrite, hsize, hread] at hpush
  split at hpush
  · obtain ⟨rfl, rfl⟩ := Prod.mk.inj hpush
    exact ⟨hring, rfl, .inr ⟨rfl, by omega, rfl⟩⟩
  · obtain ⟨rfl, rfl⟩ := Prod.mk.inj hpush
    exact ⟨hring, rfl, .inl ⟨rfl, by omega, h.readPos⟩⟩

omit h in
theorem PopTracks.append {p} (h : PopTracks log consumed p) (scancode) : PopTracks (log ++ [scancode]) consumed p := by
  cases p with
  | idle => trivial
  | loadedRead read => exact h
  | loadedWrite read =>
    obtain ⟨r, hat, hr⟩ := h
    exact ⟨r, hat, by simp only [List.length_append, List.length_singleton]; omega⟩
  | loadedScancode read scancode =>
    obtain ⟨r, hat, hr⟩ := h
    exact ⟨r, hat, by rw [List.getElem?_append_left (List.getElem?_eq_some_iff.mp hr).1, hr]⟩

omit h in
theorem At.drop (h : At consumed read r) (hread : q.readPos = consumed.length % 2 ^ 64) (hnot : ¬ read ≠ q.readPos)
    (c) : At (consumed ++ [(c, false)]) read r := by
  refine ⟨h.1, .inr ⟨consumed, c, rfl, ?_⟩⟩
  obtain ⟨hle, hge⟩ := h.le
  have := h.1
  omega

omit h in
theorem PopTracks.drop (h : PopTracks log consumed k.pop) (hread : k.queue.readPos = consumed.length % 2 ^ 64)
    (hnot : ¬ k.Overtaken) (c) : PopTracks log (consumed ++ [(c, false)]) k.pop := by
  obtain ⟨q, p⟩ := k
  cases p with
  | idle => trivial
  | loadedRead read =>
    obtain ⟨r, hat⟩ := h
    exact ⟨r, hat.drop hread hnot c⟩
  | loadedWrite read | loadedScancode read scancode =>
    obtain ⟨r, hat, hr⟩ := h
    exact ⟨r, hat.drop hread hnot c, hr⟩

omit h in
theorem taken_append {c} (htaken : consumed.map Prod.fst = log.take consumed.length)
    (hc : log[consumed.length]? = some c) (b) :
    (consumed ++ [(c, b)]).map Prod.fst = log.take (consumed ++ [(c, b)]).length := by
  rw [map_append, length_append, length_singleton, take_add_one, htaken, hc]
  rfl

theorem Tracks.taken_push (scancode) : consumed.map Prod.fst = (log ++ [scancode]).take consumed.length := by
  rw [take_append_of_le_length h.length_le]
  exact h.taken

theorem Tracks.push_kept
    (hpush : k.queue.push scancode = (false, q)) : Tracks (log ++ [scancode]) consumed ⟨q, k.pop⟩ := by
  obtain ⟨hring, hwrite, ⟨-, hroom, hread⟩ | ⟨htrue, -⟩⟩ := h.push_cases hpush
  · have hlength : (log ++ [scancode]).length = log.length + 1 := by simp
    have hle := h.length_le
    rw [← hlength] at hwrite
    exact ⟨h.taken_push scancode, by omega, by omega, hwrite, hread, hring, h.pop.append scancode⟩
  · cases htrue

theorem Tracks.push_dropped (hpush : k.queue.push scancode = (true, q)) (hnot : ¬ k.Overtaken) :
    ∃ c, Tracks (log ++ [scancode]) (consumed ++ [(c, false)]) ⟨q, k.pop⟩ := by
  obtain ⟨hring, hwrite, ⟨hfalse, -⟩ | ⟨-, hfull, hread⟩⟩ := h.push_cases hpush
  · cases hfalse
  · have hlength : (log ++ [scancode]).length = log.length + 1 := by simp
    have hpos : 0 < keyboardQueueSize := by decide
    obtain ⟨c, hc⟩ : ∃ c, (log ++ [scancode])[consumed.length]? = some c :=
      ⟨_, getElem?_eq_getElem (by omega)⟩
    have hlength' : (consumed ++ [(c, false)]).length = consumed.length + 1 := by simp
    rw [← hlength] at hwrite
    rw [← hlength'] at hread
    exact ⟨c, taken_append (h.taken_push scancode) hc false, by omega, by omega, hwrite, hread, hring,
      (h.pop.append scancode).drop h.readPos hnot c⟩

/-! ## Pops -/

theorem Tracks.of_pop {p} (hpop : PopTracks log consumed p) : Tracks log consumed { k with pop := p } :=
  ⟨h.taken, h.length_le, h.length_lt, h.writePos, h.readPos, h.ring, hpop⟩

theorem Tracks.load (hat : At consumed read r) (hr : r < log.length) :
    log[r]? = some (k.queue.buffer.getD (read % keyboardQueueSize) 0) := by
  have hrecent := h.length_lt
  have hle := hat.le
  have hslot := h.ring r hr (by rw [k.queue.buffer_length]; omega)
  rw [hat.1, slot_mod, getD_eq_getElem?_getD, ← k.queue.buffer_length, hslot, getElem?_eq_getElem hr]
  rfl

/-- A pop takes the scancode that it has read. If that was dropped in the meantime, it is popped after all. -/
theorem Tracks.store (hat : At consumed read r) (hr : log[r]? = some scancode) :
    ∃ init, (consumed = init ∨ consumed = init ++ [(scancode, false)]) ∧
      Tracks log (init ++ [(scancode, true)]) ⟨{ k.queue with readPos := wrappingAdd read 1 }, .idle⟩ := by
  have hlt := (List.getElem?_eq_some_iff.mp hr).1
  have hread : wrappingAdd read 1 = (r + 1) % 2 ^ 64 := by rw [hat.1, wrappingAdd_mod]
  have hsize := h.length_lt
  rcases hat.2 with rfl | ⟨init, c, rfl, rfl⟩
  · refine ⟨consumed, .inl rfl, taken_append h.taken hr true, ?_, ?_, h.writePos, ?_, h.ring, trivial⟩
    all_goals simp only [List.length_append, List.length_singleton]
    · omega
    · omega
    · exact hread
  · have htaken := h.taken
    simp only [List.map_append, List.length_append, List.length_singleton, List.take_add_one, hr] at htaken
    obtain ⟨hinit, hc⟩ := List.append_inj' htaken rfl
    obtain rfl : c = scancode := by simpa using hc
    refine ⟨init, .inr rfl, taken_append hinit hr true, ?_, ?_, h.writePos, ?_, h.ring, trivial⟩
    all_goals simp only [List.length_append, List.length_singleton] at hsize ⊢
    · omega
    · omega
    · exact hread

end

/-! ## Accounting -/

structure Accounts (tr : List (Action × Outcome)) (consumed : List (UInt8 × Bool)) : Prop where
  popped : popped tr = (consumed.filter fun c => c.2).map Prod.fst
  lost : (consumed.filter fun c => !c.2).length ≤ drops tr

theorem step_accounts {i o} (htracks : Tracks (pushed tr) consumed k) (haccounts : Accounts tr consumed)
    (hstep : machine.step k i = some (o, k')) (hone : OneDrop k i o) :
    ∃ consumed', Tracks (pushed (tr ++ [(i, o)])) consumed' k' ∧ Accounts (tr ++ [(i, o)]) consumed' := by
  obtain ⟨hpopped, hlost⟩ := haccounts
  cases i with
  | push scancode =>
    rcases hpush : k.queue.push scancode with ⟨dropped, q⟩
    simp only [machine, hpush] at hstep
    cases hstep
    rw [pushed_push]
    cases dropped with
    | false => exact ⟨consumed, htracks.push_kept hpush, by simpa using hpopped, by simpa using hlost⟩
    | true =>
      obtain ⟨c, hc⟩ := htracks.push_dropped hpush (hone rfl)
      exact ⟨_, hc, by simpa using hpopped, by simpa using hlost⟩
  | access =>
    have hacc : k.access = (o, k') := Option.some.inj hstep
    have hpop := htracks.pop
    unfold access at hacc
    rw [pushed_access]
    split at hacc
    · cases hacc
      refine ⟨consumed, htracks.of_pop ⟨consumed.length, htracks.readPos, .inl rfl⟩, ?_, ?_⟩
      · simpa using hpopped
      · simpa using hlost
    · rename_i read hload
      rw [hload] at hpop
      obtain ⟨r, hat⟩ := hpop
      split at hacc
      · cases hacc
        exact ⟨consumed, htracks.of_pop trivial, by simpa using hpopped, by simpa using hlost⟩
      · rename_i hne
        cases hacc
        have hr : r < (pushed tr).length := by
          have := hat.le
          have := htracks.length_le
          rw [hat.1, htracks.writePos] at hne
          omega
        exact ⟨consumed, htracks.of_pop ⟨r, hat, hr⟩, by simpa using hpopped, by simpa using hlost⟩
    · rename_i read hload
      rw [hload] at hpop
      obtain ⟨r, hat, hr⟩ := hpop
      cases hacc
      exact ⟨consumed, htracks.of_pop ⟨r, hat, htracks.load hat hr⟩, by simpa using hpopped, by simpa using hlost⟩
    · rename_i read scancode hload
      rw [hload] at hpop
      obtain ⟨r, hat, hr⟩ := hpop
      cases hacc
      obtain ⟨init, rfl | rfl, hstore⟩ := htracks.store hat hr
      · exact ⟨_, hstore, by simpa using hpopped, by simpa using hlost⟩
      · simp only [filter_append, length_append] at hpopped hlost
        refine ⟨_, hstore, by simpa using hpopped, ?_⟩
        simp at hlost ⊢
        omega

end Keyboard

/-- As long as no pop sees more than one drop, the scancodes that were pushed are those that left the queue and then
those in it. The ones that left it were popped, in this order, or are accounted for by a drop. -/
theorem keyboard_order {tr : List (Action × Outcome)} {k : Keyboard} (hrun : machine.Run OneDrop new tr k) :
    ∃ consumed : List (UInt8 × Bool),
      pushed tr = consumed.map Prod.fst ++ k.queue.queued ∧
      popped tr = (consumed.filter fun c => c.2).map Prod.fst ∧
      (consumed.filter fun c => !c.2).length ≤ drops tr ∧
      (popped tr).Sublist (pushed tr) := by
  have hinit : Tracks [] [] new := ⟨rfl, Nat.le_refl _, by decide, rfl, rfl, Ring.holds_nil _, trivial⟩
  obtain ⟨consumed, htracks, hpopped, hlost⟩ :=
    hrun.invariantTrace (P := fun tr k => ∃ consumed, Tracks (pushed tr) consumed k ∧ Accounts tr consumed)
      (fun _ _ _ _ _ ⟨_, htracks, haccounts⟩ hstep hone => step_accounts htracks haccounts hstep hone) []
      ⟨[], hinit, rfl, Nat.le_refl _⟩
  rw [List.nil_append] at htracks hpopped hlost
  have hpushed : pushed tr = consumed.map Prod.fst ++ k.queue.queued := by
    rw [htracks.taken, htracks.queued, List.take_append_drop]
  refine ⟨consumed, hpushed, hpopped, hlost, ?_⟩
  rw [hpopped, hpushed]
  exact (List.filter_sublist.map _).trans (List.sublist_append_left _ _)

/-- With 255 scancodes in the queue, one more is pushed while a pop is under way. It drops the one that is popped. -/
def oneDrop : List Action :=
  .push 7 :: .replicate 254 (.push 0) ++ [.access, .access, .push 8, .access, .access]

theorem keyboard_order_one_drop :
    ∃ tr k, machine.Run OneDrop new tr k ∧ tr.map Prod.fst = oneDrop ∧ popped tr = [7] ∧ drops tr = 1 ∧
      (popped tr).Sublist (pushed tr) := by
  obtain ⟨tr, k, hrun, hcalls, hpopped, hdrops⟩ : ∃ tr k, machine.Run OneDrop new tr k ∧ tr.map Prod.fst = oneDrop ∧
      popped tr = [7] ∧ drops tr = 1 := Machine.exists_run oneDrop (by decide +kernel)
  obtain ⟨_, -, -, -, hsublist⟩ := keyboard_order hrun
  exact ⟨tr, k, hrun, hcalls, hpopped, hdrops, hsublist⟩

/-- With 255 scancodes in the queue, two more are pushed while a pop is under way. The second one takes the slot that
the pop is going to read. -/
def twoDrops : List Action :=
  .push 0 :: .push 1 :: List.replicate 253 (.push 0) ++
    [.access, .access, .push 0, .push 2, .access, .access, .access, .access, .access, .access]

/-- The last scancode is popped before the second one. -/
theorem popped_out_of_order : ∃ tr k, machine.FreeRun new tr k ∧ tr.map Prod.fst = twoDrops ∧
      popped tr = [2, 1] ∧ ¬ (popped tr).Sublist (pushed tr) :=
  Machine.exists_run twoDrops (by decide +kernel)

end PandaGen.Boot
