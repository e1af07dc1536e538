import Mathlib.Logic.Basic

/-!
# Methods that may fail and keep their state

A method on `&mut self` returns `Ok` or `Err`, or panics; in all three cases the state it has changed so
far stays changed. `Proc σ ε α` is such a method, and `Post` is its postcondition.
-/

namespace PandaGen.Lib

inductive Fault (ε : Type) where
  | err (e : ε)
  | panic
  deriving DecidableEq

abbrev Proc (σ ε α : Type) := ExceptT (Fault ε) (StateM σ) α

namespace Proc

variable {σ ε ε' α β : Type} {m : Proc σ ε α} {f : α → Proc σ ε β} {τ : Type}

def exec (m : Proc σ ε α) (s : σ) : Except (Fault ε) α × σ := m.run.run s

def mapErr (f : ε → ε') (m : Proc σ ε α) : Proc σ ε' α :=
  ExceptT.mk fun s => match m.exec s with
    | (.ok a, s') => (.ok a, s')
    | (.error (.err e), s') => (.error (.err (f e)), s')
    | (.error .panic, s') => (.error .panic, s')

def okOr (e : ε) : Option α → Proc σ ε α
  | some a => pure a
  | none => throw (.err e)

def okOrPanic : Option α → Proc σ ε α
  | some a => pure a
  | none => throw .panic

/-- `result?` -/
def ofExcept : Except ε α → Proc σ ε α
  | .ok a => pure a
  | .error e => throw (.err e)

/-- What the caller of the method sees. A panic ends the process. -/
def call (m : Proc σ ε α) (s : σ) : Option (Except ε α × σ) :=
  match m.exec s with
  | (.ok a, s') => some (.ok a, s')
  | (.error (.err e), s') => some (.error e, s')
  | (.error .panic, _) => none

/-- A method that acts on a part of the state. -/
def zoom {τ : Type} (part : τ → σ) (put : σ → τ → τ) (m : Proc σ ε α) : Proc τ ε α :=
  ExceptT.mk fun t =>
    let (r, s) := m.exec (part t)
    (r, put s t)

/-- Returns the result of a computation as a value. A panic is not caught. -/
def attempt {ε' : Type} (m : Proc σ ε α) : Proc σ ε' (Except ε α) :=
  ExceptT.mk fun s =>
    match m.exec s with
    | (.ok a, s') => (.ok (.ok a), s')
    | (.error (.err e), s') => (.ok (.error e), s')
    | (.error .panic, s') => (.error .panic, s')

/-- `if c { return Err(..) }`. -/
def failIf (c : Prop) [Decidable c] (f : Fault ε) : Proc σ ε Unit := if c then throw f else pure ()

theorem exec_get (s : σ) : (get : Proc σ ε σ).exec s = (.ok s, s) := rfl

theorem exec_attempt (m : Proc σ ε α) (s : σ) : (m.attempt : Proc σ ε' (Except ε α)).exec s = match m.exec s with
      | (.ok a, s') => (.ok (.ok a), s')
      | (.error (.err e), s') => (.ok (.error e), s')
      | (.error .panic, s') => (.error .panic, s') := rfl

theorem exec_mapErr (m : Proc σ ε α) (f : ε → ε') (s : σ) : (m.mapErr f).exec s = match m.exec s with
      | (.ok a, s') => (.ok a, s')
      | (.error (.err e), s') => (.error (.err (f e)), s')
      | (.error .panic, s') => (.error .panic, s') := rfl

theorem exec_bind (m : Proc σ ε α) (f : α → Proc σ ε β) (s : σ) : (m >>= f).exec s = match m.exec s with
      | (.ok a, s') => (f a).exec s'
      | (.error e, s') => (.error e, s') := by
  simp only [exec, ExceptT.run_bind, StateT.run_bind]
  rcases m.run.run s with ⟨_ | _, _⟩ <;> rfl

theorem exec_bind_congr {s s'} (hm : (m.exec s').1 = (m.exec s).1)
    (hf : ∀ a t t', ((f a).exec t').1 = ((f a).exec t).1) : ((m >>= f).exec s').1 = ((m >>= f).exec s).1 := by
  rw [exec_bind, exec_bind]
  rcases hs : m.exec s with ⟨r, t⟩
  rcases hs' : m.exec s' with ⟨r', t'⟩
  rw [hs, hs'] at hm
  obtain rfl : r' = r := hm
  cases r' with
  | error e => rfl
  | ok a => exact hf a t t'

/-- A method whose first check fails returns its error and changes nothing. -/
theorem call_check {check : σ → Except ε Unit} {s : σ} {e : ε} (h : check s = .error e) :
    (do ofExcept (check (← get)); m).call s = some (.error e, s) := by
  rw [call, exec_bind, exec_get]
  simp only [exec_bind, h]
  rfl

theorem call_bind (m : Proc σ ε α) (f : α → Proc σ ε β) (s : σ) : (m >>= f).call s = match m.call s with
      | some (.ok a, s') => (f a).call s'
      | some (.error e, s') => some (.error e, s')
      | none => none := by
  rw [call, exec_bind, call]
  rcases m.exec s with ⟨⟨_ | _⟩ | _, _⟩ <;> rfl

theorem call_seq_eq_none {m : Proc σ ε Unit} {m' : Proc σ ε β} {s} :
    (do m; m').call s = none ↔ m.call s = none ∨ ∃ s', m.call s = some (.ok (), s') ∧ m'.call s' = none := by
  rw [call_bind]
  rcases m.call s with _ | ⟨_ | _, s'⟩ <;> simp

theorem call_map (m : Proc σ ε α) (f : α → β) (s : σ) :
    (f <$> m).call s = (m.call s).map fun (r, s') => (r.map f, s') := by
  rw [map_eq_pure_bind, call_bind]
  rcases m.call s with _ | ⟨_ | _, _⟩ <;> rfl

theorem call_ofExcept (r : Except ε α) (s : σ) : (ofExcept r : Proc σ ε α).call s = some (r, s) := by
  cases r <;> rfl

theorem call_zoom (part : τ → σ) (put : σ → τ → τ) (m : Proc σ ε α) (t : τ) :
    (m.zoom part put).call t = (m.call (part t)).map fun (r, s) => (r, put s t) := by
  have hm : (m.zoom part put).exec t = ((m.exec (part t)).1, put (m.exec (part t)).2 t) := rfl
  rw [call, call, hm]
  rcases m.exec (part t) with ⟨⟨_ | _⟩ | _, _⟩ <;> rfl

theorem call_attempt {ε' : Type} (m : Proc σ ε α) (s : σ) :
    (m.attempt : Proc σ ε' (Except ε α)).call s = (m.call s).map fun (r, s') => (.ok r, s') := by
  rw [call, call, exec_attempt]
  rcases m.exec s with ⟨⟨_ | _⟩ | _, _⟩ <;> rfl

theorem call_mapErr (m : Proc σ ε α) (f : ε → ε') (s : σ) :
    (m.mapErr f).call s = (m.call s).map fun (r, s') => (r.mapError f, s') := by
  rw [call, call, exec_mapErr]
  rcases m.exec s with ⟨⟨_ | _⟩ | _, _⟩ <;> rfl

/-- The postcondition `Q` holds of the result and of the state after the call of `m` in `s`. -/
def Post (m : Proc σ ε α) (s : σ) (Q : Except (Fault ε) α → σ → Prop) : Prop :=
  Q (m.exec s).1 (m.exec s).2

variable {s : σ} {Q Q' : Except (Fault ε) α → σ → Prop} {c : Prop}

theorem Post.mono (h : m.Post s Q) (hQ : ∀ r s', Q r s' → Q' r s') : m.Post s Q' :=
  hQ _ _ h

theorem Post.and (h : m.Post s Q) (h' : m.Post s Q') : m.Post s fun r s' => Q r s' ∧ Q' r s' := ⟨h, h'⟩

theorem Post.of_exec {r s'} (h : m.Post s Q) (he : m.exec s = (r, s')) : Q r s' := by
  unfold Post at h
  rwa [he] at h

theorem Post.of_call {r s'} (h : m.Post s Q) (hc : m.call s = some (r, s')) : Q (r.mapError Fault.err) s' := by
  rw [call] at hc
  split at hc
  · rename_i he
    cases hc
    exact h.of_exec he
  · rename_i he
    cases hc
    exact h.of_exec he
  · cases hc

theorem Post.call_ok {P : α → σ → Prop} (h : m.Post s fun r s' => ∃ a, r = .ok a ∧ P a s') :
    ∃ a s', m.call s = some (.ok a, s') ∧ P a s' := by
  rw [Post] at h
  rw [call]
  rcases he : m.exec s with ⟨r, s'⟩
  rw [he] at h
  obtain ⟨a, rfl, hP⟩ := h
  exact ⟨a, s', rfl, hP⟩

theorem Post.exists_call {P : Prop} {a} (h : m.Post s fun r _ => r = .ok a ↔ P) :
    (∃ s', m.call s = some (.ok a, s')) ↔ P := by
  rw [Post] at h
  rw [call, ← h]
  rcases m.exec s with ⟨⟨_ | _⟩ | _, _⟩ <;> simp

theorem call_eq_none : m.call s = none ↔ m.Post s fun r _ => r = .error .panic := by
  rw [call, Post]
  rcases m.exec s with ⟨⟨_ | _⟩ | _, _⟩ <;> simp

theorem post_or_panic {P : σ → Prop} :
    (m.Post s fun r s' => r = .error .panic ∨ P s') ↔ ∀ r s', m.call s = some (r, s') → P s' := by
  rw [Post, call]
  rcases m.exec s with ⟨⟨_ | _⟩ | _, _⟩ <;> simp

@[simp] theorem post_zoom {part put t} {Q : Except (Fault ε) α → τ → Prop} :
    (m.zoom part put).Post t Q ↔ m.Post (part t) fun r s => Q r (put s t) := Iff.rfl

theorem post_attempt {Q} : (m.attempt : Proc σ ε' (Except ε α)).Post s Q ↔
      m.Post s fun r s' => match r with
        | .ok a => Q (.ok (.ok a)) s'
        | .error (.err e) => Q (.ok (.error e)) s'
        | .error .panic => Q (.error .panic) s' := by
  simp only [Post, exec_attempt]
  rcases m.exec s with ⟨⟨_ | _⟩ | _, _⟩ <;> exact Iff.rfl

@[simp] theorem post_pure {a} : (pure a : Proc σ ε α).Post s Q ↔ Q (.ok a) s := Iff.rfl

@[simp] theorem post_throw {f} : (throw f : Proc σ ε α).Post s Q ↔ Q (.error f) s := Iff.rfl

@[simp] theorem post_get {Q} : (get : Proc σ ε σ).Post s Q ↔ Q (.ok s) s := Iff.rfl

@[simp] theorem post_set {t Q} : (set t : Proc σ ε PUnit).Post s Q ↔ Q (.ok ⟨⟩) t := Iff.rfl

@[simp] theorem post_modify {f Q} : (modify f : Proc σ ε PUnit).Post s Q ↔ Q (.ok ⟨⟩) (f s) := Iff.rfl

/-- The rest of a method runs only after `Ok`. -/
@[simp] theorem post_bind {Q} : (m >>= f).Post s Q ↔
      m.Post s fun r s' => match r with
        | .ok a => (f a).Post s' Q
        | .error e => Q (.error e) s' := by
  simp only [Post, exec_bind]
  rcases m.exec s with ⟨_ | _, _⟩ <;> exact Iff.rfl

theorem Post.bind {P} {Q} (hm : m.Post s P) (herror : ∀ e s', P (.error e) s' → Q (.error e) s')
    (hok : ∀ a s', P (.ok a) s' → (f a).Post s' Q) : (m >>= f).Post s Q := by
  rw [post_bind]
  refine hm.mono fun r s' hr => ?_
  cases r with
  | error e => exact herror e s' hr
  | ok a => exact hok a s' hr

@[simp] theorem post_map {f : α → β} {Q : Except (Fault ε) β → σ → Prop} :
    (f <$> m).Post s Q ↔ m.Post s fun r s' => Q (r.map f) s' := by
  rw [map_eq_pure_bind, post_bind]
  simp only [Post]
  rcases m.exec s with ⟨_ | _, _⟩ <;> exact Iff.rfl

@[simp] theorem post_mapErr {f} {Q : Except (Fault ε') α → σ → Prop} : (m.mapErr f).Post s Q ↔
      m.Post s fun r s' => match r with
        | .ok a => Q (.ok a) s'
        | .error (.err e) => Q (.error (.err (f e))) s'
        | .error .panic => Q (.error .panic) s' := by
  rw [Post, Post, exec_mapErr]
  rcases m.exec s with ⟨⟨_ | _⟩ | _, _⟩ <;> exact Iff.rfl

@[simp] theorem post_okOr {e o} : (okOr e o : Proc σ ε α).Post s Q ↔ match o with
      | some a => Q (.ok a) s
      | none => Q (.error (.err e)) s := by
  cases o <;> exact Iff.rfl

@[simp] theorem post_okOrPanic {o} : (okOrPanic o : Proc σ ε α).Post s Q ↔ match o with
      | some a => Q (.ok a) s
      | none => Q (.error .panic) s := by
  cases o <;> exact Iff.rfl

@[simp] theorem post_ofExcept {r} : (ofExcept r : Proc σ ε α).Post s Q ↔ Q (r.mapError Fault.err) s := by
  cases r <;> exact Iff.rfl

@[simp] theorem post_failIf [Decidable c] {f Q} :
    (failIf c f : Proc σ ε Unit).Post s Q ↔ if c then Q (.error f) s else Q (.ok ()) s := by
  unfold failIf
  split <;> exact Iff.rfl

theorem post_failIf_bind [Decidable c] {f m} :
    (failIf c f >>= m).Post s Q ↔ if c then Q (.error f) s else (m ()).Post s Q := by
  rw [post_bind, post_failIf]

theorem post_get_bind {m} : ((get : Proc σ ε σ) >>= m).Post s Q ↔ (m s).Post s Q := by
  rw [post_bind, post_get]

theorem post_okOr_bind {e o} {m : β → Proc σ ε α} : (okOr e o >>= m).Post s Q ↔ match o with
      | some b => (m b).Post s Q
      | none => Q (.error (.err e)) s := by
  rw [post_bind, post_okOr]

theorem post_okOrPanic_bind {o} {m : β → Proc σ ε α} : (okOrPanic o >>= m).Post s Q ↔ match o with
      | some b => (m b).Post s Q
      | none => Q (.error .panic) s := by
  rw [post_bind, post_okOrPanic]

theorem post_ofExcept_bind {r} {m : β → Proc σ ε α} : (ofExcept r >>= m).Post s Q ↔ match r with
      | .ok b => (m b).Post s Q
      | .error e => Q (.error (.err e)) s := by
  cases r <;> exact post_bind

theorem post_ite [Decidable c] {m'} : (if c then m else m').Post s Q ↔ if c then m.Post s Q else m'.Post s Q := by
  split <;> exact Iff.rfl

/-! ## What holds however a call ends -/

/-- `P` holds of the value and of the state after `Ok`, `I` of the state after `Err`, and `J` after a panic. -/
def Keeps (I J : σ → Prop) (m : Proc σ ε α) (s : σ) (P : α → σ → Prop) : Prop :=
  m.Post s fun r s' => match r with
    | .ok a => P a s'
    | .error (.err _) => I s'
    | .error .panic => J s'

section

variable {I I' J J' : σ → Prop} {P P' : α → σ → Prop}

theorem keeps_pure {a} (hP : P a s) : (pure a : Proc σ ε α).Keeps I J s P := hP

theorem keeps_throw {e} (hI : I s) : (throw (.err e) : Proc σ ε α).Keeps I J s P := hI

theorem Keeps.imp (h : m.Keeps I J s P) (hI : ∀ s', I s' → I' s') (hJ : ∀ s', J s' → J' s')
    (hP : ∀ a s', P a s' → P' a s') : m.Keeps I' J' s P' := by
  refine Post.mono h fun r s' hr => ?_
  rcases r with (_ | _) | a
  · exact hI s' hr
  · exact hJ s' hr
  · exact hP a s' hr

theorem Keeps.mono (h : m.Keeps I J s P) (hP : ∀ a s', P a s' → P' a s') : m.Keeps I J s P' :=
  h.imp (fun _ => id) (fun _ => id) hP

theorem Keeps.post {K : σ → Prop} (h : m.Keeps I J s P) (hI : ∀ s', I s' → K s') (hJ : ∀ s', J s' → K s')
    (hP : ∀ a s', P a s' → K s') : m.Post s fun _ s' => K s' := by
  refine Post.mono h fun r s' hr => ?_
  rcases r with (_ | _) | a
  · exact hI s' hr
  · exact hJ s' hr
  · exact hP a s' hr

theorem Keeps.bind {Q} (hm : m.Keeps I J s P) (hf : ∀ a s', P a s' → (f a).Keeps I J s' Q) : (m >>= f).Keeps I J s Q :=
  Post.bind hm (fun e _ h => by cases e <;> exact h) fun a s' h => hf a s' h

theorem keeps_get_bind {m} (h : (m s).Keeps I J s P) : ((get : Proc σ ε σ) >>= m).Keeps I J s P :=
  post_get_bind.mpr h

theorem keeps_modify_bind {f m} (h : (m ⟨⟩).Keeps I J (f s) P) : ((modify f : Proc σ ε PUnit) >>= m).Keeps I J s P :=
  post_bind.mpr h

theorem keeps_ofExcept {r} (hI : I s) (hP : ∀ a, r = .ok a → P a s) : (ofExcept r : Proc σ ε α).Keeps I J s P := by
  cases r with
  | error e => exact keeps_throw hI
  | ok a => exact keeps_pure (hP a rfl)

theorem keeps_failIf [Decidable c] {e P} (hI : I s) (hP : ¬ c → P () s) :
    (failIf c (.err e) : Proc σ ε Unit).Keeps I J s P := by
  unfold failIf
  split
  · exact keeps_throw hI
  · exact keeps_pure (hP ‹_›)

end

/-- Every call of `m` relates the states before and after it, however it ends. -/
def Relates (R : σ → σ → Prop) (m : Proc σ ε α) : Prop := ∀ s, m.Post s fun _ s' => R s s'

section

variable {R : σ → σ → Prop} {m : Proc σ ε α}

theorem Relates.mapErr (h : m.Relates R) (f : ε → ε') : (m.mapErr f).Relates R := by
  intro s
  rw [post_mapErr]
  exact Post.mono (h s) fun r _ hr => by rcases r with (_ | _) | _ <;> exact hr

theorem Post.attempt {P : σ → Prop} (h : m.Post s fun _ s' => P s') :
    (m.attempt : Proc σ ε' (Except ε α)).Post s fun _ s' => P s' := by
  rw [post_attempt]
  exact h.mono fun r _ hr => by rcases r with (_ | _) | _ <;> exact hr

theorem Relates.attempt (h : m.Relates R) : (m.attempt : Proc σ ε' (Except ε α)).Relates R := fun s => (h s).attempt

theorem relates_zoom {R : τ → τ → Prop} {part put} (h : ∀ s t, R t (put s t)) :
    (m.zoom part put).Relates R := fun t => h _ t

theorem Post.then [Trans R R R] (hm : m.Post s fun _ s' => R s s') (hf : ∀ a, (f a).Relates R) :
    (m >>= f).Post s fun _ s' => R s s' :=
  hm.bind (fun _ _ h => h) fun a s' h => Post.mono (hf a s') fun _ _ h' => Trans.trans h h'

theorem Relates.bind [Trans R R R] (hm : m.Relates R) (hf : ∀ a, (f a).Relates R) : (m >>= f).Relates R :=
  fun s => (hm s).then hf

theorem Relates.map (h : m.Relates R) (f : α → β) : (f <$> m).Relates R := fun s => post_map.mpr (h s)

variable [Std.Refl R]

theorem relates_pure (a : α) : (pure a : Proc σ ε α).Relates R := fun s => Std.Refl.refl s

theorem relates_throw (f : Fault ε) : (throw f : Proc σ ε α).Relates R := fun s => Std.Refl.refl s

theorem relates_get : (get : Proc σ ε σ).Relates R := fun s => Std.Refl.refl s

theorem relates_okOrPanic (o : Option α) : (okOrPanic o : Proc σ ε α).Relates R := by
  cases o <;> exact Std.Refl.refl

theorem relates_failIf (c : Prop) [Decidable c] (f : Fault ε) : (failIf c f : Proc σ ε Unit).Relates R := by
  unfold failIf
  split <;> exact Std.Refl.refl

end

/-! ## Calls that do not panic -/

def Safe (m : Proc σ ε α) (s : σ) : Prop := m.Post s fun r _ => r ≠ .error .panic

theorem Safe.bind (hm : m.Safe s) (hf : m.Post s fun r s' => ∀ a, r = .ok a → (f a).Safe s') : (m >>= f).Safe s := by
  rw [Safe, post_bind]
  rcases he : m.exec s with ⟨e | a, s'⟩
  · rw [Post, he]
    have hne := hm.of_exec he
    simpa using hne
  · rw [Post, he]
    exact hf.of_exec he a rfl

theorem Safe.mapErr (hm : m.Safe s) (f : ε → ε') : (m.mapErr f).Safe s := by
  rw [Safe, post_mapErr]
  rcases he : m.exec s with ⟨⟨_ | _⟩ | a, s'⟩
  · simp [Post, he]
  · exact absurd rfl (hm.of_exec he)
  · simp [Post, he]

theorem safe_pure (a : α) : (pure a : Proc σ ε α).Safe s := by simp [Safe]

theorem safe_okOr (e : ε) (o : Option α) : (okOr e o : Proc σ ε α).Safe s := by
  cases o <;> simp [Safe]

theorem safe_failIf (c : Prop) [Decidable c] (e : ε) : (failIf c (.err e) : Proc σ ε Unit).Safe s := by
  rw [Safe, post_failIf]
  split <;> simp

end Proc

end PandaGen.Lib
