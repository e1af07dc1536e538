import PandaGen.Kernel.MemorySession
import PandaGen.Lib.Tokens

/-!
# The tables of the address space manager

The tables hold what the calls so far say: the capabilities that were issued for spaces that are still there,
and in each of these spaces the regions that were allocated in it.
-/

namespace PandaGen.Kernel

open Lib Proc AddressSpaceManager Option List Std.ExtTreeMap Function

variable {s : AddressSpaceId} {e : ExecutionId} {cap : AddressSpaceCap}

namespace AddressSpaceManager

variable {m m' : AddressSpaceManager}

/-! ## What a call does -/

structure Quiet (m m' : AddressSpaceManager) : Prop where
  spaces : m'.spaces = m.spaces
  executionToSpace : m'.executionToSpace = m.executionToSpace
  nextCapId : m'.nextCapId = m.nextCapId
  spaceCaps : m'.spaceCaps = m.spaceCaps
  regionCaps : m'.regionCaps = m.regionCaps
  loggedSpaces : loggedSpaces m'.auditLog = loggedSpaces m.auditLog
  loggedRegions : loggedRegions m'.auditLog = loggedRegions m.auditLog

theorem Quiet.refl (m) : Quiet m m := ⟨rfl, rfl, rfl, rfl, rfl, rfl, rfl⟩

def Allocatable (m : AddressSpaceManager) (cap : AddressSpaceCap) (e : ExecutionId) : Prop :=
  m.spaceCaps[cap.capId]? = some (cap.spaceId, e) ∧ cap.spaceId ∈ m.spaces

def Accessible (m : AddressSpaceManager) (cap : MemoryRegionCap) (kind : MemoryAccessType) (e : ExecutionId) : Prop :=
  m.regionCaps[cap.capId]? = some (cap.regionId, cap.spaceId, e) ∧
    ∃ space, m.spaces[cap.spaceId]? = some space ∧
      ∃ region, space.findRegion cap.regionId = some region ∧ region.permissions.allows kind = true

def withSpace (m : AddressSpaceManager) (s : AddressSpaceId) (e : ExecutionId) (now : Nat) : AddressSpaceManager :=
  { m with
    spaces := m.spaces.insert s ⟨s, []⟩
    executionToSpace := m.executionToSpace.insert e s
    nextCapId := m.nextCapId + 1
    spaceCaps := m.spaceCaps.insert m.nextCapId (s, e) }.record (.spaceCreated s e now)

def withRegion (m : AddressSpaceManager) (space : AddressSpace) (s : AddressSpaceId) (region : MemoryRegion)
    (e : ExecutionId) (now : Nat) : AddressSpaceManager :=
  { m with
    spaces := m.spaces.insert s (space.addRegion region)
    nextCapId := m.nextCapId + 1
    regionCaps := m.regionCaps.insert m.nextCapId (region.regionId, s, e) }.record
      (.regionAllocated s region.regionId region.sizeBytes region.permissions now)

theorem createAddressSpace_eq_some {now} (h : m.createAddressSpace s e now = some (cap, m')) :
    cap = ⟨s, m.nextCapId⟩ ∧ m' = m.withSpace s e now := by
  obtain ⟨next, hnext, heq⟩ := bind_eq_some_iff.mp h
  obtain ⟨-, rfl⟩ := checkedAdd_eq_some.mp hnext
  cases heq
  exact ⟨rfl, rfl⟩

theorem allocateRegion_post (m cap region e now) : (allocateRegion cap region e now).Post m fun r m' => match r with
      | .ok cap' => m.Allocatable cap e ∧ m.nextCapId + 1 < 2 ^ 64 ∧
          cap' = ⟨cap.spaceId, region.regionId, m.nextCapId⟩ ∧
          ∃ space, m.spaces[cap.spaceId]? = some space ∧ m' = m.withRegion space cap.spaceId region e now
      | .error (.err _) => ¬ m.Allocatable cap e ∧ m' = m
      | .error .panic => m.Allocatable cap e ∧ 2 ^ 64 ≤ m.nextCapId + 1 := by
  rw [allocateRegion, post_get_bind, post_okOr_bind]
  cases hcap : m.spaceCaps[cap.capId]? with
  | none => exact ⟨fun h => (some_ne_none _ (h.1.symm.trans hcap)).elim, rfl⟩
  | some entry =>
    obtain ⟨s, owner⟩ := entry
    have hentry : m.Allocatable cap e → s = cap.spaceId ∧ owner = e := fun h => by
      have := some.inj (hcap.symm.trans h.1)
      exact ⟨congrArg Prod.fst this, congrArg Prod.snd this⟩
    dsimp only
    rw [post_failIf_bind]
    split
    · rename_i hs
      exact ⟨fun h => hs (hentry h).1, rfl⟩
    rename_i hs
    rw [post_failIf_bind]
    split
    · rename_i ho
      exact ⟨fun h => ho (hentry h).2, rfl⟩
    rename_i ho
    obtain rfl := not_not.mp hs
    obtain rfl := not_not.mp ho
    rw [post_okOr_bind]
    cases hspace : m.spaces[cap.spaceId]? with
    | none =>
      refine ⟨fun h => ?_, rfl⟩
      have hmem := h.2
      rw [mem_iff_isSome_getElem?, hspace] at hmem
      cases hmem
    | some space =>
      dsimp only
      rw [post_okOrPanic_bind, checkedAdd]
      have hmem : cap.spaceId ∈ m.spaces := by
        rw [mem_iff_isSome_getElem?, hspace]
        rfl
      by_cases hnext : m.nextCapId + 1 < 2 ^ 64
      · rw [if_pos hnext]
        exact ⟨⟨hcap, hmem⟩, hnext, rfl, space, rfl, rfl⟩
      · rw [if_neg hnext]
        exact ⟨⟨hcap, hmem⟩, Nat.not_lt.mp hnext⟩

theorem accessRegion_post (m cap kind e now) :
    (accessRegion cap kind e now).Post m fun r m' => Quiet m m' ∧ match r with
      | .ok _ => m.Accessible cap kind e
      | .error f => f ≠ .panic ∧ ¬ m.Accessible cap kind e := by
  rw [accessRegion, post_get_bind, post_okOr_bind]
  cases hcap : m.regionCaps[cap.capId]? with
  | none => exact ⟨.refl m, by simp, fun h => (some_ne_none _ (h.1.symm.trans hcap)).elim⟩
  | some entry =>
    obtain ⟨r, s, owner⟩ := entry
    have hentry : m.Accessible cap kind e → r = cap.regionId ∧ s = cap.spaceId ∧ owner = e := fun h => by
      have := some.inj (hcap.symm.trans h.1)
      cases this
      exact ⟨rfl, rfl, rfl⟩
    dsimp only
    rw [post_failIf_bind]
    split
    · rename_i hne
      exact ⟨.refl m, by simp, fun h => hne.elim (· (hentry h).1) (· (hentry h).2.1)⟩
    rename_i hne
    rw [not_or, not_not, not_not] at hne
    rw [post_failIf_bind]
    split
    · rename_i ho
      exact ⟨.refl m, by simp, fun h => ho (hentry h).2.2⟩
    rename_i ho
    obtain ⟨rfl, rfl⟩ := hne
    obtain rfl := not_not.mp ho
    rw [post_okOr_bind]
    cases hspace : m.spaces[cap.spaceId]? with
    | none => exact ⟨.refl m, by simp, fun ⟨_, space, hs, _⟩ => by rw [hspace] at hs; cases hs⟩
    | some space =>
      dsimp only
      rw [post_okOr_bind]
      cases hregion : space.findRegion cap.regionId with
      | none =>
        refine ⟨.refl m, by simp, fun ⟨_, _, hs, region, hr, _⟩ => ?_⟩
        cases hspace.symm.trans hs
        rw [hregion] at hr
        cases hr
      | some region =>
        have hiff : m.Accessible cap kind owner ↔ region.permissions.allows kind = true := by
          constructor
          · rintro ⟨_, _, hs, _, hr, hallows⟩
            cases hspace.symm.trans hs
            cases hregion.symm.trans hr
            exact hallows
          · exact fun hallows => ⟨hcap, space, hspace, region, hregion, hallows⟩
        have hquiet : Quiet m (m.record (.accessAttempted cap.spaceId cap.regionId kind
            (region.permissions.allows kind) now)) :=
          ⟨rfl, rfl, rfl, rfl, rfl, by simp [loggedSpaces, record], by simp [loggedRegions, record]⟩
        dsimp only
        rw [post_bind, post_set]
        dsimp only
        rw [post_failIf, hiff]
        split
        · rename_i hdenied
          exact ⟨hquiet, by simp, by simp [hdenied]⟩
        · rename_i hallowed
          exact ⟨hquiet, by simpa using hallowed⟩

theorem accessRegion_ok_iff {cap kind now} :
    (∃ m', (accessRegion cap kind e now).call m = some (.ok (), m')) ↔ m.Accessible cap kind e := by
  rw [call]
  rcases he : (accessRegion cap kind e now).exec m with ⟨r, m'⟩
  have hr := ((accessRegion_post m cap kind e now).of_exec he).2
  cases r with
  | ok => exact ⟨fun _ => hr, fun _ => ⟨m', rfl⟩⟩
  | error f =>
    refine ⟨?_, fun haccessible => absurd haccessible hr.2⟩
    rintro ⟨m'', hcall⟩
    cases f <;> cases hcall

theorem activateSpace_post (m drawn e now) : (activateSpace drawn e now).Post m fun _ m' => Quiet m m' := by
  rw [activateSpace, post_get_bind, post_okOr_bind]
  cases m.executionToSpace[e]? with
  | none => exact .refl m
  | some s =>
    dsimp only
    rw [post_set]
    exact ⟨rfl, rfl, rfl, rfl, rfl, by simp [loggedSpaces, record], by simp [loggedRegions, record]⟩

inductive Effect (m : AddressSpaceManager) : MemoryCall → MemoryAnswer → AddressSpaceManager → Prop
  | created {s e now} : Effect m (.create s e now) (.space ⟨s, m.nextCapId⟩) (m.withSpace s e now)
  | allocated {cap region e now space} : m.spaceCaps[cap.capId]? = some (cap.spaceId, e) →
      m.spaces[cap.spaceId]? = some space →
      Effect m (.allocate cap region e now) (.region (.ok ⟨cap.spaceId, region.regionId, m.nextCapId⟩))
        (m.withRegion space cap.spaceId region e now)
  | refused {cap region e now error} : Effect m (.allocate cap region e now) (.region (.error error)) m
  | quiet {call r m'} : Quiet m m' → Effect m call (.checked r) m'
  | destroyed {e now} : Effect m (.destroy e now) .destroyed (m.destroyAddressSpace e now)

theorem perform_effect {call a} (h : m.perform call = some (a, m')) : Effect m call a m' := by
  cases call with
  | create s e now =>
    obtain ⟨⟨cap, m1⟩, hcreate, ⟨⟩⟩ := map_eq_some_iff.mp h
    obtain ⟨rfl, rfl⟩ := createAddressSpace_eq_some hcreate
    exact .created
  | allocate cap region e now =>
    obtain ⟨⟨r, m1⟩, hcall, ⟨⟩⟩ := map_eq_some_iff.mp h
    have hpost := (allocateRegion_post m cap region e now).of_call hcall
    cases r with
    | ok cap' =>
      obtain ⟨hcap, -, rfl, space, hspace, rfl⟩ := hpost
      exact .allocated hcap.1 hspace
    | error e =>
      obtain ⟨-, rfl⟩ := hpost
      exact .refused
  | access cap kind e now =>
    obtain ⟨⟨r, m1⟩, hcall, ⟨⟩⟩ := map_eq_some_iff.mp h
    exact .quiet ((accessRegion_post m cap kind e now).of_call hcall).1
  | activate drawn e now =>
    obtain ⟨⟨r, m1⟩, hcall, ⟨⟩⟩ := map_eq_some_iff.mp h
    exact .quiet ((activateSpace_post m drawn e now).of_call hcall)
  | destroy e now =>
    cases h
    exact .destroyed

end AddressSpaceManager

/-! ## The tables and the calls -/

namespace MemoryHistory

variable {tr : List MemoryEvent} {region : MemoryRegion} {h : MemoryHistory} {m : AddressSpaceManager}

theorem of_concat (tr event) : of (tr ++ [event]) = (of tr).after event := by
  simp [of]

theorem after_create (h : MemoryHistory) (s e) (now : Nat) (cap : AddressSpaceCap) :
    h.after (.create s e now, .space cap) = { h with
        issued := h.issued ++ [(cap, e)]
        current := update h.current e (some cap.spaceId) } := by
  simp [after, currentAfter, destroyedBy, MemoryEvent.issued, MemoryEvent.allocated]

theorem after_allocate (h : MemoryHistory) (cap region e) (now : Nat) (cap') :
    h.after (.allocate cap region e now, .region (.ok cap')) =
      { h with allocated := h.allocated ++ [(cap', region, e)] } := by
  simp [after, currentAfter, destroyedBy, MemoryEvent.issued, MemoryEvent.allocated]

theorem after_refused (h : MemoryHistory) (cap region e) (now : Nat) (error) :
    h.after (.allocate cap region e now, .region (.error error)) = h := by
  simp [after, currentAfter, destroyedBy, MemoryEvent.issued, MemoryEvent.allocated]

theorem after_checked (h : MemoryHistory) (call r) : h.after (call, .checked r) = h := by
  cases call <;> simp [after, currentAfter, destroyedBy, MemoryEvent.issued, MemoryEvent.allocated]

theorem after_destroy (h : MemoryHistory) (e) (now : Nat) : h.after (.destroy e now, .destroyed) =
      { h with
        current := update h.current e none
        destroyed := h.destroyed ++ (h.current e).toList } := by
  simp [after, currentAfter, destroyedBy, MemoryEvent.issued, MemoryEvent.allocated]

theorem of_eq_flatMap (tr) :
    (of tr).issued = tr.flatMap MemoryEvent.issued ∧ (of tr).allocated = tr.flatMap MemoryEvent.allocated := by
  induction tr using reverseRecOn with
  | nil => exact ⟨rfl, rfl⟩
  | append_singleton tr event ih => simp [of_concat, after, ih]

theorem mem_issued : (cap, e) ∈ (of tr).issued ↔ ∃ s now, (.create s e now, .space cap) ∈ tr := by
  rw [(of_eq_flatMap tr).1, mem_flatMap]
  constructor
  · rintro ⟨event, hmem, hissued⟩
    unfold MemoryEvent.issued at hissued
    split at hissued
    · cases mem_singleton.mp hissued
      exact ⟨_, _, hmem⟩
    · cases hissued
  · rintro ⟨s, now, hmem⟩
    exact ⟨_, hmem, mem_singleton.mpr rfl⟩

theorem mem_allocated {cap} :
    (cap, region, e) ∈ (of tr).allocated ↔
      ∃ spaceCap now, (.allocate spaceCap region e now, .region (.ok cap)) ∈ tr := by
  rw [(of_eq_flatMap tr).2, mem_flatMap]
  constructor
  · rintro ⟨event, hmem, hallocated⟩
    unfold MemoryEvent.allocated at hallocated
    split at hallocated
    · cases mem_singleton.mp hallocated
      exact ⟨_, _, hmem⟩
    · cases hallocated
  · rintro ⟨spaceCap, now, hmem⟩
    exact ⟨_, hmem, mem_singleton.mpr rfl⟩

def spaceTokens (h : MemoryHistory) : List (Nat × AddressSpaceId × ExecutionId) :=
  h.issued.map fun (cap, e) => (cap.capId, cap.spaceId, e)

theorem mem_spaceTokens : (cap.capId, cap.spaceId, e) ∈ h.spaceTokens ↔ (cap, e) ∈ h.issued := by
  simp only [spaceTokens, List.mem_map, Prod.mk.injEq, Prod.exists]
  constructor
  · rintro ⟨⟨s, n⟩, e', hmem, rfl, rfl, rfl⟩
    exact hmem
  · exact fun hmem => ⟨cap, e, hmem, rfl, rfl, rfl⟩

def regionTokens (h : MemoryHistory) : List (Nat × MemoryRegionId × AddressSpaceId × ExecutionId) :=
  h.allocated.map fun (cap, _, e) => (cap.capId, cap.regionId, cap.spaceId, e)

structure Agrees (h : MemoryHistory) (m : AddressSpaceManager) : Prop where
  current : ∀ e, m.executionToSpace[e]? = h.current e
  spaceCaps : Tokens.Reflects m.spaceCaps h.spaceTokens (fun p => p.1 ∈ h.destroyed) m.nextCapId
  regionCaps : Tokens.Reflects m.regionCaps h.regionTokens (fun p => p.2.1 ∈ h.destroyed) m.nextCapId
  spaces : ∀ s, m.spaces[s]? = if s ∈ h.created ∧ s ∉ h.destroyed then some ⟨s, h.regionsOf s⟩ else none
  loggedSpaces : loggedSpaces m.auditLog = h.created
  loggedRegions : loggedRegions m.auditLog = h.regionIds
  distinct : h.regionIds.Nodup
  allocated : ∀ a ∈ h.allocated, a.1.regionId = a.2.1.regionId ∧
    ∃ cap, (cap, a.2.2) ∈ h.issued ∧ cap.spaceId = a.1.spaceId
  current_issued : ∀ e s, h.current e = some s → ∃ cap, (cap, e) ∈ h.issued ∧ cap.spaceId = s
  created_distinct : h.created.Nodup
  destroyed_created : ∀ s ∈ h.destroyed, s ∈ h.created

theorem mem_created (hmem : (cap, e) ∈ h.issued) : cap.spaceId ∈ h.created :=
  mem_map.mpr ⟨(cap, e), hmem, rfl⟩

section

variable (ha : Agrees h m)
include ha

theorem Agrees.current_created (hcurrent : h.current e = some s) : s ∈ h.created := by
  obtain ⟨cap, hmem, rfl⟩ := ha.current_issued e s hcurrent
  exact mem_created hmem

theorem Agrees.allocated_created : ∀ a ∈ h.allocated, a.1.spaceId ∈ h.created := by
  intro a hmem
  obtain ⟨-, cap, hcap, hspace⟩ := ha.allocated a hmem
  exact hspace ▸ mem_created hcap

theorem Agrees.owner_unique {cap' e'} (hmem : (cap, e) ∈ h.issued) (hmem' : (cap', e') ∈ h.issued)
    (hspace : cap.spaceId = cap'.spaceId) : e = e' := by
  have := inj_on_of_nodup_map ha.created_distinct hmem hmem' hspace
  exact congrArg Prod.snd this

end

theorem agrees_new : Agrees empty .new where
  current _ := by simp [new, empty]
  spaceCaps := Tokens.reflects_empty _
  regionCaps := Tokens.reflects_empty _
  spaces _ := by simp [new, empty, created]
  loggedSpaces := rfl
  loggedRegions := rfl
  distinct := nodup_nil
  allocated := by simp [empty]
  current_issued := by simp [empty]
  created_distinct := nodup_nil
  destroyed_created := by simp [empty]

variable {h : MemoryHistory} {m m' : AddressSpaceManager}

section

variable (ha : Agrees h m)
include ha

theorem Agrees.quiet (hq : m.Quiet m') : Agrees h m' :=
  { ha with
    current := hq.executionToSpace ▸ ha.current
    spaceCaps := hq.spaceCaps ▸ hq.nextCapId ▸ ha.spaceCaps
    regionCaps := hq.regionCaps ▸ hq.nextCapId ▸ ha.regionCaps
    spaces := hq.spaces ▸ ha.spaces
    loggedSpaces := hq.loggedSpaces.trans ha.loggedSpaces
    loggedRegions := hq.loggedRegions.trans ha.loggedRegions }

theorem Agrees.withSpace (hs : s ∉ h.created) (e) (now : Nat) :
    Agrees (h.after (.create s e now, .space ⟨s, m.nextCapId⟩)) (m.withSpace s e now) := by
  have hdestroyed : s ∉ h.destroyed := fun hd => hs (ha.destroyed_created s hd)
  have hregions : h.regionsOf s = [] := by
    rw [regionsOf, map_eq_nil_iff, filter_eq_nil_iff]
    intro a hmem hspace
    exact hs (of_decide_eq_true hspace ▸ ha.allocated_created a hmem)
  have hcreated : ∀ current, created { h with issued := h.issued ++ [(⟨s, m.nextCapId⟩, e)], current } =
      h.created ++ [s] := fun _ => map_append
  rw [after_create]
  exact { ha with
    current := fun a => by
      simp only [AddressSpaceManager.withSpace, record, BTreeMap.getElem?_insert, update_apply, ha.current, eq_comm]
    spaceCaps := by
      rw [spaceTokens, map_append]
      exact ha.spaceCaps.issue hdestroyed
    regionCaps := ha.regionCaps.mono (Nat.le_succ _)
    spaces := fun a => by
      rw [hcreated]
      simp only [AddressSpaceManager.withSpace, record, BTreeMap.getElem?_insert, ha.spaces, mem_append, mem_singleton]
      by_cases has : s = a
      · subst has
        simp only [hdestroyed, or_true, not_false_eq_true, and_self, if_true]
        exact congrArg (fun regions => some (AddressSpace.mk s regions)) hregions.symm
      · have has' : a ≠ s := fun he => has he.symm
        simp [has, has', regionsOf]
    loggedSpaces := by
      rw [hcreated, ← ha.loggedSpaces]
      simp [AddressSpaceManager.withSpace, record, AddressSpaceManager.loggedSpaces]
    loggedRegions := by
      refine Eq.trans ?_ ha.loggedRegions
      simp [AddressSpaceManager.withSpace, record, AddressSpaceManager.loggedRegions]
    allocated := fun a hmem => by
      obtain ⟨hid, cap, hcap, hspace⟩ := ha.allocated a hmem
      exact ⟨hid, cap, mem_append_left _ hcap, hspace⟩
    current_issued := fun a t hcurrent => by
      simp only [update_apply] at hcurrent
      split at hcurrent
      · rename_i hae
        cases hcurrent
        exact ⟨_, mem_append_right _ (mem_singleton.mpr (by rw [hae])), rfl⟩
      · obtain ⟨cap, hmem, hcap⟩ := ha.current_issued a t hcurrent
        exact ⟨cap, mem_append_left _ hmem, hcap⟩
    created_distinct := by
      rw [hcreated]
      exact Nodup.append ha.created_distinct (nodup_singleton _) (by simpa using hs)
    destroyed_created := fun t ht => by
      rw [hcreated]
      exact mem_append_left _ (ha.destroyed_created t ht) }

theorem Agrees.withRegion {space} (hcap : (cap, e) ∈ h.issued)
    (hspace : m.spaces[cap.spaceId]? = some space) (hregion : region.regionId ∉ h.regionIds) (now : Nat) :
    Agrees (h.after (.allocate cap region e now, .region (.ok ⟨cap.spaceId, region.regionId, m.nextCapId⟩)))
      (m.withRegion space cap.spaceId region e now) := by
  have hlive := ha.spaces cap.spaceId
  rw [hspace] at hlive
  have hmem : cap.spaceId ∈ h.created ∧ cap.spaceId ∉ h.destroyed := by
    by_contra hnot
    rw [if_neg hnot] at hlive
    cases hlive
  rw [if_pos hmem, some.injEq] at hlive
  rw [after_allocate]
  exact { ha with
    spaceCaps := ha.spaceCaps.mono (Nat.le_succ _)
    regionCaps := by
      rw [regionTokens, map_append]
      exact ha.regionCaps.issue hmem.2
    spaces := fun a => by
      simp only [AddressSpaceManager.withRegion, record, BTreeMap.getElem?_insert, ha.spaces]
      by_cases has : cap.spaceId = a
      · subst has
        refine Eq.trans ?_ (if_pos hmem).symm
        simp [hlive, AddressSpace.addRegion, regionsOf]
      · simp [has, regionsOf]
        rfl
    loggedSpaces := by
      refine Eq.trans ?_ ha.loggedSpaces
      simp [AddressSpaceManager.withRegion, record, AddressSpaceManager.loggedSpaces]
    loggedRegions := by
      rw [regionIds, map_append, ← regionIds, ← ha.loggedRegions]
      simp [AddressSpaceManager.withRegion, record, AddressSpaceManager.loggedRegions]
    distinct := by
      rw [regionIds, map_append]
      exact Nodup.append ha.distinct (nodup_singleton _) (by simpa [regionIds] using hregion)
    allocated := fun a hmem' => by
      rcases mem_append.mp hmem' with hmem' | hmem'
      · exact ha.allocated a hmem'
      · rw [mem_singleton.mp hmem']
        exact ⟨rfl, cap, hcap, rfl⟩ }

theorem Agrees.destroyAddressSpace (e) (now : Nat) :
    Agrees (h.after (.destroy e now, .destroyed)) (m.destroyAddressSpace e now) := by
  rw [AddressSpaceManager.destroyAddressSpace, ha.current e, after_destroy]
  cases hcurrent : h.current e with
  | none =>
    have hupdate : update h.current e none = h.current := by
      rw [← hcurrent]
      exact update_eq_self e h.current
    simpa [hupdate] using ha
  | some s =>
    exact { ha with
      current := fun a => by
        simp only [record, BTreeMap.getElem?_erase, update_apply, ha.current, eq_comm]
      spaceCaps := ha.spaceCaps.revoke fun p => by simp
      regionCaps := ha.regionCaps.revoke fun p => by simp
      spaces := fun a => by
        show (m.spaces.erase s)[a]? = if a ∈ h.created ∧ a ∉ h.destroyed ++ [s] then some ⟨a, h.regionsOf a⟩ else none
        rw [BTreeMap.getElem?_erase, ha.spaces]
        by_cases has : s = a
        · subst has
          simp
        · have has' : a ≠ s := fun he => has he.symm
          simp [has, has']
      loggedSpaces := by
        refine Eq.trans ?_ ha.loggedSpaces
        simp [record, AddressSpaceManager.loggedSpaces]
      loggedRegions := by
        refine Eq.trans ?_ ha.loggedRegions
        simp [record, AddressSpaceManager.loggedRegions]
      current_issued := fun a t ht => by
        simp only [update_apply] at ht
        split at ht
        · cases ht
        · exact ha.current_issued a t ht
      destroyed_created := fun t ht => by
        rcases mem_append.mp ht with ht | ht
        · exact ha.destroyed_created t ht
        · rw [mem_singleton.mp ht]
          exact ha.current_created hcurrent }

theorem Agrees.step {call a} (hfresh : m.Fresh call)
    (hs : AddressSpaceManager.machine.step m call = some (a, m')) : Agrees (h.after (call, a)) m' := by
  cases AddressSpaceManager.perform_effect hs with
  | created =>
    have hs : _ ∉ AddressSpaceManager.loggedSpaces m.auditLog := hfresh
    rw [ha.loggedSpaces] at hs
    exact ha.withSpace hs _ _
  | allocated hcap hspace =>
    have hr : _ ∉ AddressSpaceManager.loggedRegions m.auditLog := hfresh
    rw [ha.loggedRegions] at hr
    exact ha.withRegion (mem_spaceTokens.mp ((ha.spaceCaps.entry _ _).mp hcap).1) hspace hr _
  | refused =>
    rw [after_refused]
    exact ha
  | quiet hq =>
    rw [after_checked]
    exact ha.quiet hq
  | destroyed => exact ha.destroyAddressSpace _ _

omit ha in
theorem agrees_of_run (hrun : machine.Run (fun m call _ => m.Fresh call) .new tr m) : Agrees (of tr) m := by
  have := hrun.invariantTrace (P := fun tr m => Agrees (of tr) m) (fun tr m call a m' ha hs hg => ?_) [] agrees_new
  · simpa using this
  · rw [of_concat]
    exact ha.step hg hs

/-! ## What the tables allow -/

theorem Agrees.allocatable_iff : m.Allocatable cap e ↔ (cap, e) ∈ h.issued ∧ cap.spaceId ∉ h.destroyed := by
  rw [Allocatable, ha.spaceCaps.entry, mem_spaceTokens]
  refine ⟨And.left, fun hmem => ⟨hmem, ?_⟩⟩
  rw [mem_iff_isSome_getElem?, ha.spaces, if_pos ⟨mem_created hmem.1, hmem.2⟩]
  rfl

theorem Agrees.findRegion {cap} (hmem : (cap, region, e) ∈ h.allocated) :
    AddressSpace.findRegion ⟨cap.spaceId, h.regionsOf cap.spaceId⟩ cap.regionId = some region := by
  have hid : cap.regionId = region.regionId := (ha.allocated _ hmem).1
  have hin : region ∈ h.regionsOf cap.spaceId :=
    List.mem_map.mpr ⟨(cap, region, e), List.mem_filter.mpr ⟨hmem, by simp⟩, rfl⟩
  have hnodup : ((h.regionsOf cap.spaceId).map MemoryRegion.regionId).Nodup := by
    refine List.Nodup.sublist ?_ ha.distinct
    rw [regionsOf, regionIds, List.map_map]
    exact List.filter_sublist.map _
  rw [AddressSpace.findRegion, hid]
  cases hfind : (h.regionsOf cap.spaceId).find? fun r => r.regionId = region.regionId with
  | none => exact absurd (List.find?_eq_none.mp hfind region hin) (by simp)
  | some found =>
    have hfound : found.regionId = region.regionId := by simpa using List.find?_some hfind
    rw [List.inj_on_of_nodup_map hnodup (List.mem_of_find?_eq_some hfind) hin hfound]

theorem Agrees.accessible_iff {cap kind} :
    m.Accessible cap kind e ↔ ∃ region, (cap, region, e) ∈ h.allocated ∧ cap.spaceId ∉ h.destroyed ∧
      region.permissions.allows kind = true := by
  have htoken : (cap.capId, cap.regionId, cap.spaceId, e) ∈ h.regionTokens ↔
      ∃ region, (cap, region, e) ∈ h.allocated := by
    simp only [regionTokens, List.mem_map, Prod.mk.injEq, Prod.exists]
    constructor
    · rintro ⟨⟨s, r, n⟩, region, e', hmem, rfl, rfl, rfl, rfl⟩
      exact ⟨region, hmem⟩
    · rintro ⟨region, hmem⟩
      exact ⟨cap, region, e, hmem, rfl, rfl, rfl, rfl⟩
  rw [Accessible, ha.regionCaps.entry, htoken]
  have hspace : ∀ {region}, (cap, region, e) ∈ h.allocated → cap.spaceId ∉ h.destroyed →
      m.spaces[cap.spaceId]? = some ⟨cap.spaceId, h.regionsOf cap.spaceId⟩ := fun hmem hlive => by
    rw [ha.spaces, if_pos ⟨ha.allocated_created _ hmem, hlive⟩]
  constructor
  · rintro ⟨⟨⟨region, hmem⟩, hlive⟩, space, hs, found, hfound, hallows⟩
    cases (hspace hmem hlive).symm.trans hs
    cases (ha.findRegion hmem).symm.trans hfound
    exact ⟨region, hmem, hlive, hallows⟩
  · rintro ⟨region, hmem, hlive, hallows⟩
    exact ⟨⟨⟨region, hmem⟩, hlive⟩, _, hspace hmem hlive, region, ha.findRegion hmem, hallows⟩

end

end MemoryHistory

end PandaGen.Kernel
