import PandaGen.Kernel.Lemmas.Frame
import Mathlib.Data.Fintype.Defs

/-!
# Accounts

What the charges do to the usage of an identity.
-/

namespace PandaGen.Kernel

open Lib Proc Option BTreeMap

/-! ## Resources -/

inductive Resource where
  | cpuTicks
  | memoryUnits
  | messageCount
  | packetCount
  | storageOps
  | pipelineStages
  deriving DecidableEq

instance : Fintype Resource where
  elems := {.cpuTicks, .memoryUnits, .messageCount, .packetCount, .storageOps, .pipelineStages}
  complete r := by cases r <;> decide

def ResourceBudget.limit (b : ResourceBudget) : Resource → Option Nat
  | .cpuTicks => b.cpuTicks
  | .memoryUnits => b.memoryUnits
  | .messageCount => b.messageCount
  | .packetCount => b.packetCount
  | .storageOps => b.storageOps
  | .pipelineStages => b.pipelineStages

def ResourceUsage.amount (u : ResourceUsage) : Resource → Nat
  | .cpuTicks => u.cpuTicks
  | .memoryUnits => u.memoryUnits
  | .messageCount => u.messageCount
  | .packetCount => u.packetCount
  | .storageOps => u.storageOps
  | .pipelineStages => u.pipelineStages

def IdentityMetadata.WithinBudget (i : IdentityMetadata) : Prop :=
  ∀ budget ∈ i.budget, ∀ r, ∀ limit ∈ budget.limit r, i.usage.amount r ≤ limit

instance (i : IdentityMetadata) : Decidable i.WithinBudget := by
  unfold IdentityMetadata.WithinBudget
  infer_instance

theorem saturatingAdd_le {a b limit} (h : a + b ≤ limit) : saturatingAdd a b ≤ limit :=
  (Nat.min_le_left _ _).trans h

namespace SimulatedKernel

variable {a : Except (Fault KernelError) Unit} {c : Consumption} {r : Resource}

/-! ## Metering -/

structure Consumption.Meters (c : Consumption) (r : Resource) : Prop where
  consumed : ∀ u s, (c.consume u).amount s =
    if s = r then saturatingAdd (u.amount r) c.amount else u.amount s
  accepts : ∀ budget u, c.passedLimit budget (c.usage u) = some none ↔
    ∀ limit ∈ budget.limit r, u.amount r + c.amount ≤ limit ∧ (r = .cpuTicks → u.amount r + c.amount < 2 ^ 64)
  overflows : ∀ budget u, c.Overflows budget (c.usage u) ↔
    ∃ limit ∈ budget.limit r, 2 ^ 64 ≤ u.amount r + c.amount ∧ (r = .cpuTicks ∨ limit ≤ u.amount r)

theorem Consumption.Meters.within (h : c.Meters r) {budget u}
    (haccepts : c.passedLimit budget (c.usage u) = some none) :
    ∀ limit ∈ budget.limit r, (c.consume u).amount r ≤ limit := by
  intro limit hlimit
  rw [h.consumed, if_pos rfl]
  exact saturatingAdd_le ((h.accepts budget u).mp haccepts limit hlimit).1

theorem meters_of_usedUp (hr : r ≠ .cpuTicks) (hlimit : ∀ b, c.limit b = b.limit r)
    (husage : ∀ u, c.usage u = u.amount r) (hamount : c.amount = 1) (hexceeds : c.exceeds = usedUp)
    (hconsume : ∀ u s, (c.consume u).amount s = if s = r then saturatingAdd (u.amount r) 1 else u.amount s) :
    c.Meters r := by
  have hpassed : ∀ budget u, c.passedLimit budget (c.usage u) =
      some ((budget.limit r).filter fun limit => limit ≤ u.amount r) := by
    intro budget u
    rw [Consumption.passedLimit, hlimit, hexceeds, husage]
    cases budget.limit r with
    | none => rfl
    | some limit => simp [usedUp, filter_some]
  constructor
  case consumed => rwa [hamount]
  case accepts =>
    intro budget u
    rw [hpassed, hamount]
    simp [filter_eq_none_iff, hr, Nat.add_one_le_iff]
  case overflows =>
    intro budget u
    rw [Consumption.Overflows, hpassed, hamount, husage]
    cases hbudget : budget.limit r with
    | none => simp
    | some limit =>
      by_cases hle : limit ≤ u.amount r <;> simp [filter_some, hle, hr]

theorem meters_of_sum (hlimit : ∀ b, c.limit b = b.cpuTicks) (husage : ∀ u, c.usage u = u.cpuTicks)
    (hexceeds : c.exceeds = fun usage limit => do some (decide ((← checkedAdd usage c.amount) > limit)))
    (hconsume : ∀ u, c.consume u = u.consumeCpuTicks c.amount) : c.Meters .cpuTicks := by
  have hpassed : ∀ budget u, c.passedLimit budget (c.usage u) = budget.cpuTicks.elim (some none) fun limit =>
      if u.cpuTicks + c.amount < 2 ^ 64 then some (if u.cpuTicks + c.amount > limit then some limit else none)
      else none := by
    intro budget u
    rw [Consumption.passedLimit, hlimit, hexceeds, husage]
    cases budget.cpuTicks with
    | none => rfl
    | some limit =>
      dsimp only [checkedAdd, Option.elim]
      by_cases hfits : u.cpuTicks + c.amount < 2 ^ 64
      · rw [if_pos hfits, if_pos hfits]
        by_cases hgt : u.cpuTicks + c.amount > limit <;> simp [hgt]
      · rw [if_neg hfits, if_neg hfits]
        rfl
  constructor
  case consumed =>
    intro u s
    rw [hconsume]
    cases s <;> rfl
  case accepts =>
    intro budget u
    rw [hpassed]
    dsimp only [ResourceBudget.limit, ResourceUsage.amount]
    cases budget.cpuTicks with
    | none => simp
    | some limit =>
      dsimp only [Option.elim]
      simp [and_comm]
  case overflows =>
    intro budget u
    rw [Consumption.Overflows, hpassed, husage]
    dsimp only [ResourceBudget.limit, ResourceUsage.amount]
    cases budget.cpuTicks with
    | none => simp
    | some limit =>
      dsimp only [Option.elim]
      by_cases hfits : u.cpuTicks + c.amount < 2 ^ 64
      · rw [if_pos hfits]
        by_cases hgt : u.cpuTicks + c.amount > limit
        · simp [hgt]
        · simpa [hgt] using hfits
      · rw [if_neg hfits]
        simpa using hfits

/-! ## The five methods -/

def Charging (m : Proc SimulatedKernel KernelError Unit) (orders : HashOrders) (e : ExecutionId) (r : Resource)
    (amount : Nat) : Prop :=
  ∃ c : Consumption, c.Meters r ∧ c.amount = amount ∧ m = tryConsume orders e c

variable (orders : HashOrders) (e : ExecutionId)

theorem charging_cpuTicks (amount) : Charging (tryConsumeCpuTicks orders e amount) orders e .cpuTicks amount :=
  ⟨_, meters_of_sum (fun _ => rfl) (fun _ => rfl) rfl (fun _ => rfl), rfl, rfl⟩

theorem charging_pipelineStage (stage) : Charging (tryConsumePipelineStage orders e stage) orders e .pipelineStages 1 :=
  ⟨_, meters_of_usedUp (by decide) (fun _ => rfl) (fun _ => rfl) rfl rfl (fun _ s => by cases s <;> rfl), rfl, rfl⟩

theorem charging_packet (op) : Charging (tryConsumePacket orders e op) orders e .packetCount 1 :=
  ⟨_, meters_of_usedUp (by decide) (fun _ => rfl) (fun _ => rfl) rfl rfl (fun _ s => by cases s <;> rfl), rfl, rfl⟩

theorem charging_storageOp (op) : Charging (tryConsumeStorageOp orders e op) orders e .storageOps 1 :=
  ⟨_, meters_of_usedUp (by decide) (fun _ => rfl) (fun _ => rfl) rfl rfl (fun _ s => by cases s <;> rfl), rfl, rfl⟩

/-- How the charge for a message ends. Without a task, or without an identity of the task, nothing is charged. -/
inductive MessageCharged (orders : HashOrders) (k : SimulatedKernel) (task : Option TaskId) :
    Except (Fault KernelError) Unit → SimulatedKernel → Prop
  | free (free : (task.bind fun t => k.taskToIdentity[t]?) = none) : MessageCharged orders k task (.ok ()) k
  | charged {e c r k'} (known : (task.bind fun t => k.taskToIdentity[t]?) = some e) (meters : c.Meters .messageCount)
      (amount : c.amount = 1) (consumed : Consumed orders k e c r k') : MessageCharged orders k task r k'

theorem tryConsumeMessage_charged (k t op) :
    (tryConsumeMessage orders t op).Post k (MessageCharged orders k (some t)) := by
  rw [tryConsumeMessage, post_get_bind]
  cases hidentity : k.taskToIdentity[t]? with
  | none => exact .free hidentity
  | some e =>
    refine (tryConsume_consumed orders k e _).mono fun r k' h => .charged hidentity ?_ rfl h
    exact meters_of_usedUp (by decide) (fun _ => rfl) (fun _ => rfl) rfl rfl (fun _ s => by cases s <;> rfl)

theorem MessageCharged.untouched {orders k k' task} (h : MessageCharged orders k task (.ok ()) k') :
    Untouched k k' := by
  cases h with
  | free => exact .refl k
  | charged _ _ _ consumed => exact consumed.untouched

theorem MessageCharged.used {orders k k' task r} (h : MessageCharged orders k task r k') : Used orders k k' := by
  cases h with
  | free => exact .untouched (.refl k)
  | charged _ _ _ consumed => exact consumed.used

theorem chargeSource_charged (k m) : (chargeSource orders m).Post k (MessageCharged orders k m.source) := by
  rw [chargeSource]
  cases m.source with
  | none => exact .free rfl
  | some t => exact tryConsumeMessage_charged orders k t .send

theorem chargeReceiver_charged (k) : (chargeReceiver orders).Post k (MessageCharged orders k k.currentReceiveTask) := by
  rw [chargeReceiver, post_get_bind]
  cases k.currentReceiveTask with
  | none => exact .free rfl
  | some t => exact tryConsumeMessage_charged orders k t .receive

theorem post_exchange {α : Type} {k orders task} {check : SimulatedKernel → Except KernelError Unit}
    {charge : Proc SimulatedKernel KernelError Unit} {act : Proc SimulatedKernel KernelError α}
    (hcharge : charge.Post k (MessageCharged orders k task)) {Q : Except (Fault KernelError) α → SimulatedKernel → Prop}
    (hrefused : ∀ error, Q (.error (.err error)) k)
    (hunpaid : ∀ f k1, MessageCharged orders k task (.error f) k1 → Q (.error f) k1)
    (hact : check k = .ok () → ∀ k1, MessageCharged orders k task (.ok ()) k1 → act.Post k1 Q) :
    (do ofExcept (check (← get)); charge; act).Post k Q := by
  rw [post_get_bind, post_ofExcept_bind]
  cases hcheck : check k with
  | error => exact hrefused _
  | ok => exact hcharge.bind hunpaid fun _ => hact hcheck

theorem sendMessage_used (k c m) : (sendMessage orders c m).Post k fun _ k' => Used orders k k' := by
  refine post_exchange (chargeSource_charged orders k m) (fun _ => .untouched (.refl k)) (fun _ _ h => h.used)
    fun _ k1 h => (postMessage_mailing k1 c m).mono fun _ _ h' => .untouched (h.untouched.trans h'.untouched)

theorem receiveMessage_used (k c) : (receiveMessage orders c).Post k fun _ k' => Used orders k k' := by
  refine post_exchange (chargeReceiver_charged orders k) (fun _ => .untouched (.refl k)) (fun _ _ h => h.used)
    fun _ k1 h => (dequeueMessage_mailing k1 c).mono fun _ _ h' => .untouched (h.untouched.trans h'.untouched)

/-! ## What charges do to the accounts -/

def Recharged (o o' : Option IdentityMetadata) : Prop :=
  o' = o ∨ ∃ i usage, o = some i ∧ o' = some { i with usage } ∧
    (i.WithinBudget → ({ i with usage } : IdentityMetadata).WithinBudget)

theorem Recharged.trans {o o' o''} (h : Recharged o o') (h' : Recharged o' o'') : Recharged o o'' := by
  obtain rfl | ⟨i, usage, rfl, rfl, hwithin⟩ := h
  · exact h'
  · obtain rfl | ⟨i', usage', heq, rfl, hwithin'⟩ := h'
    · exact .inr ⟨i, usage, rfl, rfl, hwithin⟩
    · cases heq
      exact .inr ⟨i, usage', rfl, rfl, hwithin' ∘ hwithin⟩

structure Charges (k k' : SimulatedKernel) : Prop where
  cancelled : ∀ e ∈ k.cancelledIdentities, e ∈ k'.cancelledIdentities ∧ k'.identityTable[e]? = k.identityTable[e]?
  entry : ∀ e : ExecutionId, Recharged k.identityTable[e]? k'.identityTable[e]?

variable {orders : HashOrders} {e : ExecutionId} {k k' k'' : SimulatedKernel}

theorem Charges.of_eq (hidentities : k'.identityTable = k.identityTable)
    (hcancelled : k'.cancelledIdentities = k.cancelledIdentities) : Charges k k' :=
  ⟨fun e he => ⟨hcancelled ▸ he, by rw [hidentities]⟩, fun e => .inl (by rw [hidentities])⟩

theorem Charges.refl (k) : Charges k k := .of_eq rfl rfl

theorem Charges.trans (h : Charges k k') (h' : Charges k' k'') : Charges k k'' where
  cancelled e he :=
    let ⟨he', hentry⟩ := h.cancelled e he
    ⟨(h'.cancelled e he').1, (h'.cancelled e he').2.trans hentry⟩
  entry e := (h.entry e).trans (h'.entry e)

theorem Consumed.charges (hc : c.Meters r) (h : Consumed orders k e c a k') : Charges k k' := by
  cases h with
  | refused | free | overflow => exact .refl k
  | @spent identity budget audit active known metered within =>
    constructor
    · intro a ha
      refine ⟨ha, ?_⟩
      rw [getElem?_insert, if_neg]
      rintro rfl
      exact active ha
    · intro a
      rw [getElem?_insert]
      split
      · rename_i hea
        subst hea
        refine .inr ⟨identity, _, known, rfl, fun hwithin budget' hbudget' s limit hlimit => ?_⟩
        cases metered.symm.trans hbudget'
        by_cases hs : s = r
        · subst hs
          exact hc.within within limit hlimit
        · show (c.consume identity.usage).amount s ≤ limit
          rw [hc.consumed, if_neg hs]
          exact hwithin budget metered s limit hlimit
      · exact .inl rfl
  | @exhausted _ _ _ _ audit =>
    obtain ⟨_, _, heq, -⟩ := cancelIdentity_parts { k with resourceAudit := audit } orders e c.resourceType
    rw [heq]
    refine ⟨fun a ha => ⟨?_, rfl⟩, fun a => .inl rfl⟩
    exact Std.ExtTreeMap.mem_insert.mpr (.inr ha)

theorem MessageCharged.charges {task} (h : MessageCharged orders k task a k') : Charges k k' := by
  cases h with
  | free => exact .refl k
  | charged _ meters _ consumed => exact consumed.charges meters

theorem Consumed.others (h : Consumed orders k e c a k') {e'} (hne : e ≠ e') :
    k'.identityTable[e']? = k.identityTable[e']? ∧ (e' ∈ k'.cancelledIdentities → e' ∈ k.cancelledIdentities) := by
  cases h with
  | refused | free | overflow => exact ⟨rfl, id⟩
  | spent =>
    refine ⟨?_, id⟩
    rw [getElem?_insert, if_neg hne]
  | @exhausted _ _ _ _ audit =>
    obtain ⟨_, _, heq, -⟩ := cancelIdentity_parts { k with resourceAudit := audit } orders e c.resourceType
    rw [heq]
    refine ⟨rfl, fun hmem => ?_⟩
    rw [Std.ExtTreeMap.mem_insert, Std.LawfulEqOrd.compare_eq_iff_eq] at hmem
    exact hmem.resolve_left hne

theorem Consumed.raised (hc : c.Meters r) (h : Consumed orders k e c (.ok ()) k') :
    e ∉ k.cancelledIdentities ∧ ∀ i, k.identityTable[e]? = some i → ∀ budget ∈ i.budget, ∃ i',
      k'.identityTable[e]? = some i' ∧ i'.usage.amount r = saturatingAdd (i.usage.amount r) c.amount ∧
        ∀ limit ∈ budget.limit r, i'.usage.amount r ≤ limit := by
  cases h with
  | free active unmetered =>
    refine ⟨active, fun i hi budget hbudget => ?_⟩
    rw [hi, bind_some, hbudget] at unmetered
    cases unmetered
  | @spent identity budget audit active known metered within =>
    refine ⟨active, fun i hi budget' hbudget' => ?_⟩
    cases known.symm.trans hi
    cases metered.symm.trans hbudget'
    refine ⟨_, by rw [getElem?_insert, if_pos rfl], ?_, hc.within within⟩
    exact (hc.consumed identity.usage r).trans (if_pos rfl)

/-! ## Memory -/

structure MemoryCharged (e : ExecutionId) (k k' : SimulatedKernel) : Prop where
  cancelled : k'.cancelledIdentities = k.cancelledIdentities
  others : ∀ a : ExecutionId, a ≠ e → k'.identityTable[a]? = k.identityTable[a]?
  entry : Recharged k.identityTable[e]? k'.identityTable[e]?
  usage : ∀ i i', k.identityTable[e]? = some i → k'.identityTable[e]? = some i' →
    ∀ r, r ≠ .memoryUnits → i'.usage.amount r = i.usage.amount r

theorem MemoryCharged.of_eq (hidentities : k'.identityTable = k.identityTable)
    (hcancelled : k'.cancelledIdentities = k.cancelledIdentities) : MemoryCharged e k k' where
  cancelled := hcancelled
  others a _ := by rw [hidentities]
  entry := .inl (by rw [hidentities])
  usage i i' hi hi' r _ := by
    rw [hidentities, hi] at hi'
    cases hi'
    rfl

theorem memoryCharged_insert {identity limit units} (known : k.identityTable[e]? = some identity)
    (hlimit : identity.budget.bind ResourceBudget.memoryUnits = some limit)
    (hfits : identity.usage.memoryUnits ≤ limit → identity.usage.memoryUnits + units ≤ limit) :
    MemoryCharged e k { k with
      identityTable :=
        k.identityTable.insert e { identity with usage := identity.usage.consumeMemoryUnits units } } := by
  obtain ⟨budget, hbudget, hmemory⟩ := bind_eq_some_iff.mp hlimit
  have hamount : ∀ r, r ≠ .memoryUnits → (identity.usage.consumeMemoryUnits units).amount r =
      identity.usage.amount r := by
    intro r hr
    cases r <;> first | rfl | exact absurd rfl hr
  constructor
  case cancelled => rfl
  case others =>
    intro a ha
    rw [getElem?_insert, if_neg (Ne.symm ha)]
  case entry =>
    rw [getElem?_insert, if_pos rfl]
    refine .inr ⟨identity, _, known, rfl, fun hwithin budget' hbudget' s l hl => ?_⟩
    cases hbudget.symm.trans hbudget'
    by_cases hs : s = .memoryUnits
    · subst hs
      cases hmemory.symm.trans hl
      exact saturatingAdd_le (hfits (hwithin budget hbudget .memoryUnits limit hmemory))
    · show (identity.usage.consumeMemoryUnits units).amount s ≤ l
      rw [hamount s hs]
      exact hwithin budget hbudget s l hl
  case usage =>
    intro i i' hi hi' r hr
    rw [getElem?_insert, if_pos rfl] at hi'
    cases hi'
    cases known.symm.trans hi
    exact hamount r hr

theorem MemoryTaken.charged {size a} (h : MemoryTaken k e size a k') : MemoryCharged e k k' := by
  cases h with
  | free | refused => exact .of_eq rfl rfl
  | taken known metered within => exact memoryCharged_insert known metered (by omega)

end SimulatedKernel

end PandaGen.Kernel
