import Mathlib.Tactic.SplitIfs

/-!
# Schema migrations

The data of an object goes through one step for each version on its way.
-/

namespace PandaGen.Storage

/-- Versions start at 1. -/
abbrev ObjectSchemaVersion := UInt32

inductive MigrationError where
  | unsupportedMigration (fromVersion toVersion : ObjectSchemaVersion)
  | invalidData (msg : String)
  | missingVersion (required : ObjectSchemaVersion)

/-- The step at index 0 leads from version 1 to version 2. -/
structure SequentialMigrator where
  migrations : List (List UInt8 → Except MigrationError (List UInt8))

namespace SequentialMigrator

def new : SequentialMigrator := ⟨[]⟩

def addMigration (self : SequentialMigrator) (migration : List UInt8 → Except MigrationError (List UInt8)) :
    SequentialMigrator := ⟨self.migrations ++ [migration]⟩

def maxReasonableVersion : UInt32 := 1000000

def minVersionIdx : Nat := 1

def applyMigration (self : SequentialMigrator) (currentData : List UInt8) (i : Nat) :
    Except MigrationError (List UInt8) :=
  match self.migrations[i]? with
  | none => .error (.missingVersion (.ofNat (i + 2)))
  | some migration => migration currentData

/-- The loop over `(from_idx - 1)..(to_idx - 1)`. -/
def applyMigrations (self : SequentialMigrator) (fromIdx toIdx : Nat) (data : List UInt8) :
    Except MigrationError (List UInt8) :=
  (List.range' (fromIdx - 1) (toIdx - 1 - (fromIdx - 1))).foldlM self.applyMigration data

def migrate (self : SequentialMigrator) (fromVersion toVersion : ObjectSchemaVersion) (data : List UInt8) :
    Except MigrationError (List UInt8) :=
  if fromVersion = toVersion then .ok data
  else if fromVersion > toVersion then .error (.unsupportedMigration fromVersion toVersion)
  else
    let fromIdx := fromVersion.toNat
    let toIdx := toVersion.toNat
    if fromVersion > maxReasonableVersion ∨ toVersion > maxReasonableVersion then
      .error (.unsupportedMigration fromVersion toVersion)
    else if fromIdx < minVersionIdx ∨ toIdx > self.migrations.length + 1 then
      .error (.unsupportedMigration fromVersion toVersion)
    else self.applyMigrations fromIdx toIdx data

variable {m : SequentialMigrator} {a b c : ObjectSchemaVersion}

theorem applyMigrations_trans {i j k} (hij : i ≤ j) (hjk : j ≤ k) (data) :
    m.applyMigrations i k data = m.applyMigrations i j data >>= m.applyMigrations j k := by
  have hmid : i - 1 + (j - 1 - (i - 1)) = j - 1 := by omega
  have hlength : k - 1 - (i - 1) = j - 1 - (i - 1) + (k - 1 - (j - 1)) := by omega
  rw [applyMigrations, hlength, ← List.range'_append_1, hmid, List.foldlM_append]
  rfl

def Covers (m : SequentialMigrator) (i j : Nat) : Prop :=
  i < j → 1 ≤ i ∧ j ≤ 1000000 ∧ j ≤ m.migrations.length + 1

theorem migrate_eq_ok (hab : a ≤ b) {data r} :
    m.migrate a b data = .ok r ↔ m.Covers a.toNat b.toNat ∧ m.applyMigrations a.toNat b.toNat data = .ok r := by
  have hmax : maxReasonableVersion.toNat = 1000000 := rfl
  rw [UInt32.le_iff_toNat_le] at hab
  simp only [migrate, minVersionIdx, Covers, gt_iff_lt, ← UInt32.toNat_inj, UInt32.lt_iff_toNat_lt, hmax]
  split_ifs with heq hgt hlarge hrange
  · simp [heq, applyMigrations, pure, Except.pure]
  · omega
  · simp only [false_iff, not_and]
    omega
  · simp only [false_iff, not_and]
    omega
  · simp only [iff_and_self]
    omega

/-- A migration over a version in between is one migration. -/
theorem migrate_trans (hab : a ≤ b) (hbc : b ≤ c) (data r : List UInt8) :
    m.migrate a c data = .ok r ↔ ∃ d, m.migrate a b data = .ok d ∧ m.migrate b c d = .ok r := by
  simp only [migrate_eq_ok hab, migrate_eq_ok hbc, migrate_eq_ok (UInt32.le_trans hab hbc)]
  rw [UInt32.le_iff_toNat_le] at hab hbc
  rw [applyMigrations_trans hab hbc]
  have hcovers : m.Covers a.toNat c.toNat ↔ m.Covers a.toNat b.toNat ∧ m.Covers b.toNat c.toNat := by
    simp only [Covers]
    omega
  cases m.applyMigrations a.toNat b.toNat data with
  | error => simp [bind, Except.bind]
  | ok d => simp [bind, Except.bind, hcovers, and_assoc]

theorem migrate_trans_two : ∃ m : SequentialMigrator, m.migrate 1 3 [] = .ok [1, 2] ∧
      ∃ d, m.migrate 1 2 [] = .ok d ∧ m.migrate 2 3 d = .ok [1, 2] :=
  ⟨(new.addMigration fun data => .ok (data ++ [1])).addMigration fun data => .ok (data ++ [2]), rfl,
    (migrate_trans (by decide) (by decide) _ _).mp rfl⟩

end SequentialMigrator

end PandaGen.Storage
