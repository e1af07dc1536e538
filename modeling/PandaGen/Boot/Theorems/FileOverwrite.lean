import PandaGen.Boot.Lemmas.Files

/-!
# Files that are overwritten
-/

namespace PandaGen.Boot.BareMetalFilesystem

open Lib Hal Storage Proc BlockStorage PersistentFilesystem String

section

variable {D : Type} [BlockDevice D] [LawfulBlockDevice D] [DiskFormat] [SerdeDebug PersistentDirectory]
  [LawfulSerdeJson PersistentDirectory] {fs fs' : BareMetalFilesystem D} {m : Tree}
  {dir : PersistentDirectory} {draw d : FileDraw} {name : Text} {content : List UInt8} {e : TransactionError}

theorem readFileByName_eq (h : Represents fs.storage m) (hroot : m fs.rootDirId = some (.directory dir.toDirectory)) :
    ((readFileByName d name).exec fs).1 = match dir.entries[ofList name]? with
      | none => .error (.err (.storageError "File not found"))
      | some entry => ((readObject d.readTx entry.objectId).exec fs.storage).1 := by
  suffices hpost : (readFileByName d name).Post fs fun r _ => r = _ from hpost
  rw [readFileByName, post_bind, onFs, post_get_bind, post_zoom]
  refine (readDirectory_spends h hroot d.lookupTx).mono ?_
  rintro _ s ⟨rfl, hs, -⟩
  dsimp only
  cases dir.entries[ofList name]? with
  | none => rfl
  | some entry => exact readObject_congr h.settled hs.settled (h.contents_eq hs rfl) _

theorem readFileByName_congr {m'} {dir' : PersistentDirectory} (h : Represents fs.storage m)
    (hroot : m fs.rootDirId = some (.directory dir.toDirectory)) (h' : Represents fs'.storage m')
    (hroot' : m' fs'.rootDirId = some (.directory dir'.toDirectory))
    (hname : dir'.entries[ofList name]? = dir.entries[ofList name]?)
    (hobject : ∀ entry, dir.entries[ofList name]? = some entry → m' entry.objectId = m entry.objectId) :
    ((readFileByName d name).exec fs').1 = ((readFileByName d name).exec fs).1 := by
  rw [readFileByName_eq h hroot, readFileByName_eq h' hroot', hname]
  cases hentry : dir.entries[ofList name]? with
  | none => rfl
  | some entry => exact readObject_congr h.settled h'.settled (h.contents_eq h' (hobject entry hentry)) _

variable [LawfulDiskFormat]

/-- After a failed write the other names read as before. So does its own, exactly if the root does not hold it or has no
free blocks for the directory without it. -/
theorem failed_write_reads (h : Mounted fs dir) (hid : draw.fileId ≠ fs.rootDirId)
    (hapart : ∀ (n : String) entry, dir.entries[n]? = some entry →
      entry.objectId ≠ fs.rootDirId ∧ entry.objectId ≠ draw.fileId) (hc : content ≠ [])
    (hw : (writeFileByName draw name content).exec fs = (.error (.err e), fs')) :
    (∀ other, other ≠ name ∨ ofList other ∉ dir.entries →
      ((readFileByName d other).exec fs').1 = ((readFileByName d other).exec fs).1) ∧
    (∀ [ReliableBlockDevice D], fs.storage.superblock.Compact →
      (((readFileByName d name).exec fs').1 = ((readFileByName d name).exec fs).1 ↔
        ¬ (ofList name ∈ dir.entries ∧ HasRoom fs.storage (unlinked dir name)))) := by
  obtain ⟨m, h, hroot⟩ := h
  rcases hu : (unlink draw.lookupTx draw.unlinked (ofList name) fs.rootDirId 0).exec fs.storage with ⟨r, s⟩
  have hfs : (onFs fun rootId => unlink draw.lookupTx draw.unlinked (ofList name) rootId 0).exec fs =
      (r, { fs with storage := s }) := congrArg (fun p => (p.1, { fs with storage := p.2 })) hu
  rw [writeFileByName, exec_bind, exec_attempt, hfs] at hw
  have hchange := post_changeDirectory h draw.lookupTx draw.unlinked fs.rootDirId (fun dir => unlinked dir name)
    fun dir => (dir.removeEntry (ofList name) 0).1
  rcases hchange.of_exec hu with ⟨dir', rfl, ⟨_, hnode, hshows⟩, hs⟩ | ⟨⟨e', rfl⟩, hs⟩
  · rw [hroot] at hnode
    cases hnode
    obtain rfl : dir' = dir := PersistentDirectory.toDirectory_injective hshows
    have hset := m.set_self fs.rootDirId (.directory (unlinked dir' name).toDirectory)
    obtain ⟨hid', m', hm', hframe⟩ := (post_createFile { fs with storage := s } hs hset hid hc).of_exec hw
    have hroot' : m' fs'.rootDirId = some (.directory (unlinked dir' name).toDirectory) := by
      rw [hid', hframe _ hid.symm]
      exact hset
    have hsame : ∀ other, other ≠ name ∨ ofList other ∉ dir'.entries →
        ((readFileByName d other).exec fs').1 = ((readFileByName d other).exec fs).1 := by
      intro other hother
      refine readFileByName_congr h hroot hm' hroot' ?_ fun entry hentry => ?_
      · rw [getElem?_unlinked]
        split
        · rename_i heq
          rw [Std.ExtTreeMap.getElem?_eq_none (hother.resolve_left (not_not.mpr (ofList_injective heq).symm))]
        · rfl
      · obtain ⟨hne, hnew⟩ := hapart _ entry hentry
        exact (hframe _ hnew).trans (Function.update_of_ne hne ..)
    refine ⟨hsame, fun hcompact => ?_⟩
    obtain ⟨hroom, -⟩ | ⟨-, ⟨_, herr⟩, -⟩ := (changeDirectory_takes h hcompact hroot draw.lookupTx draw.unlinked
      (fun dir => unlinked dir name) fun dir => (dir.removeEntry (ofList name) 0).1).of_exec hu
    · rw [and_iff_left hroom]
      refine ⟨fun heq hmem => ?_, fun hnot => hsame name (.inr hnot)⟩
      rw [readFileByName_eq h hroot, readFileByName_eq hm' hroot', getElem?_unlinked, if_pos rfl,
        Std.ExtTreeMap.getElem?_eq_some_getElem hmem] at heq
      have hread := (post_readObject h.settled d.readTx (dir'.entries[ofList name]).objectId).2.2
      split at hread <;> simp [hread] at heq
    · cases herr
  · obtain ⟨hid', m', hm', hframe⟩ := (post_createFile { fs with storage := s } hs hroot hid hc).of_exec hw
    have hread (n) : ((readFileByName d n).exec fs').1 = ((readFileByName d n).exec fs).1 :=
      readFileByName_congr h hroot hm' (by rw [hid', hframe _ hid.symm, hroot]) rfl fun entry hentry =>
        hframe _ (hapart _ entry hentry).2
    refine ⟨fun other _ => hread other, fun hcompact => iff_of_true (hread name) fun hin => ?_⟩
    obtain ⟨-, hok, -⟩ | ⟨hnone, -⟩ := (changeDirectory_takes h hcompact hroot draw.lookupTx draw.unlinked
      (fun dir => unlinked dir name) fun dir => (dir.removeEntry (ofList name) 0).1).of_exec hu
    · cases hok
    · exact hnone hin.2

end

def drawn (n : Nat) : FileDraw := ⟨⟨n⟩, ⟨n⟩, ⟨⟨n + 1⟩, ⟨n + 1⟩⟩, ⟨n⟩, ⟨⟨n + 2⟩, ⟨n + 2⟩⟩, ⟨⟨n + 3⟩, ⟨n + 3⟩⟩⟩

/-- On a disk with two files and one free block, a failed write unlinks its own file and leaves the other. -/
theorem failed_write_reads_two_files : ∃ fs : BareMetalFilesystem RamDisk,
    PersistentFilesystem.format (RamDisk.new 9 (by decide)) "root" ⟨1⟩ ⟨⟨1⟩, ⟨1⟩⟩ = .ok fs ∧
    let fs := ((createFile (drawn 10) ['a'] [1]).exec fs).2
    let fs := ((createFile (drawn 20) ['b'] [2]).exec fs).2
    ∃ fs', (writeFileByName (drawn 30) ['a'] [3]).exec fs = (.error (.err (.storageError "NoFreeSpace")), fs') ∧
      ((readFileByName (drawn 40) ['b']).exec fs').1 = ((readFileByName (drawn 40) ['b']).exec fs).1 ∧
      ((readFileByName (drawn 40) ['a']).exec fs').1 ≠ ((readFileByName (drawn 40) ['a']).exec fs).1 := by
  have hexec : ∃ fs : BareMetalFilesystem RamDisk,
      PersistentFilesystem.format (RamDisk.new 9 (by decide)) "root" ⟨1⟩ ⟨⟨1⟩, ⟨1⟩⟩ = .ok fs ∧ fs.rootDirId = ⟨1⟩ ∧
      let created := (createFile (drawn 10) ['a'] [1]).exec fs
      let created' := (createFile (drawn 20) ['b'] [2]).exec created.2
      created.1.isOk = true ∧ created.2.rootDirId = ⟨1⟩ ∧ created'.1.isOk = true ∧ created'.2.rootDirId = ⟨1⟩ ∧
      ((writeFileByName (drawn 30) ['a'] [3]).exec created'.2).1 = .error (.err (.storageError "NoFreeSpace")) ∧
      created'.2.storage.superblock.Small ∧ HasRoom created'.2.storage
        (unlinked (linked (linked (.new "root" 0) ['a'] ⟨10⟩) ['b'] ⟨20⟩) ['a']) := by
    decide +kernel
  obtain ⟨fs, hf, hid, ha, hida, hb, hidb, hw, hsmall, hroom⟩ := hexec
  refine ⟨fs, hf, ?_⟩
  have hmounted := ((mounted_format hf).createFile (drawn 10) (by rw [hid]; decide) (by decide) ha).createFile
    (drawn 20) (by rw [hida]; decide) (by decide) hb
  dsimp only at ha hb hw hsmall hroom ⊢
  generalize ((createFile (drawn 20) ['b'] [2]).exec ((createFile (drawn 10) ['a'] [1]).exec fs).2).2 = fs at *
  rcases hexec : (writeFileByName (drawn 30) ['a'] [3]).exec fs with ⟨r, fs'⟩
  obtain rfl : r = _ := hexec ▸ hw
  have hapart : ∀ (n : String) entry, (linked (linked (.new "root" 0) ['a'] ⟨10⟩) ['b'] ⟨20⟩).entries[n]? = some entry →
      entry.objectId ≠ fs.rootDirId ∧ entry.objectId ≠ (drawn 30).fileId := by
    intro n entry hentry
    rw [hidb]
    simp only [linked, PersistentDirectory.addEntry, PersistentDirectory.new, BTreeMap.getElem?_insert,
      Std.ExtTreeMap.getElem?_empty] at hentry
    split at hentry
    · cases hentry
      decide
    · split at hentry <;> cases hentry
      decide
  obtain ⟨hothers, hown⟩ := failed_write_reads (d := drawn 40) hmounted (by rw [hidb]; decide) hapart (by decide) hexec
  refine ⟨fs', rfl, hothers ['b'] (.inl (by decide)), ?_⟩
  rw [ne_eq, hown (Json.compact hsmall), not_not]
  exact ⟨by decide, hroom⟩

/-- The disk has room for a file and for the root without it, but not for the new contents of the file. -/
theorem failed_overwrite_unlinks : ∃ fs : BareMetalFilesystem RamDisk,
    PersistentFilesystem.format (RamDisk.new 7 (by decide)) "root" ⟨1⟩ ⟨⟨1⟩, ⟨1⟩⟩ = .ok fs ∧
    let fs := ((createFile (drawn 10) ['a'] [1]).exec fs).2
    let fs' := ((writeFileByName (drawn 20) ['a'] [2]).exec fs).2
    ((readFileByName (drawn 30) ['a']).exec fs).1 = .ok [1] ∧
    ((writeFileByName (drawn 20) ['a'] [2]).exec fs).1 = .error (.err (.storageError "NoFreeSpace")) ∧
    ((readFileByName (drawn 30) ['a']).exec fs').1 = .error (.err (.storageError "File not found")) := by
  decide +kernel

end PandaGen.Boot.BareMetalFilesystem
