import PandaGen.Boot.MinimalEditor
import PandaGen.Storage.Lemmas.Space

/-!
# Files by name in the root directory
-/

namespace PandaGen.Boot.BareMetalFilesystem

open Lib Hal Storage Proc BlockStorage PersistentFilesystem Std.ExtTreeMap String

section

variable {D : Type} [SerdeJson PersistentDirectory] (dir : PersistentDirectory) (name : Text) (fileId : ObjectId)

def unlinked : PersistentDirectory := (dir.removeEntry (ofList name) 0).2

def linked : PersistentDirectory := dir.addEntry (ofList name) ⟨ofList name, fileId, .blob⟩ 0

/-- There are contents, and free blocks for them, for the root with the name and, before that, for the root without the
name, which is written only if there is room for it. -/
def RoomForFile (s : BlockStorage D) (content : List UInt8) : Prop :=
  content ≠ [] ∧ (toVec (linked dir name fileId)).isSome ∧
    (if HasRoom s (unlinked dir name) then directoryBlocks (unlinked dir name) else 0) +
      (blocksFor content.length + directoryBlocks (linked dir name fileId)) ≤ s.freeBlocks.card

instance (s : BlockStorage D) (content) : Decidable (RoomForFile dir name fileId s content) :=
  inferInstanceAs (Decidable (_ ∧ _ ∧ _))

omit [SerdeJson PersistentDirectory] in
theorem getElem?_unlinked (n : String) :
    (unlinked dir name).entries[n]? = if ofList name = n then none else dir.entries[n]? := by
  simp only [unlinked, PersistentDirectory.removeEntry]
  split <;> exact BTreeMap.getElem?_erase ..

omit [SerdeJson PersistentDirectory] in
theorem linked_unlinked : linked (unlinked dir name) name fileId = linked dir name fileId := by
  have hentries : ∀ entry, (dir.entries.erase (ofList name)).insert (ofList name) entry =
      dir.entries.insert (ofList name) entry := by
    intro entry
    refine ext_getElem? fun n => ?_
    simp only [BTreeMap.getElem?_insert, BTreeMap.getElem?_erase]
    split <;> rfl
  simp only [linked, unlinked, PersistentDirectory.addEntry, PersistentDirectory.removeEntry]
  split <;> simp [hentries]

end

variable {D : Type} [BlockDevice D] [LawfulBlockDevice D] [DiskFormat] [SerdeDebug PersistentDirectory]
  [LawfulSerdeJson PersistentDirectory] [LawfulDiskFormat]
  {fs : BareMetalFilesystem D} {m : Tree}
  {dir : PersistentDirectory} {draw : FileDraw} {name : Text} {content : List UInt8}

theorem post_createFile (fs : BareMetalFilesystem D) (h : Represents fs.storage m)
    (hroot : m fs.rootDirId = some (.directory dir.toDirectory))
    (hid : draw.fileId ≠ fs.rootDirId) (hc : content ≠ []) : (createFile draw name content).Post fs fun r fs' =>
      fs'.rootDirId = fs.rootDirId ∧ match r with
        | .ok _ => Represents fs'.storage ((m.set draw.fileId (.file content)).set fs.rootDirId
            (.directory (linked dir name draw.fileId).toDirectory))
        | .error _ => ∃ m', Represents fs'.storage m' ∧ ∀ o ≠ draw.fileId, m' o = m o := by
  rw [createFile, post_bind, onFs, post_get_bind, post_zoom]
  refine (post_writeFile h draw.fileId draw.written hc).mono ?_
  rintro _ s (⟨rfl, hs⟩ | ⟨⟨e, rfl⟩, hs⟩)
  · dsimp only
    rw [post_bind, onFs, post_get_bind, post_zoom, link]
    refine (post_changeDirectory hs _ _ _ (fun dir => linked dir name draw.fileId) fun _ => ()).mono ?_
    rintro _ s' (⟨dir', rfl, ⟨_, hnode, hshows⟩, hs'⟩ | ⟨⟨e, rfl⟩, hs'⟩)
    · rw [Tree.set, Function.update_of_ne hid.symm, hroot] at hnode
      cases hnode
      obtain rfl : dir' = dir := PersistentDirectory.toDirectory_injective hshows
      exact ⟨rfl, hs'⟩
    · exact ⟨rfl, _, hs', fun o ho => Function.update_of_ne ho ..⟩
  · exact ⟨rfl, m, hs, fun _ _ => rfl⟩

/-- The storage represents a tree whose root is the directory `dir`. -/
def Mounted (fs : BareMetalFilesystem D) (dir : PersistentDirectory) : Prop :=
  ∃ m, Represents fs.storage m ∧ m fs.rootDirId = some (.directory dir.toDirectory)

theorem mounted_format {device : D} {owner rootDirId draw}
    (hf : PersistentFilesystem.format device owner rootDirId draw = .ok fs) : Mounted fs (.new owner 0) := by
  have hid : fs.rootDirId = rootDirId := by
    rw [PersistentFilesystem.format] at hf
    split at hf
    · cases hf
    · cases hf
    · split at hf <;> cases hf
      rfl
  refine ⟨_, format_represents hf, ?_⟩
  rw [hid, Tree.format, Tree.set_self]
  exact congrArg (fun d => some (Node.directory d)) (Directory.ext (funext fun _ => getElem?_empty.symm) rfl rfl)

theorem Mounted.createFile (draw) (h : Mounted fs dir) (hid : draw.fileId ≠ fs.rootDirId) (hc : content ≠ [])
    (hok : ((createFile draw name content).exec fs).1.isOk = true) :
    Mounted ((createFile draw name content).exec fs).2 (linked dir name draw.fileId) := by
  obtain ⟨m, hm, hroot⟩ := h
  obtain ⟨hsame, hstored⟩ := post_createFile fs hm hroot hid hc
  rcases hexec : (BareMetalFilesystem.createFile draw name content).exec fs with ⟨_ | _, fs'⟩
  · rw [hexec] at hok
    cases hok
  · rw [hexec] at hsame hstored
    exact ⟨_, hstored, by rw [hsame, Tree.set_self]⟩

variable [ReliableBlockDevice D]

theorem createFile_room (fs : BareMetalFilesystem D) (h : Represents fs.storage m)
    (hcompact : fs.storage.superblock.Compact)
    (hroot : m fs.rootDirId = some (.directory dir.toDirectory)) (hid : draw.fileId ≠ fs.rootDirId) :
    (createFile draw name content).Post fs fun r _ => r.isOk = true ↔ content ≠ [] ∧
      (toVec (linked dir name draw.fileId)).isSome ∧
        blocksFor content.length + directoryBlocks (linked dir name draw.fileId) ≤ fs.storage.freeBlocks.card := by
  rw [createFile, post_bind, onFs, post_get_bind, post_zoom]
  by_cases hc : content = []
  · subst hc
    rw [writeFile, post_bind]
    refine (writeObject_nil h.settled.pending draw.written draw.fileId).mono ?_
    rintro (_ | _) _ hr
    · exact iff_of_false Bool.false_ne_true fun hall => hall.1 rfl
    · cases hr
  have htakes : (writeFile draw.fileId draw.written content).Post fs.storage
      (Takes (blocksFor content.length) fs.storage) := by
    rw [writeFile, post_bind]
    refine (writeObject_takes h.settled hcompact draw.written draw.fileId hc).mono ?_
    rintro _ s' (⟨hroom, ⟨_, rfl⟩, hspend⟩ | ⟨hshort, ⟨_, rfl⟩, hspend⟩)
    · exact .inl ⟨hroom, ⟨_, rfl⟩, hspend⟩
    · exact .inr ⟨hshort, ⟨_, rfl⟩, hspend⟩
  refine ((post_writeFile h draw.fileId draw.written hc).and htakes).mono ?_
  rintro _ s ⟨⟨rfl, hs⟩ | ⟨⟨e, rfl⟩, hs⟩, ⟨hroom, ⟨_, hok⟩, hspend⟩ | ⟨hshort, ⟨_, herr⟩, hspend⟩⟩
  · have hfree := hspend.free
    dsimp only
    rw [post_bind, onFs, post_get_bind, post_zoom, link]
    have hset := (Function.update_of_ne hid.symm (some (.file content)) m).trans hroot
    refine (changeDirectory_takes hs (hspend.compact hcompact) hset _ _ (fun dir => linked dir name draw.fileId)
      fun _ => ()).mono ?_
    rintro _ s' (⟨hroom', rfl, -⟩ | ⟨hnone, ⟨_, rfl⟩, -⟩)
    · exact iff_of_true rfl ⟨hc, hroom'.1, by have := hroom'.2; omega⟩
    · exact iff_of_false Bool.false_ne_true fun hall => hnone ⟨hall.2.1, by have := hall.2.2; omega⟩
  · cases herr
  · cases hok
  · exact iff_of_false Bool.false_ne_true fun hall => by have := hall.2.2; omega

theorem writeFileByName_room (h : Mounted fs dir) (hcompact : fs.storage.superblock.Compact)
    (hid : draw.fileId ≠ fs.rootDirId) : (writeFileByName draw name content).Post fs fun r _ =>
      r.isOk = true ↔ RoomForFile dir name draw.fileId fs.storage content := by
  obtain ⟨m, h, hroot⟩ := h
  rw [writeFileByName, post_bind, post_attempt, onFs, post_get_bind, post_zoom, unlink]
  refine ((post_changeDirectory h _ _ _ (fun dir => unlinked dir name) _).and
    (changeDirectory_takes h hcompact hroot _ _ (fun dir => unlinked dir name) _)).mono ?_
  rintro _ s ⟨⟨dir', rfl, ⟨_, hnode, hshows⟩, hs⟩ | ⟨⟨e, rfl⟩, hs⟩, ⟨hroom, hok, hspend⟩ | ⟨hnone, ⟨_, herr⟩, hspend⟩⟩
  · rw [hroot] at hnode
    cases hnode
    obtain rfl : dir' = dir := PersistentDirectory.toDirectory_injective hshows
    have hfree := hspend.free
    refine (createFile_room { fs with storage := s } hs (hspend.compact hcompact)
      (m.set_self ..) hid).mono fun _ _ hcreate => hcreate.trans ?_
    rw [linked_unlinked, RoomForFile, if_pos hroom]
    exact and_congr_right fun _ => and_congr_right fun _ => by dsimp only; omega
  · cases herr
  · cases hok
  · have hfree := hspend.free
    refine (createFile_room { fs with storage := s } hs (hspend.compact hcompact) hroot hid).mono
      fun _ _ hcreate => hcreate.trans ?_
    rw [RoomForFile, if_neg hnone]
    exact and_congr_right fun _ => and_congr_right fun _ => by dsimp only; omega

end PandaGen.Boot.BareMetalFilesystem
