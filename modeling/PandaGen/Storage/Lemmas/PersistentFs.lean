import PandaGen.Storage.Lemmas.Objects
import PandaGen.Storage.Tree

/-!
# The persistent filesystem refines a tree

The latest version of each object holds the text of the object of the tree.
-/

namespace PandaGen.Storage

open Hal Lib Proc Std.ExtTreeMap Function PersistentDirectory Prod

/-! ## Directories -/

namespace PersistentDirectory

variable (dir : PersistentDirectory)

theorem toDirectory_addEntry (entry : DirectoryEntry) (timestamp : Nat) :
    (dir.addEntry entry.name entry timestamp).toDirectory = dir.toDirectory.link entry timestamp := by
  refine Directory.ext (funext fun name => ?_) rfl rfl
  simp only [addEntry, toDirectory, Directory.link, BTreeMap.getElem?_insert, update_apply, eq_comm]

theorem toDirectory_removeEntry (name : String) (timestamp : Nat) :
    (dir.removeEntry name timestamp).2.toDirectory = dir.toDirectory.unlink name timestamp := by
  have hentries : (fun name' => (dir.entries.erase name)[name']?) = update dir.toDirectory.entries name none := by
    funext name'
    simp only [BTreeMap.getElem?_erase, update_apply, toDirectory, eq_comm]
  simp only [removeEntry, Directory.unlink]
  split
  · rename_i h
    exact Directory.ext hentries rfl (if_pos h).symm
  · rename_i h
    exact Directory.ext hentries rfl (if_neg h).symm

theorem toDirectory_injective : Injective toDirectory := by
  rintro ⟨entries, parent, metadata⟩ ⟨entries', parent', metadata'⟩ h
  obtain ⟨hentries, rfl, rfl⟩ := Directory.mk.inj h
  have hentries : entries = entries' := ext_getElem? fun name => congrFun hentries name
  rw [hentries]

theorem lists_listEntries : Lists dir.toDirectory.entries dir.listEntries := by
  constructor
  · refine List.Pairwise.imp ?_ (ordered_keys_toList (t := dir.entries))
    intro a b h
    exact compareOfLessAndEq_eq_lt.mp h
  · intro name e
    exact mem_toList_iff_getElem?_eq_some

end PersistentDirectory

theorem Node.HasText.unique [SerdeJson PersistentDirectory] {node : Node} {text text'} (h : node.HasText text)
    (h' : node.HasText text') : text = text' := by
  cases node with
  | directory d =>
    obtain ⟨dir, rfl, hj⟩ := h
    obtain ⟨dir', hd, hj'⟩ := h'
    obtain rfl := toDirectory_injective hd
    exact Option.some.inj (hj.symm.trans hj')
  | file bytes => exact Eq.trans h (Eq.symm h')

namespace PersistentFilesystem

open BlockStorage

variable {D : Type} [BlockDevice D]

/-! ## Trees -/

section

variable [DiskFormat] [SerdeJson PersistentDirectory] {s s' : BlockStorage D} {m : Tree}

structure Represents (s : BlockStorage D) (m : Tree) : Prop where
  settled : s.Settled
  absent : ∀ o, m o = none → s.view.contents o = none
  present : ∀ o node, m o = some node → ∃ bytes, s.view.contents o = some bytes ∧ node.HasText bytes

theorem Represents.of_view (h : Represents s m) (hs' : s'.Settled) (hv : s'.view = s.view) : Represents s' m :=
  ⟨hs', by rw [hv]; exact h.absent, by rw [hv]; exact h.present⟩

theorem Represents.set (h : Represents s m) (hs' : s'.Settled) {o v bytes} (hv : s'.view = s.view.write ⟨o, v, bytes⟩)
    {node} (hn : node.HasText bytes) : Represents s' (m.set o node) := by
  refine ⟨hs', fun o' => ?_, fun o' node' => ?_⟩
  · rw [hv, View.contents_write, Tree.set, update_apply]
    by_cases ho : o' = o
    · simp [ho]
    · rw [if_neg ho, if_neg (Ne.symm ho)]
      exact h.absent o'
  · rw [hv, View.contents_write, Tree.set, update_apply]
    by_cases ho : o' = o
    · rw [if_pos ho, if_pos ho.symm]
      rintro ⟨⟩
      exact ⟨bytes, rfl, hn⟩
    · rw [if_neg ho, if_neg (Ne.symm ho)]
      exact h.present o' node'

theorem Represents.contents_eq {m'} (h : Represents s m) (h' : Represents s' m') {o} (ho : m' o = m o) :
    s'.view.contents o = s.view.contents o := by
  cases hm : m o with
  | none => rw [h.absent o hm, h'.absent o (ho.trans hm)]
  | some node =>
    obtain ⟨bytes, hb, ht⟩ := h.present o node hm
    obtain ⟨bytes', hb', ht'⟩ := h'.present o node (ho.trans hm)
    rw [hb, hb', ht.unique ht']

theorem Represents.exists_node (h : Represents s m) {o bytes} (hb : s.view.contents o = some bytes) :
    ∃ node, m o = some node ∧ node.HasText bytes := by
  cases hm : m o with
  | none =>
    rw [h.absent o hm] at hb
    cases hb
  | some node =>
    obtain ⟨bytes', hb', ht⟩ := h.present o node hm
    rw [hb] at hb'
    cases hb'
    exact ⟨node, rfl, ht⟩

end

/-! ## Files and directories -/

variable [LawfulBlockDevice D] [DiskFormat] [SerdeDebug PersistentDirectory] {s s' : BlockStorage D}
  {m m' : Tree}

theorem post_readFile (h : Represents s m) (t : TransactionId) (o : ObjectId) :
    (readFile t o).Post s fun r s' => Represents s' m ∧
      ((∃ text, r = .ok text ∧ m.HasText o text) ∨ ((∃ e, r = .error (.err e)) ∧ ∀ text, ¬ m.HasText o text)) := by
  refine (post_readObject h.settled t o).mono ?_
  rintro r s' ⟨hs', hv, hr⟩
  refine ⟨h.of_view hs' hv, ?_⟩
  cases hb : s.view.contents o with
  | some bytes =>
    rw [hb] at hr
    exact .inl ⟨bytes, hr, h.exists_node hb⟩
  | none =>
    rw [hb] at hr
    refine .inr ⟨⟨_, hr⟩, ?_⟩
    rintro text ⟨node, hm, _⟩
    obtain ⟨bytes, hb', _⟩ := h.present o node hm
    rw [hb] at hb'
    cases hb'

variable [LawfulSerdeJson PersistentDirectory]

theorem post_readDirectory (h : Represents s m) (t : TransactionId) (o : ObjectId) :
    (readDirectory t o).Post s fun r s' => Represents s' m ∧
      ((∃ dir, r = .ok dir ∧ m.Shows o dir.toDirectory) ∨ ((∃ e, r = .error (.err e)) ∧ ∀ d, ¬ m.Shows o d)) := by
  rw [readDirectory, post_bind]
  refine (post_readFile h t o).mono ?_
  rintro _ s' ⟨hs', ⟨text, rfl, node, hm, ht⟩ | ⟨⟨e, rfl⟩, hnone⟩⟩
  · dsimp only
    cases node with
    | directory d =>
      obtain ⟨dir, rfl, hj⟩ := ht
      rw [LawfulSerdeJson.fromSlice_toVec hj]
      exact ⟨hs', .inl ⟨dir, rfl, .directory _, hm, rfl⟩⟩
    | file bytes =>
      obtain rfl : text = bytes := ht
      cases hj : (fromSlice text : Option PersistentDirectory) with
      | some dir => exact ⟨hs', .inl ⟨dir, rfl, .file text, hm, dir, hj, rfl⟩⟩
      | none =>
        refine ⟨hs', .inr ⟨⟨_, rfl⟩, ?_⟩⟩
        rintro d ⟨node, hm', hd⟩
        rw [hm] at hm'
        cases hm'
        obtain ⟨dir, hj', _⟩ := hd
        rw [hj] at hj'
        cases hj'
  · refine ⟨hs', .inr ⟨⟨e, rfl⟩, ?_⟩⟩
    rintro d ⟨node, hm, _⟩
    obtain ⟨bytes, _, ht⟩ := h.present o node hm
    exact hnone bytes ⟨node, hm, ht⟩

variable [LawfulDiskFormat]

omit [LawfulSerdeJson PersistentDirectory] in
theorem post_writeFile (h : Represents s m) (o : ObjectId) (draw : Draw) {content} (hc : content ≠ []) :
    (writeFile o draw content).Post s fun r s' =>
      (r = .ok o ∧ Represents s' (m.set o (.file content))) ∨ ((∃ e, r = .error (.err e)) ∧ Represents s' m) := by
  rw [writeFile, post_bind]
  refine (post_writeObject h.settled draw o hc).mono ?_
  rintro _ s' ⟨hs', ⟨rfl, hv⟩ | ⟨⟨e, rfl⟩, hv⟩⟩
  · exact .inl ⟨rfl, h.set hs' hv rfl⟩
  · exact .inr ⟨⟨e, rfl⟩, h.of_view hs' hv⟩

theorem post_writeDirectory (h : Represents s m) (draw o dir) : (writeDirectory draw o dir).Post s fun r s' =>
      (r = .ok draw.version ∧ Represents s' (m.set o (.directory dir.toDirectory))) ∨
        ((∃ e, r = .error (.err e)) ∧ Represents s' m) := by
  rw [writeDirectory, post_bind, post_okOr]
  cases hj : toVec dir with
  | none => exact .inr ⟨⟨_, rfl⟩, h⟩
  | some json =>
    refine (post_writeObject h.settled draw o (toVec_ne_nil hj)).mono ?_
    rintro _ s' ⟨hs', ⟨rfl, hv⟩ | ⟨⟨e, rfl⟩, hv⟩⟩
    · exact .inl ⟨rfl, h.set hs' hv ⟨dir, rfl, hj⟩⟩
    · exact .inr ⟨⟨e, rfl⟩, h.of_view hs' hv⟩

/-! ## Calls -/

/-- Not a write of an empty file, for which the commit panics. -/
def Call.Proper : Call → Prop
  | .writeFile _ _ content => content ≠ []
  | _ => True

instance : (call : Call) → Decidable call.Proper
  | .writeFile _ _ content => inferInstanceAs (Decidable (content ≠ []))
  | .mkdir .. | .link .. | .unlink .. | .list .. | .readFile .. | .readDirectory .. => .isTrue trivial

def Simulates (m : Tree) (call : Call) (r : Except (Fault TransactionError) Reply) (s' : BlockStorage D) : Prop :=
  ∃ o m', r = o.mapError Fault.err ∧ m.Step call o m' ∧ Represents s' m'

theorem post_changeDirectory {α : Type} (h : Represents s m) (t : TransactionId) (draw : Draw) (o : ObjectId)
    (f : PersistentDirectory → PersistentDirectory) (g : PersistentDirectory → α) : (do
      let dir ← readDirectory t o
      let _ ← writeDirectory draw o (f dir)
      pure (g dir) : Proc (BlockStorage D) TransactionError α).Post s fun r s' =>
      (∃ dir, r = .ok (g dir) ∧ m.Shows o dir.toDirectory ∧
        Represents s' (m.set o (.directory (f dir).toDirectory))) ∨
      ((∃ e, r = .error (.err e)) ∧ Represents s' m) := by
  rw [post_bind]
  refine (post_readDirectory h t o).mono ?_
  rintro _ s1 ⟨h1, ⟨dir, rfl, hdir⟩ | ⟨⟨e, rfl⟩, _⟩⟩
  · dsimp only
    rw [post_bind]
    refine (post_writeDirectory h1 draw o (f dir)).mono ?_
    rintro _ s2 (⟨rfl, h2⟩ | ⟨⟨e, rfl⟩, h2⟩)
    · exact .inl ⟨dir, rfl, hdir, h2⟩
    · exact .inr ⟨⟨e, rfl⟩, h2⟩
  · exact .inr ⟨⟨e, rfl⟩, h1⟩

theorem mkdir_simulates (h : Represents s m) (newDirId : ObjectId) (created : Draw) (readTx : TransactionId)
    (linked : Draw) (name : String) (parentDirId : ObjectId) (owner : String) (timestamp : Nat) :
    (run (.mkdir newDirId created readTx linked name parentDirId owner timestamp)).Post s
      (Simulates m (.mkdir newDirId created readTx linked name parentDirId owner timestamp)) := by
  rw [run, post_map, mkdir, post_bind]
  refine (post_writeDirectory h created newDirId _).mono ?_
  rintro _ s1 (⟨rfl, h1⟩ | ⟨⟨e, rfl⟩, h1⟩)
  · have h1 : Represents s1 (m.set newDirId (.directory (.empty owner timestamp (some parentDirId)))) := by
      exact h1
    refine (post_changeDirectory h1 readTx linked parentDirId
      (fun dir => dir.addEntry name ⟨name, newDirId, .map⟩ timestamp) fun _ => newDirId).mono ?_
    rintro _ s2 (⟨dir, rfl, hdir, h2⟩ | ⟨⟨e, rfl⟩, h2⟩)
    · refine ⟨.ok (.created newDirId), _, rfl, .mkdir hdir, ?_⟩
      rw [← toDirectory_addEntry]
      exact h2
    · exact ⟨.error e, _, rfl, .orphaned, h2⟩
  · exact ⟨.error e, m, rfl, .failed (by simp [Tree.Finds]), h1⟩

theorem run_simulates (h : Represents s m) {call} (hp : call.Proper) : (run call).Post s (Simulates m call) := by
  cases call with
  | mkdir => exact mkdir_simulates h ..
  | link readTx draw name dirId objectId kind timestamp =>
    rw [run, post_map]
    refine (post_changeDirectory h readTx draw dirId
      (fun dir => dir.addEntry name ⟨name, objectId, kind⟩ timestamp) fun _ => ()).mono ?_
    rintro _ s' (⟨dir, rfl, hdir, h'⟩ | ⟨⟨e, rfl⟩, h'⟩)
    · refine ⟨.ok .linked, _, rfl, .link hdir, ?_⟩
      rw [← toDirectory_addEntry]
      exact h'
    · exact ⟨.error e, m, rfl, .failed (by simp [Tree.Finds]), h'⟩
  | unlink readTx draw name dirId timestamp =>
    rw [run, post_map]
    refine (post_changeDirectory h readTx draw dirId (fun dir => (dir.removeEntry name timestamp).2)
      fun dir => (dir.removeEntry name timestamp).1).mono ?_
    rintro _ s' (⟨dir, rfl, hdir, h'⟩ | ⟨⟨e, rfl⟩, h'⟩)
    · refine ⟨.ok (.unlinked (dir.toDirectory.entries name)), _, rfl, .unlink hdir, ?_⟩
      rw [← toDirectory_removeEntry]
      exact h'
    · exact ⟨.error e, m, rfl, .failed (by simp [Tree.Finds]), h'⟩
  | list tx dirId =>
    rw [run, post_map, list, post_bind]
    refine (post_readDirectory h tx dirId).mono ?_
    rintro _ s' ⟨h', ⟨dir, rfl, hdir⟩ | ⟨⟨e, rfl⟩, hnone⟩⟩
    · exact ⟨.ok (.listing dir.listEntries), m, rfl, .list hdir dir.lists_listEntries, h'⟩
    · exact ⟨.error e, m, rfl, .failed (by simpa [Tree.Finds] using hnone), h'⟩
  | writeFile fileId draw content =>
    rw [run, post_map]
    refine (post_writeFile h fileId draw hp).mono ?_
    rintro _ s' (⟨rfl, h'⟩ | ⟨⟨e, rfl⟩, h'⟩)
    · exact ⟨.ok (.created fileId), _, rfl, .writeFile, h'⟩
    · exact ⟨.error e, m, rfl, .failed (by simp [Tree.Finds]), h'⟩
  | readFile tx fileId =>
    rw [run, post_map]
    refine (post_readFile h tx fileId).mono ?_
    rintro _ s' ⟨h', ⟨text, rfl, ht⟩ | ⟨⟨e, rfl⟩, hnone⟩⟩
    · exact ⟨.ok (.contents text), m, rfl, .readFile ht, h'⟩
    · exact ⟨.error e, m, rfl, .failed (by simpa [Tree.Finds] using hnone), h'⟩
  | readDirectory tx dirId =>
    rw [run, post_map]
    refine (post_readDirectory h tx dirId).mono ?_
    rintro _ s' ⟨h', ⟨dir, rfl, hdir⟩ | ⟨⟨e, rfl⟩, hnone⟩⟩
    · exact ⟨.ok (.directory dir), m, rfl, .readDirectory hdir, h'⟩
    · exact ⟨.error e, m, rfl, .failed (by simpa [Tree.Finds] using hnone), h'⟩

/-! ## Runs -/

variable {fs : PersistentFilesystem D}

theorem step_simulates (h : Represents fs.storage m) {call} (hp : call.Proper) :
    ∃ o fs' m', step fs call = some (o, fs') ∧ m.Step call o m' ∧ Represents fs'.storage m' := by
  obtain ⟨o, m', hr, hstep, h'⟩ := run_simulates h hp
  refine ⟨o, ⟨_, fs.rootDirId⟩, m', ?_, hstep, h'⟩
  rcases he : (run call).exec fs.storage with ⟨r, s'⟩
  rw [he] at hr
  obtain rfl : r = o.mapError Fault.err := hr
  cases o <;> simp [step, he, Except.mapError]

theorem format_represents {d owner rootDirId draw} (hf : format d owner rootDirId draw = .ok fs) :
    Represents fs.storage (Tree.format owner rootDirId) := by
  rw [format] at hf
  split at hf
  · cases hf
  · cases hf
  rename_i s hs
  have hfmt := BlockStorage.format_formatted hs
  have hview : s.view = View.empty := hfmt.sound.view_eq
  have hcount := LawfulBlockDevice.blockCount_lt s.device
  have hroom : s.superblock.commitSequence + s.freeBlocks.card < 2 ^ 64 := by
    rw [hfmt.commitSequence, hfmt.freeBlocks, Nat.card_Ico, hfmt.fits.totalBlocks]
    omega
  have h : Represents s fun _ => none :=
    ⟨⟨⟨[], [], hfmt.sound⟩, hfmt.pending, hroom⟩, fun _ _ => by rw [hview]; rfl, fun _ _ h => by cases h⟩
  split at hf
  · cases hf
  · rename_i v s' he
    cases hf
    rcases (post_writeDirectory h draw rootDirId _).of_exec he with ⟨_, h'⟩ | ⟨⟨e, h'⟩, _⟩
    · have hempty (m) : (⟨∅, none, m⟩ : PersistentDirectory).toDirectory = ⟨fun _ => none, none, m⟩ :=
        Directory.ext (funext fun _ => getElem?_empty) rfl rfl
      rwa [new, hempty] at h'
    · cases h'

theorem run_represents {G} (hG : ∀ fs call o, G fs call o → call.Proper) {fs0 m0} (h0 : Represents fs0.storage m0) {tr}
    (hrun : (machine D).Run G fs0 tr fs) : ∃ m, m0.Run tr m ∧ Represents fs.storage m := by
  have hP := hrun.invariantTrace (P := fun tr fs => ∃ m, m0.Run tr m ∧ Represents fs.storage m)
    (fun tr fs call o fs' ⟨m, hm, h⟩ hstep hg => by
      obtain ⟨o', fs'', m', hstep', hs, h'⟩ := step_simulates h (hG fs call o hg)
      have heq : some (o', fs'') = some (o, fs') := hstep'.symm.trans hstep
      cases heq
      exact ⟨m', .snoc hm hs, h'⟩) [] ⟨m0, .nil, h0⟩
  simpa using hP

omit [LawfulBlockDevice D] [LawfulSerdeJson PersistentDirectory] [LawfulDiskFormat] in
theorem map_step (call) : (step fs call).map fst = match ((run call).exec fs.storage).1 with
    | .ok r => some (.ok r) | .error (.err e) => some (.error e) | .error .panic => none := by
  rw [step]
  rcases (run call).exec fs.storage with ⟨⟨_ | _⟩ | _, _⟩ <;> rfl

omit [LawfulSerdeJson PersistentDirectory] [LawfulDiskFormat] in
theorem step_frame {fs' : PersistentFilesystem D} (h : Represents fs.storage m) (h' : Represents fs'.storage m') {o}
    (ho : m' o = m o) (t) : (step fs' (.readFile t o)).map fst = (step fs (.readFile t o)).map fst ∧
      (step fs' (.readDirectory t o)).map fst = (step fs (.readDirectory t o)).map fst := by
  have hread := readObject_congr h.settled h'.settled (h.contents_eq h' ho) t
  have hfile : ((run (.readFile t o)).exec fs'.storage).1 = ((run (.readFile t o)).exec fs.storage).1 := by
    simp only [run, readFile, map_eq_pure_bind]
    exact exec_bind_congr hread fun _ _ _ => rfl
  have hdir : ((run (.readDirectory t o)).exec fs'.storage).1 = ((run (.readDirectory t o)).exec fs.storage).1 := by
    simp only [run, readDirectory, map_eq_pure_bind, bind_assoc]
    refine exec_bind_congr hread fun data _ _ => ?_
    cases (fromSlice data : Option PersistentDirectory) <;> rfl
  rw [map_step, map_step, map_step, map_step, hfile, hdir]
  exact ⟨rfl, rfl⟩

end PersistentFilesystem

end PandaGen.Storage
