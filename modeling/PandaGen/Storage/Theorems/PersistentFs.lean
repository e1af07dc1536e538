import PandaGen.Storage.Json
import PandaGen.Storage.Lemmas.PersistentFs
import Mathlib.Data.List.Nodup

/-!
# The persistent filesystem as a tree
-/

namespace PandaGen.Storage

open Hal Lib PersistentFilesystem Option List Function

/-! ## The entries of a tree -/

variable {tr : List (Call × Except TransactionError Reply)} {ev : Call × Except TransactionError Reply}
  {rootDirId : ObjectId}

theorem objectsDrawn_concat :
    objectsDrawn rootDirId (tr ++ [ev]) = objectsDrawn rootDirId tr ++ (objectDrawnBy ev).toList := by
  cases h : objectDrawnBy ev <;> simp [h, objectsDrawn]

theorem directoriesMade_concat :
    directoriesMade rootDirId (tr ++ [ev]) = directoriesMade rootDirId tr ++ (directoryMadeBy ev).toList := by
  cases h : directoryMadeBy ev <;> simp [h, directoriesMade]

theorem lastPut_concat (dirId name) :
    lastPut (tr ++ [ev]) dirId name = (putBy dirId name ev).getD (lastPut tr dirId name) := by
  cases h : putBy dirId name ev <;> simp [h, lastPut]

theorem lastPut_concat_none (h : ∀ dirId name, putBy dirId name ev = none) : lastPut (tr ++ [ev]) = lastPut tr := by
  funext dirId name
  rw [lastPut_concat, h, getD_none]

theorem lastPut_concat_put {id name e}
    (h : ∀ dirId name', putBy dirId name' ev = if id = dirId ∧ name = name' then some e else none) :
    lastPut (tr ++ [ev]) = update (lastPut tr) id (update (lastPut tr id) name e) := by
  funext dirId name'
  rw [lastPut_concat, h, update_apply]
  by_cases hid : dirId = id
  · subst hid
    rw [if_pos rfl, update_apply]
    by_cases hname : name' = name
    · rw [if_pos ⟨rfl, hname.symm⟩, if_pos hname, getD_some]
    · rw [if_neg fun h => hname h.2.symm, if_neg hname, getD_none]
  · rw [if_neg fun h => hid h.1.symm, if_neg hid, getD_none]

namespace Tree

variable {m m' : Tree}

/-! ## Entries -/

/-- Only the objects `known` exist, and each directory of `dirs` has the entries that `put` says. -/
structure Entered (m : Tree) (known dirs : List ObjectId) (put : ObjectId → String → Option DirectoryEntry) :
    Prop where
  exist : ∀ id node, m id = some node → id ∈ known
  silent : ∀ id, id ∉ known → put id = fun _ => none
  dirs : ∀ id ∈ dirs, ∃ d, m id = some (.directory d) ∧ d.entries = put id

variable {known dirs : List ObjectId} {put : ObjectId → String → Option DirectoryEntry} {id : ObjectId}

section

variable (h : Entered m known dirs put)
include h

theorem Entered.mem_known (hid : id ∈ dirs) : id ∈ known := by
  obtain ⟨d, hd, _⟩ := h.dirs id hid
  exact h.exist id _ hd

theorem Entered.mono (ids) : Entered m (known ++ ids) dirs put :=
  ⟨fun id node hm => mem_append_left _ (h.exist id node hm),
    fun id hid => h.silent id fun hmem => hid (mem_append_left _ hmem), h.dirs⟩

theorem Entered.add (hnew : id ∉ known) (node) : Entered (m.set id node) (known ++ [id]) dirs put := by
  refine ⟨fun id' node' hm => ?_, fun id' hid' => ?_, fun id' hid' => ?_⟩
  · rw [set, update_apply] at hm
    split at hm
    · rename_i heq
      simp [heq]
    · exact mem_append_left _ (h.exist id' node' hm)
  · exact h.silent id' fun hmem => hid' (mem_append_left _ hmem)
  · have hne : id' ≠ id := by
      rintro rfl
      exact hnew (h.mem_known hid')
    rw [set, update_of_ne hne]
    exact h.dirs id' hid'

theorem Entered.make (hnew : id ∉ known) (owner timestamp parent) :
    Entered (m.set id (.directory (.empty owner timestamp parent))) (known ++ [id]) (dirs ++ [id]) put := by
  have hadd := h.add hnew (.directory (.empty owner timestamp parent))
  refine ⟨hadd.exist, hadd.silent, fun id' hid' => ?_⟩
  rcases mem_append.mp hid' with hid' | hid'
  · exact hadd.dirs id' hid'
  · obtain rfl := mem_singleton.mp hid'
    exact ⟨_, update_self .., (h.silent id' hnew).symm⟩

end

variable [SerdeJson PersistentDirectory]

theorem Entered.change (h : Entered m known dirs put) {d d'} (hd : m.Shows id d) {name e}
    (hd' : d'.entries = update d.entries name e) :
    Entered (m.set id (.directory d')) known dirs (update put id (update (put id) name e)) := by
  obtain ⟨node, hm, hshow⟩ := hd
  have hknown := h.exist id node hm
  refine ⟨fun id' node' hm' => ?_, fun id' hid' => ?_, fun id' hid' => ?_⟩
  · rw [set, update_apply] at hm'
    split at hm'
    · rename_i heq
      exact heq ▸ hknown
    · exact h.exist id' node' hm'
  · have hne : id' ≠ id := by
      rintro rfl
      exact hid' hknown
    rw [update_of_ne hne]
    exact h.silent id' hid'
  · by_cases heq : id' = id
    · subst heq
      obtain ⟨d0, hd0, hentries⟩ := h.dirs id' hid'
      rw [hm] at hd0
      cases hd0
      obtain rfl : d = d0 := hshow
      refine ⟨d', update_self .., ?_⟩
      rw [hd', hentries, update_self]
    · rw [set, update_of_ne heq, update_of_ne heq]
      exact h.dirs id' hid'

/-! ## Runs -/

variable {call : Call} {o : Except TransactionError Reply}

theorem Step.entered (h : m.Step call o m')
    (he : m.Entered (objectsDrawn rootDirId tr) (directoriesMade rootDirId tr) (lastPut tr))
    (hn : (objectsDrawn rootDirId (tr ++ [(call, o)])).Nodup) :
    m'.Entered (objectsDrawn rootDirId (tr ++ [(call, o)])) (directoriesMade rootDirId (tr ++ [(call, o)]))
      (lastPut (tr ++ [(call, o)])) := by
  rw [objectsDrawn_concat] at hn
  have hnew : ∀ id, objectDrawnBy (call, o) = some id → id ∉ objectsDrawn rootDirId tr := by
    intro id hid hmem
    exact (nodup_append.mp hn).2.2 id hmem id (by simp [hid]) rfl
  rw [objectsDrawn_concat, directoriesMade_concat]
  cases h with
  | @failed call e _ =>
    have hput : ∀ dirId name, putBy dirId name (call, .error e) = none := by cases call <;> intros <;> rfl
    have hmade : directoryMadeBy (call, .error e) = none := by cases call <;> rfl
    rw [lastPut_concat_none hput, hmade, toList_none, append_nil]
    exact he.mono _
  | orphaned | writeFile =>
    rw [lastPut_concat_none fun _ _ => rfl]
    simpa [directoryMadeBy, objectDrawnBy] using he.add (hnew _ rfl) _
  | mkdir hd =>
    rw [lastPut_concat_put fun _ _ => rfl]
    exact (he.make (hnew _ rfl) _ _ _).change hd rfl
  | link hd | unlink hd =>
    rw [lastPut_concat_put fun _ _ => rfl]
    simpa [directoryMadeBy, objectDrawnBy] using he.change hd rfl
  | list | readFile | readDirectory =>
    rw [lastPut_concat_none fun _ _ => rfl]; simpa [directoryMadeBy, objectDrawnBy] using he

theorem Run.entered {owner} (h : Run (Tree.format owner rootDirId) tr m) (hn : (objectsDrawn rootDirId tr).Nodup) :
    m.Entered (objectsDrawn rootDirId tr) (directoriesMade rootDirId tr) (lastPut tr) := by
  induction h with
  | nil =>
    have hempty : Entered (fun _ => none) [] [] fun _ _ => none :=
      ⟨by simp, fun _ _ => rfl, by simp⟩
    exact hempty.make not_mem_nil owner 0 none
  | snoc _ hstep ih =>
    refine hstep.entered (ih ?_) hn
    rw [objectsDrawn_concat] at hn
    exact (nodup_append.mp hn).1

theorem Step.frame (h : m.Step call o m') {id} (hid : id ∉ call.changes) : m' id = m id := by
  cases h with
  | failed | list | readFile | readDirectory => rfl
  | orphaned | mkdir | link | unlink | writeFile =>
    simp only [Call.changes, mem_cons, not_mem_nil, or_false, not_or] at hid
    simp [set, update_of_ne, hid]

end Tree

section

variable {D : Type} [BlockDevice D] [LawfulBlockDevice D] [DiskFormat] [LawfulDiskFormat]
  [SerdeDebug PersistentDirectory] [LawfulSerdeJson PersistentDirectory]

/-- The calls on a new filesystem return what the tree returns. Every call is answered, and leaves alone what
reads of the objects return that it neither names nor creates. A listing of a directory shows under each
name what was last put there, in the order of the names. -/
theorem filesystem_refines_tree {d : D} {owner : String} {rootDirId : ObjectId} {draw : Draw}
    {fs₀ fs : PersistentFilesystem D} (hf : PersistentFilesystem.format d owner rootDirId draw = .ok fs₀)
    {tr : List (Call × Except TransactionError Reply)}
    (hrun : (PersistentFilesystem.machine D).Run (fun _ call _ => call.Proper) fs₀ tr fs) :
    (∃ m, (Tree.format owner rootDirId).Run tr m) ∧
    (∀ call : Call, call.Proper → ∃ o fs', step fs call = some (o, fs') ∧
      ∀ id ∉ call.changes, ∀ t,
        (step fs' (.readFile t id)).map Prod.fst = (step fs (.readFile t id)).map Prod.fst ∧
        (step fs' (.readDirectory t id)).map Prod.fst = (step fs (.readDirectory t id)).map Prod.fst) ∧
    ((objectsDrawn rootDirId tr).Nodup → ∀ id ∈ directoriesMade rootDirId tr, ∀ t,
      ∃ es fs', step fs (.list t id) = some (.ok (.listing es), fs') ∧ Lists (lastPut tr id) es) := by
  obtain ⟨m, hm, h⟩ := run_represents (fun _ _ _ hp => hp) (format_represents hf) hrun
  refine ⟨⟨m, hm⟩, fun call hp => ?_, fun hn id hid t => ?_⟩
  · obtain ⟨o, fs', m', hstep, hs, h'⟩ := step_simulates h hp
    exact ⟨o, fs', hstep, fun id hid t => step_frame h h' (hs.frame hid) t⟩
  · obtain ⟨d, hd, hentries⟩ := (hm.entered hn).dirs id hid
    have hp : (Call.list t id).Proper := trivial
    obtain ⟨o, fs', m', hstep, hs, _⟩ := step_simulates h hp
    cases hs with
    | failed hnot => exact absurd ⟨d, .directory d, hd, rfl⟩ hnot
    | @list _ _ d' es hshow hlists =>
      obtain ⟨node, hnode, hshow⟩ := hshow
      rw [hd] at hnode
      cases hnode
      obtain rfl : d' = d := hshow
      exact ⟨es, fs', hstep, hentries ▸ hlists⟩

end

theorem filesystem_refines_tree_link_unlink : ∃ fs₀ tr fs,
    PersistentFilesystem.format (RamDisk.new 60 (by decide)) "root" ⟨1⟩ ⟨⟨1⟩, ⟨1⟩⟩ = .ok fs₀ ∧
    (PersistentFilesystem.machine RamDisk).Run (fun _ call _ => call.Proper) fs₀ tr fs ∧
    (lastPut tr ⟨1⟩ "usr" = some ⟨"usr", ⟨2⟩, .map⟩ ∧ lastPut tr ⟨1⟩ "a" = some ⟨"a", ⟨3⟩, .blob⟩ ∧
      lastPut tr ⟨1⟩ "b" = none) ∧
    ∃ es fs', step fs (.list ⟨9⟩ ⟨1⟩) = some (.ok (.listing es), fs') ∧ Lists (lastPut tr ⟨1⟩) es := by
  obtain ⟨fs₀, hf, tr, fs, hexec, hdrawn, hput⟩ : ∃ fs₀ : PersistentFilesystem RamDisk,
      PersistentFilesystem.format (RamDisk.new 60 (by decide)) "root" ⟨1⟩ ⟨⟨1⟩, ⟨1⟩⟩ = .ok fs₀ ∧
      ∃ tr fs, (PersistentFilesystem.machine RamDisk).exec (fun _ call _ => decide call.Proper) fs₀
        [.mkdir ⟨2⟩ ⟨⟨2⟩, ⟨2⟩⟩ ⟨3⟩ ⟨⟨4⟩, ⟨3⟩⟩ "usr" ⟨1⟩ "root" 10, .writeFile ⟨3⟩ ⟨⟨5⟩, ⟨4⟩⟩ [1, 2, 3],
          .link ⟨6⟩ ⟨⟨7⟩, ⟨5⟩⟩ "b" ⟨1⟩ ⟨3⟩ .blob 20, .link ⟨8⟩ ⟨⟨9⟩, ⟨6⟩⟩ "a" ⟨1⟩ ⟨3⟩ .blob 30,
          .unlink ⟨10⟩ ⟨⟨11⟩, ⟨7⟩⟩ "b" ⟨1⟩ 40] = some (tr, fs) ∧
      objectsDrawn ⟨1⟩ tr = [⟨1⟩, ⟨2⟩, ⟨3⟩] ∧ lastPut tr ⟨1⟩ "usr" = some ⟨"usr", ⟨2⟩, .map⟩ ∧
      lastPut tr ⟨1⟩ "a" = some ⟨"a", ⟨3⟩, .blob⟩ ∧ lastPut tr ⟨1⟩ "b" = none := by
    decide +kernel
  have hrun := Machine.exec_guarded hexec
  exact ⟨fs₀, tr, fs, hf, hrun, hput, (filesystem_refines_tree hf hrun).2.2 (by rw [hdrawn]; decide) ⟨1⟩
    (List.mem_cons_self ..) ⟨9⟩⟩

end PandaGen.Storage
