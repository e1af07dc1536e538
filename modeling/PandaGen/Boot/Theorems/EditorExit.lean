import PandaGen.Boot.Lemmas.Files
import PandaGen.Editor.Theorems.Core

/-!
# The editor of the bootstrap kernel
-/

namespace PandaGen.Boot

open Lib Hal Storage Editor Option BareMetalFilesystem

namespace MinimalEditor

def Tracks {D : Type} (saved : TextBuffer) (e : MinimalEditor D) : Prop :=
  e.editorIo.isSome = true ∧ (e.core.dirty = false → e.core.buffer = saved)

def shows {D : Type} (e : MinimalEditor D) (row : Nat) : Bool :=
  e.scrollOffset ≤ row ∧ row < e.scrollOffset + e.viewportRows

theorem adjustViewport_eq {D : Type} {e e' : MinimalEditor D} (h : e.adjustViewport = some e') :
    ∃ offset, e' = { e with scrollOffset := offset } ∧ (0 < e.viewportRows → e'.shows e.core.cursor.row) := by
  simp only [adjustViewport] at h
  split at h
  · cases h
    exact ⟨_, rfl, fun hrows => by simpa [shows] using hrows⟩
  · split at h
    · split at h <;> cases h
      exact ⟨_, rfl, fun hrows => by simp [shows]; omega⟩
    · cases h
      exact ⟨_, rfl, fun _ => by simp [shows]; omega⟩

variable {D : Type} [BlockDevice D] [SerdeDebug PersistentDirectory] [DiskFormat]
  {e e' : MinimalEditor D} {draw : FileDraw} {byte : UInt8}

def saves (e : MinimalEditor D) (draw : FileDraw) (request : CoreIoRequest) : Bool :=
  let content := e.core.buffer.asString
  match e.editorIo, request, e.document with
  | some io, .saveAs path, _ => ((BareMetalEditorIo.saveAs draw path content).call io).any fun r => r.1.isOk
  | some io, _, some handle => ((BareMetalEditorIo.save draw handle content).call io).any fun r => r.1.isOk
  | _, _, _ => false

def savedBy (e : MinimalEditor D) (call : Call D) (_ : Bool) : List TextBuffer :=
  match call with
  | .setEditorIo _ _ => []
  | .loadContent content => [.fromString content]
  | .processByte draw byte =>
    match (Key.fromAscii byte).bind e.core.applyKey with
    | some (.requestIo request, core) => if saves { e with core } draw request then [core.buffer] else []
    | _ => []

def lastSaved (e : MinimalEditor D) (tr : List (Call D × Bool)) : TextBuffer :=
  (machine.observe savedBy e tr).foldl (fun _ buffer => buffer) e.core.buffer

/-- A request clears the dirty flag only if its save succeeds, or if nothing can be saved. -/
theorem handleIo_eq {request quit} (h : e.handleIo draw request = some (quit, e')) :
    ∃ io status document dirty, e' = { e with editorIo := io, status, document, core := { e.core with dirty } } ∧
      (quit = true → request = .saveAndQuit) ∧ io.isSome = e.editorIo.isSome ∧
      (dirty = e.core.dirty ∨ e.editorIo = none ∨ e.saves draw request = true) := by
  unfold MinimalEditor.handleIo at h
  split at h
  · rename_i io hio
    split at h
    · rename_i hdocument
      obtain ⟨⟨r | r, io'⟩, hcall, ⟨⟩⟩ := map_eq_some_iff.mp h
      · exact ⟨_, _, _, _, rfl, nofun, by rw [hio]; rfl, .inl rfl⟩
      · exact ⟨_, _, _, _, rfl, nofun, by rw [hio]; rfl, .inr (.inr (by simp [saves, hio, hdocument, hcall]; rfl))⟩
    · cases h
      exact ⟨_, _, _, _, rfl, nofun, rfl, .inl rfl⟩
    · obtain ⟨⟨r | r, io'⟩, hcall, ⟨⟩⟩ := map_eq_some_iff.mp h
      · exact ⟨_, _, _, _, rfl, nofun, by rw [hio]; rfl, .inl rfl⟩
      · exact ⟨_, _, _, _, rfl, nofun, by rw [hio]; rfl, .inr (.inr (by simp [saves, hio, hcall]; rfl))⟩
    · obtain ⟨⟨r, io'⟩, -, ⟨⟩⟩ := map_eq_some_iff.mp h
      exact ⟨_, _, _, _, rfl, fun _ => rfl, by rw [hio]; rfl, .inl rfl⟩
    · cases h
      exact ⟨_, _, _, _, rfl, fun _ => rfl, rfl, .inl rfl⟩
  · rename_i hio
    split at h <;> cases h
    · exact ⟨_, _, _, _, rfl, nofun, rfl, .inr (.inl hio)⟩
    · exact ⟨_, _, _, _, rfl, nofun, rfl, .inr (.inl hio)⟩
    · exact ⟨_, _, _, _, rfl, fun _ => rfl, rfl, .inl rfl⟩

theorem Tracks.handleIo {saved request quit} (h : Tracks saved e) (hio : e.handleIo draw request = some (quit, e')) :
    Tracks (if e.saves draw request then e.core.buffer else saved) e' := by
  obtain ⟨hsome, hclean⟩ := h
  obtain ⟨io, status, document, dirty, rfl, -, hio, hdirty⟩ := handleIo_eq hio
  refine ⟨hio.trans hsome, fun hnow => ?_⟩
  split
  · rfl
  · rcases hdirty with rfl | hnone | hsaves
    · exact hclean hnow
    · simp [hnone] at hsome
    · contradiction

theorem processByte_cases {quit} (h : e.processByte draw byte = some (quit, e')) :
    ∃ e1 status, e' = { e1 with status } ∧ ((Key.fromAscii byte = none ∧ quit = false ∧ e1 = e) ∨
      ∃ key outcome core, Key.fromAscii byte = some key ∧ e.core.applyKey key = some (outcome, core) ∧
        handleOutcome { e with status := [], core } draw outcome = some (quit, e1)) := by
  unfold MinimalEditor.processByte at h
  dsimp only at h
  split at h
  · rename_i hkey
    cases h
    exact ⟨e, [], rfl, .inl ⟨hkey, rfl, rfl⟩⟩
  · rename_i key hkey
    split at h
    · cases h
    · rename_i outcome core happly
      obtain ⟨⟨quit', e1⟩, hhandle, heq⟩ := map_eq_some_iff.mp h
      have hstatus : ∃ status, (if quit' then e1 else e1.refreshPromptStatus) = { e1 with status } := by
        unfold refreshPromptStatus
        split
        · exact ⟨_, rfl⟩
        · split
          · exact ⟨_, rfl⟩
          · split <;> exact ⟨_, rfl⟩
      obtain ⟨status, hstatus⟩ := hstatus
      cases heq
      exact ⟨e1, status, hstatus, .inr ⟨key, outcome, core, hkey, happly, hhandle⟩⟩

theorem Tracks.processByte {saved quit} (h : Tracks saved e) (hbyte : e.processByte draw byte = some (quit, e')) :
    Tracks ((savedBy e (.processByte draw byte) quit).foldl (fun _ buffer => buffer) saved) e' := by
  obtain ⟨e1, status, rfl, ⟨hkey, -, rfl⟩ | ⟨key, outcome, core, hkey, happly, hhandle⟩⟩ := processByte_cases hbyte
  · simp only [savedBy, hkey]
    exact h
  · have hafter : Tracks saved { e with status := [], core } := by
      refine ⟨h.1, fun hdirty => ?_⟩
      obtain ⟨hbefore, hbuffer⟩ := (EditorCore.applyKey_effect happly).clean hdirty
      exact hbuffer.trans (h.2 hbefore)
    simp only [savedBy, hkey, bind_some, happly]
    cases outcome with
    | «continue» | requestExit | statusMessage => cases hhandle; exact hafter
    | changed =>
      obtain ⟨e2, hadjust, ⟨⟩⟩ := map_eq_some_iff.mp hhandle
      obtain ⟨offset, rfl, -⟩ := adjustViewport_eq hadjust
      exact hafter
    | requestIo request =>
      have hsaves : saves { e with core } draw request = saves { e with status := [], core } draw request := rfl
      have htracks : Tracks _ { e1 with status } := (hafter.handleIo hhandle :)
      split at htracks <;> simp [*]

/-- A command without an exclamation mark quits in a buffer that is not modified, or as a `wq` that tries to save. -/
theorem processByte_quits (h : e.processByte draw byte = some (true, e'))
    (hforced : parseCommand e.core.commandBuffer ≠ .quit true) : e'.core.buffer = e.core.buffer ∧
      ((e.core.dirty = false ∧ savedBy e (.processByte draw byte) true = []) ∨
        (e.core.dirty = true ∧ parseCommand e.core.commandBuffer = .writeQuit ∧
          savedBy e (.processByte draw byte) true = if e.saves draw .saveAndQuit then [e.core.buffer] else [])) := by
  obtain ⟨e₁, status, rfl, ⟨-, hfalse, -⟩ | ⟨key, outcome, core, hkey, happly, hhandle⟩⟩ := processByte_cases h
  · cases hfalse
  simp only [savedBy, hkey, bind_some, happly]
  cases outcome with
  | requestExit forced =>
    obtain ⟨hcommand, hbuffer, -⟩ := EditorCore.applyKey_request happly rfl
    cases hhandle
    rcases EditorCore.executeCommand_exit hcommand with ⟨-, hparse⟩ | ⟨-, hclean⟩
    · exact absurd hparse hforced
    · exact ⟨hbuffer, .inl ⟨hclean, rfl⟩⟩
  | requestIo request =>
    obtain ⟨hcommand, hbuffer, hdirty⟩ := EditorCore.applyKey_request happly rfl
    obtain ⟨io, _, document, dirty, rfl, hrequest, -⟩ := handleIo_eq hhandle
    obtain rfl := hrequest rfl
    obtain ⟨hparse, hmodified⟩ := EditorCore.executeCommand_saveAndQuit hcommand
    have hsaves : saves { e with core } draw .saveAndQuit = e.saves draw .saveAndQuit := by
      simp only [saves, hbuffer]
    simp only [hsaves, hbuffer]
    exact ⟨trivial, .inr ⟨hmodified, hparse, trivial⟩⟩
  | changed => simp [handleOutcome] at hhandle
  | «continue» | statusMessage => cases hhandle

/-- The document has a path, and there is room for the buffer as the file of that name. -/
def CanSave (e : MinimalEditor D) (draw : FileDraw) (fs : BareMetalFilesystem D) (dir : PersistentDirectory) : Prop :=
  ∃ handle path, e.document = some handle ∧ handle.path = some path ∧
    RoomForFile dir path draw.fileId fs.storage (Vi.asBytes e.core.buffer.asString)

theorem save_isOk {handle content} {fs : BareMetalFilesystem D} :
    ((BareMetalEditorIo.save draw handle content).call fs).any (fun r => r.1.isOk) =
      handle.path.any fun path => ((writeFileByName draw path (Vi.asBytes content)).exec fs).1.isOk := by
  rw [BareMetalEditorIo.save]
  cases handle.path with
  | none => rfl
  | some path =>
    rw [Proc.call_bind, Proc.call_mapErr, Proc.call, any_some]
    rcases (writeFileByName draw path (Vi.asBytes content)).exec fs with ⟨(_ | _) | _, _⟩ <;> rfl

theorem saves_iff [LawfulBlockDevice D] [ReliableBlockDevice D] [LawfulSerdeJson PersistentDirectory]
    [LawfulDiskFormat] {fs dir} (hio : e.editorIo = some fs)
    (hmounted : Mounted fs dir) (hcompact : fs.storage.superblock.Compact) (hid : draw.fileId ≠ fs.rootDirId) :
    e.saves draw .saveAndQuit = true ↔ e.CanSave draw fs dir := by
  have hroom (path) : ((writeFileByName draw path (Vi.asBytes e.core.buffer.asString)).exec fs).1.isOk = true ↔ _ :=
    writeFileByName_room hmounted hcompact hid
  simp only [saves, hio, CanSave]
  cases e.document with
  | none => simp
  | some handle =>
    dsimp only
    rw [save_isOk, any_eq_true]
    simp [hroom]

def lands (e : MinimalEditor D) : Call D → Bool
  | .setEditorIo _ _ => true
  | .loadContent _ => e.shows 0
  | .processByte _ byte =>
    match Key.fromAscii byte with
    | some .u => e.core.mode ≠ .normal || e.core.undoStack.getLast?.all fun s => e.shows s.cursor.row
    | _ => true

theorem processByte_shows {quit} (hrows : 0 < e.viewportRows) (hshows : e.shows e.core.cursor.row)
    (h : e.processByte draw byte = some (quit, e')) :
    e'.viewportRows = e.viewportRows ∧ e'.shows e'.core.cursor.row = e.lands (.processByte draw byte) := by
  obtain ⟨e1, status, rfl, ⟨hkey, -, rfl⟩ | ⟨key, outcome, core, hkey, happly, hhandle⟩⟩ := processByte_cases h
  · exact ⟨rfl, by rw [lands, hkey]; exact hshows⟩
  by_cases hundo : e.core.mode = .normal ∧ key = .u
  · obtain ⟨hmode, rfl⟩ := hundo
    simp only [EditorCore.applyKey, hmode, EditorCore.handleNormalMode, EditorCore.undo] at happly
    simp only [lands, hkey, hmode]
    cases hlast : e.core.undoStack.getLast? <;> rw [hlast] at happly <;> cases happly <;> cases hhandle
    · exact ⟨rfl, hshows⟩
    · exact ⟨rfl, by simp [shows]⟩
  · have hlands : e.lands (.processByte draw byte) = true := by
      simp only [lands, hkey]
      split
      · rename_i hu
        cases hu
        simp_all
      · rfl
    have hredo : key ≠ .ctrlR := by
      rintro rfl
      unfold Key.fromAscii at hkey
      split at hkey <;> try cases hkey
      split at hkey <;> cases hkey
    have hstill := EditorCore.applyKey_still happly (fun hmode hu => hundo ⟨hmode, hu⟩) hredo
    rw [hlands]
    cases outcome with
    | «continue» | requestExit | statusMessage =>
      cases hhandle
      exact ⟨rfl, by simpa [shows, hstill.resolve_left (by simp)] using hshows⟩
    | changed =>
      obtain ⟨e2, hadjust, ⟨⟩⟩ := map_eq_some_iff.mp hhandle
      obtain ⟨offset, rfl, hadjusted⟩ := adjustViewport_eq hadjust
      exact ⟨rfl, hadjusted hrows⟩
    | requestIo request =>
      obtain ⟨io, _, document, dirty, rfl, -⟩ := handleIo_eq hhandle
      exact ⟨rfl, by simpa [shows, hstill.resolve_left (by simp)] using hshows⟩

theorem step_shows {call answer} (hrows : 0 < e.viewportRows) (hshows : e.shows e.core.cursor.row)
    (h : machine.step e call = some (answer, e')) :
    e'.viewportRows = e.viewportRows ∧ e'.shows e'.core.cursor.row = e.lands call := by
  cases call with
  | setEditorIo => cases h; exact ⟨rfl, hshows⟩
  | loadContent => cases h; exact ⟨rfl, rfl⟩
  | processByte draw byte => exact processByte_shows hrows hshows h

end MinimalEditor

open MinimalEditor

/-- An editor that quits at a command without an exclamation mark shows the text that was loaded or saved last, if the
command is not a `wq` in a modified buffer. At such a command it does exactly if the save finds a path and room. -/
theorem quits_only_when_saved {D : Type} [BlockDevice D] [LawfulBlockDevice D] [SerdeDebug PersistentDirectory]
    [LawfulSerdeJson PersistentDirectory] [DiskFormat] [LawfulDiskFormat] {rows : Nat}
    {io : BareMetalFilesystem D} {handle : DocumentHandle} {tr : List (Call D × Bool)} {e e' : MinimalEditor D}
    (hrun : machine.FreeRun ((new rows).setEditorIo io handle) tr e) {draw : FileDraw} {byte : UInt8}
    (hquit : e.processByte draw byte = some (true, e')) (hforced : parseCommand e.core.commandBuffer ≠ .quit true) :
    let saved := lastSaved ((new rows).setEditorIo io handle)
    (¬ (parseCommand e.core.commandBuffer = .writeQuit ∧ e.core.dirty = true) →
      e'.core.buffer = saved (tr ++ [(.processByte draw byte, true)])) ∧
    (parseCommand e.core.commandBuffer = .writeQuit → e.core.dirty = true → ∀ [ReliableBlockDevice D], ∀ fs dir,
      e.editorIo = some fs → Mounted fs dir → fs.storage.superblock.Compact → draw.fileId ≠ fs.rootDirId →
      (e'.core.buffer = saved (tr ++ [(.processByte draw byte, true)]) ↔
        e.CanSave draw fs dir ∨ e.core.buffer = saved tr)) := by
  intro saved
  have hstep : machine.step e (.processByte draw byte) = some (true, e') := hquit
  have htracks : Tracks (saved tr) e := by
    refine hrun.invariantObserved (f := savedBy) (P := Tracks) ?_ _ ⟨rfl, fun _ => rfl⟩
    intro saved e call answer e' htracks hcall _
    cases call with
    | setEditorIo io handle => cases hcall; exact ⟨rfl, htracks.2⟩
    | loadContent content => cases hcall; exact ⟨htracks.1, fun _ => rfl⟩
    | processByte draw byte => exact htracks.processByte hcall
  have hlast : saved (tr ++ [(.processByte draw byte, true)]) =
      (savedBy e (.processByte draw byte) true).foldl (fun _ buffer => buffer) (saved tr) := by
    simp only [saved]
    rw [lastSaved, hrun.observe_append, List.foldl_append]
    simp [Machine.observe, hstep, lastSaved]
  obtain ⟨hbuffer, ⟨hclean, hnothing⟩ | ⟨hdirty, hparse, hsave⟩⟩ := processByte_quits hquit hforced
  · refine ⟨fun _ => ?_, fun _ hdirty => absurd (hclean.symm.trans hdirty) (by decide)⟩
    rw [hlast, hnothing, hbuffer]
    exact htracks.2 hclean
  · refine ⟨fun hnot => absurd ⟨hparse, hdirty⟩ hnot, fun _ _ _ fs dir hio hmounted hcompact hid => ?_⟩
    rw [hlast, hsave, hbuffer, ← saves_iff hio hmounted hcompact hid]
    split <;> simp [*]

/-! ## An editor on a disk -/

namespace Note

def disk : BareMetalFilesystem RamDisk :=
  ⟨⟨.new 0 (by decide), ⟨0, 0, 0, 0, 0, 0, 0, 0, 0⟩, ∅, ∅, ∅, ∅, none⟩, ⟨0⟩⟩

def draw : FileDraw := ⟨⟨1⟩, ⟨2⟩, ⟨⟨4⟩, ⟨5⟩⟩, ⟨6⟩, ⟨⟨7⟩, ⟨8⟩⟩, ⟨⟨9⟩, ⟨10⟩⟩⟩

def created : FileDraw := ⟨⟨20⟩, ⟨20⟩, ⟨⟨21⟩, ⟨21⟩⟩, ⟨20⟩, ⟨⟨22⟩, ⟨22⟩⟩, ⟨⟨23⟩, ⟨23⟩⟩⟩

def handle : DocumentHandle := ⟨some ⟨20⟩, some ['a']⟩

def editor : MinimalEditor RamDisk := (MinimalEditor.new 23).setEditorIo disk ⟨none, none⟩

def typed (bytes : List UInt8) : List (Call RamDisk) := bytes.map (.processByte draw)

def screen : MinimalEditor RamDisk := .new 1

def twoLines (bytes : List UInt8) : List (Call RamDisk) := .loadContent ['a', '\n', 'b'] :: typed bytes

end Note

/-- A file is opened, a letter is typed in it, and `wq` saves it. -/
theorem quits_only_when_saved_stored : ∃ fs : BareMetalFilesystem RamDisk,
    PersistentFilesystem.format (RamDisk.new 10 (by decide)) "root" ⟨1⟩ ⟨⟨1⟩, ⟨1⟩⟩ = .ok fs ∧
    let fs := ((createFile Note.created ['a'] [0x61]).exec fs).2
    let editor := (MinimalEditor.new 23).setEditorIo fs Note.handle
    ∃ tr e e', machine.FreeRun editor tr e ∧
      tr.map (·.1) = .loadContent ['a'] :: Note.typed [0x69, 0x62, 0x1b, 0x3a, 0x77, 0x71] ∧
      e.processByte Note.draw 0x0d = some (true, e') ∧ e'.core.buffer.lines = [['b', 'a']] ∧
      e'.core.buffer = lastSaved editor (tr ++ [(.processByte Note.draw 0x0d, true)]) := by
  have hexec : ∃ fs : BareMetalFilesystem RamDisk,
      PersistentFilesystem.format (RamDisk.new 10 (by decide)) "root" ⟨1⟩ ⟨⟨1⟩, ⟨1⟩⟩ = .ok fs ∧ fs.rootDirId = ⟨1⟩ ∧
      let created := (createFile Note.created ['a'] [0x61]).exec fs
      created.1.isOk = true ∧ created.2.rootDirId = ⟨1⟩ ∧ created.2.storage.superblock.Small ∧
      RoomForFile (linked (.new "root" 0) ['a'] ⟨20⟩) ['a'] ⟨6⟩ created.2.storage [0x62, 0x61] ∧
      ((BareMetalEditorIo.save Note.draw Note.handle ['b', 'a']).call created.2).isSome = true := by
    decide +kernel
  obtain ⟨fs, hf, hid, hok, hid', hsmall, hroom, hcall⟩ := hexec
  refine ⟨fs, hf, ?_⟩
  have hmounted := (mounted_format hf).createFile Note.created (by rw [hid]; decide) (by decide) hok
  dsimp only at hid' hsmall hroom hcall ⊢
  generalize ((createFile Note.created ['a'] [0x61]).exec fs).2 = fs at *
  obtain ⟨r, hcall⟩ := isSome_iff_exists.mp hcall
  have hrun : ∃ tr e, machine.FreeRun ((MinimalEditor.new 23).setEditorIo fs Note.handle) tr e ∧
      tr.map (·.1) = .loadContent ['a'] :: Note.typed [0x69, 0x62, 0x1b, 0x3a, 0x77, 0x71] ∧
      (∃ core, e.core.applyKey .enter = some (.requestIo .saveAndQuit, core) ∧ core.buffer = e.core.buffer) ∧
      e.core.commandBuffer = ['w', 'q'] ∧ e.core.dirty = true ∧ e.editorIo = some fs ∧
      e.document = some Note.handle ∧ e.core.buffer.lines = [['b', 'a']] :=
    ⟨_, _, Machine.exec_free (show machine.exec (fun _ _ _ => true) _
      (.loadContent ['a'] :: Note.typed [0x69, 0x62, 0x1b, 0x3a, 0x77, 0x71]) = some _ from rfl), rfl, ⟨_, rfl, rfl⟩,
      rfl, rfl, rfl, rfl, rfl⟩
  obtain ⟨tr, e, hrun, hcalls, ⟨core, happly, hbuffer⟩, hcommand, hdirty, hio, hdocument, hlines⟩ := hrun
  have hcontent : e.core.buffer.asString = ['b', 'a'] := by rw [TextBuffer.asString, hlines]; rfl
  have hquit : ∃ e', e.processByte Note.draw 0x0d = some (true, e') := by
    have hkey : Key.fromAscii 0x0d = some .enter := rfl
    simp only [MinimalEditor.processByte, hkey, happly, handleOutcome, handleIo, hio, hdocument, hbuffer, hcontent,
      hcall]
    exact ⟨_, rfl⟩
  obtain ⟨e', hquit⟩ := hquit
  have hforced : parseCommand e.core.commandBuffer ≠ .quit true := by
    rw [hcommand]
    decide
  refine ⟨tr, e, e', hrun, hcalls, hquit, (congrArg _ (processByte_quits hquit hforced).1).trans hlines, ?_⟩
  refine ((quits_only_when_saved hrun hquit hforced).2 (by rw [hcommand]; decide) hdirty fs _ hio hmounted
    (Json.compact hsmall) (by rw [hid']; decide)).mpr (.inl ⟨Note.handle, ['a'], hdocument, rfl, ?_⟩)
  rw [hcontent]
  exact hroom

/-- A letter is typed in a buffer without a path, and the command `wq` quits although nothing could be saved. -/
theorem quit_without_path : ∃ tr e e', machine.FreeRun Note.editor tr e ∧
    tr.map (·.1) = Note.typed [0x69, 0x62, 0x1b, 0x3a, 0x77, 0x71] ∧ e.saves Note.draw .saveAndQuit = false ∧
    e.processByte Note.draw 0x0d = some (true, e') ∧ e'.core.buffer.lines = [['b']] ∧
    (lastSaved Note.editor (tr ++ [(.processByte Note.draw 0x0d, true)])).lines = [[]] :=
  ⟨_, _, _, Machine.exec_free (show machine.exec (fun _ _ _ => true) Note.editor
    (Note.typed [0x69, 0x62, 0x1b, 0x3a, 0x77, 0x71]) = some _ from rfl), rfl, rfl, rfl, rfl, rfl⟩

/-! ## The cursor on the screen -/

/-- The cursor leaves the screen exactly at a load or an undo that leads to a row outside. -/
theorem cursor_on_screen_iff {D : Type} [BlockDevice D] [SerdeDebug PersistentDirectory] [DiskFormat] {rows : Nat}
    (hrows : 0 < rows) {tr : List (Call D × Bool)} {e : MinimalEditor D}
    (hrun : machine.Run (fun e call _ => e.lands call) (new rows) tr e) :
    e.scrollOffset ≤ e.core.cursor.row ∧ e.core.cursor.row < e.scrollOffset + rows ∧
      e.getViewportCursor.isSome = true ∧
      ∀ call answer e', machine.step e call = some (answer, e') → (e'.getViewportCursor.isSome ↔ e.lands call) := by
  have hinv : e.viewportRows = rows ∧ e.shows e.core.cursor.row := by
    refine hrun.invariantTrace (P := fun _ e => e.viewportRows = rows ∧ e.shows e.core.cursor.row) ?_ []
      ⟨rfl, by simp [shows, new, EditorCore.new, Position.zero, hrows]⟩
    rintro _ e call answer e' ⟨rfl, hshows⟩ hstep hlands
    obtain ⟨hviewport, heq⟩ := step_shows hrows hshows hstep
    exact ⟨hviewport, heq.trans hlands⟩
  obtain ⟨rfl, hshows⟩ := hinv
  have hcursor : ∀ e : MinimalEditor D, e.getViewportCursor.isSome = e.shows e.core.cursor.row := by
    intro e
    simp only [getViewportCursor, shows, ge_iff_le]
    split <;> simp_all
  obtain ⟨hlow, hhigh⟩ := of_decide_eq_true hshows
  refine ⟨hlow, hhigh, (hcursor e).trans hshows, fun call answer e' hstep => ?_⟩
  rw [hcursor, (step_shows hrows hshows hstep).2]

theorem cursor_on_screen_below : ∃ tr e, machine.Run (fun e call _ => e.lands call) Note.screen tr e ∧
    tr.map (·.1) = Note.twoLines [0x6a] ∧ e.core.cursor.row = 1 ∧ e.getViewportCursor.isSome = true := by
  have hrun : machine.Run (fun e call _ => e.lands call) Note.screen _ _ :=
    Machine.exec_guarded (show machine.exec _ _ (Note.twoLines [0x6a]) = some _ from rfl)
  exact ⟨_, _, hrun, rfl, rfl, (cursor_on_screen_iff (by decide) hrun).2.2.1⟩

/-- From the second line neither an undo in the first nor a load is seen. -/
theorem cursor_off_screen : (∃ tr e, machine.FreeRun Note.screen tr e ∧
      tr.map (·.1) = Note.twoLines [0x78, 0x6a, 0x75] ∧ e.getViewportCursor = none) ∧
    ∃ tr e, machine.FreeRun Note.screen tr e ∧
      tr.map (·.1) = Note.twoLines [0x6a] ++ [.loadContent []] ∧ e.getViewportCursor = none :=
  ⟨⟨_, _, Machine.exec_free (show machine.exec _ _ (Note.twoLines [0x78, 0x6a, 0x75]) = some _ from rfl), rfl, rfl⟩,
    _, _, Machine.exec_free (show machine.exec _ _ (Note.twoLines [0x6a] ++ [.loadContent []]) = some _ from rfl),
    rfl, rfl⟩

end PandaGen.Boot
