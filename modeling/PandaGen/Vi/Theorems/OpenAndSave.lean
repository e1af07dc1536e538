import PandaGen.Editor.Theorems.OpenAndSave
import PandaGen.Vi.Lemmas.Editor

/-!
# Opening a document and saving it
-/

namespace PandaGen.Vi

open Lib Input Storage Proc JournaledStorage Post

/-! ## Reading and writing documents -/

namespace StorageEditorIo

variable {io : StorageEditorIo} {data : List UInt8} {objectId : ObjectId}

def dataOf (self : StorageEditorIo) (objectId : ObjectId) : Option (List UInt8) :=
  (self.storage.objects[objectId]?.bind List.getLast?).map (·.data)

def stored (self : StorageEditorIo) (path : Text) : Option (List UInt8) :=
  match self.resolve path with
  | .ok objectId => self.dataOf objectId
  | .error _ => none

def Fresh (self : StorageEditorIo) : Prop :=
  ∀ n, self.drawn ≤ n → self.storage.pending[(⟨self.ids n⟩ : TransactionId)]? = none

structure Agrees (io io' : StorageEditorIo) : Prop where
  objects : io'.storage.objects = io.storage.objects
  fsView : io'.fsView = io.fsView
  root : io'.root = io.root

theorem readEntry_new {tx} (hpending : io.storage.pending[tx]? = none) (hdata : io.dataOf objectId = some data) :
    ∃ versionId, io.storage.readEntry (.new tx) objectId = .ok ⟨versionId, data⟩ := by
  obtain ⟨entry, hentry, rfl⟩ := Option.map_eq_some_iff.mp hdata
  obtain ⟨versions, hversions, hlast⟩ := Option.bind_eq_some_iff.mp hentry
  refine ⟨entry.versionId, ?_⟩
  simp [readEntry, Transaction.new, hpending, hversions, hlast]

theorem readEntry_missing {tx} (hpending : io.storage.pending[tx]? = none) (hdata : io.dataOf objectId = none) :
    io.storage.readEntry (.new tx) objectId = .error (.objectNotFound (objectIdText objectId)) := by
  rw [dataOf, Option.map_eq_none_iff] at hdata
  simp only [readEntry, Transaction.new, hpending]
  cases hversions : io.storage.objects[objectId]? with
  | none => simp
  | some versions =>
    rw [hversions, Option.bind_some] at hdata
    simp [hdata]

/-- What a path leads to. -/
def lookup (self : StorageEditorIo) (path : Text) : Except IoError (ObjectId × List UInt8) :=
  match self.resolve path with
  | .error error => .error error
  | .ok objectId =>
    match self.dataOf objectId with
    | some data => .ok (objectId, data)
    | none => .error .notFound

theorem stored_eq {path} : io.stored path = (io.lookup path).toOption.map Prod.snd := by
  unfold stored lookup
  cases io.resolve path with
  | error => rfl
  | ok objectId =>
    dsimp only
    cases io.dataOf objectId <;> rfl

theorem resolve_of_lookup {path} (h : io.lookup path = .ok (objectId, data)) : io.resolve path = .ok objectId := by
  unfold lookup at h
  split at h
  · cases h
  · split at h <;> cases h
    assumption

theorem open_post {path} (hfresh : io.Fresh) :
    (StorageEditorIo.open (.withPath path)).Post io fun r io' => io.Agrees io' ∧ io'.Fresh ∧ match io.lookup path with
      | .error error => r = .error (.err error)
      | .ok (objectId, data) => match fromUtf8 data with
        | some content => ∃ handle, r = .ok ⟨content, handle⟩ ∧ handle.objectId = objectId
        | none => r = .error (.err .invalidUtf8) := by
  have hpending := hfresh io.drawn le_rfl
  have hdrawn : Fresh { io with drawn := io.drawn + 1 } := fun n hn => hfresh n (Nat.le_of_succ_le hn)
  have hclosed : Fresh { io with
      storage := { io.storage with pending := io.storage.pending.erase ⟨io.ids io.drawn⟩ },
      drawn := io.drawn + 1 } := by
    intro n hn
    rw [BTreeMap.getElem?_erase]
    split
    · rfl
    · exact hfresh n (Nat.le_of_succ_le hn)
  cases hresolve : io.resolve path with
  | error error =>
    have hlookup : io.lookup path = .error error := by simp [lookup, hresolve]
    rw [hlookup, StorageEditorIo.open, OpenOptions.withPath, post_get_bind, post_ofExcept_bind]
    dsimp only
    rw [hresolve]
    exact ⟨⟨rfl, rfl, rfl⟩, hfresh, rfl⟩
  | ok objectId =>
    cases hdata : io.dataOf objectId with
    | none =>
      have hlookup : io.lookup path = .error .notFound := by simp [lookup, hresolve, hdata]
      rw [hlookup]
      simp only [StorageEditorIo.open, OpenOptions.withPath, hresolve, beginTransaction, newUuid, JournaledStorage.read,
        JournaledStorage.readData, bind_pure_comp, post_bind, post_map, post_get, post_set,
        post_ofExcept, Except.map, Except.mapError, readEntry_missing hpending hdata]
      exact ⟨⟨rfl, rfl, rfl⟩, hdrawn, rfl⟩
    | some data =>
      have hlookup : io.lookup path = .ok (objectId, data) := by simp [lookup, hresolve, hdata]
      obtain ⟨versionId, hentry⟩ := readEntry_new hpending hdata
      rw [hlookup]
      simp only [StorageEditorIo.open, OpenOptions.withPath, hresolve, beginTransaction, newUuid, JournaledStorage.read,
        JournaledStorage.readData, bind_pure_comp, post_bind, post_map, post_get, post_set,
        post_ofExcept, Except.map, Except.mapError, hentry]
      cases fromUtf8 data with
      | none => exact ⟨⟨rfl, rfl, rfl⟩, hclosed, rfl⟩
      | some content => exact ⟨⟨rfl, rfl, rfl⟩, hclosed, _, rfl, rfl⟩

theorem writeContent_post {content} (hfresh : io.Fresh) :
    (writeContent objectId content).Post io fun r io' => ∃ versionId, r = .ok versionId ∧
      io'.storage.objects = pushVersion io.storage.objects ⟨objectId, versionId, asBytes content⟩ ∧
      io'.fsView = io.fsView ∧ io'.root = io.root := by
  have hpending := hfresh io.drawn le_rfl
  refine ⟨⟨io.ids (io.drawn + 1)⟩, rfl, ?_, ?_⟩
  · change (applyPending { io.storage with
      pending := pushPending io.storage.pending ⟨io.ids io.drawn⟩ _, journal := _ } _).objects = _
    simp [applyPending, pushPending, Transaction.new, hpending]
  · constructor <;> rfl

theorem dataOf_pushVersion {io' : StorageEditorIo} {write : PendingWrite}
    (h : io'.storage.objects = pushVersion io.storage.objects write) (objectId) :
    io'.dataOf objectId = if write.objectId = objectId then some write.data else io.dataOf objectId := by
  rw [dataOf, h, pushVersion, BTreeMap.getElem?_insert]
  split
  · simp
  · rfl

end StorageEditorIo

namespace Editor

variable {σ : Type} {e e' : Editor σ}

def Types (e : Editor σ) : Call → Prop
  | .processInput (.key event) _ => e.state.mode = .command → event.code ≠ .enter
  | _ => False

theorem computed_keeps {f} : (computed f).Post e fun _ e' => e'.io = e.io ∧ e'.document = e.document := by
  rw [post_computed]
  split <;> exact ⟨rfl, rfl⟩

variable [EditorIo σ]

theorem processInput_keeps {event} (drawn) (h : e.state.mode = .command → event.code ≠ .enter) :
    (processInput (.key event) drawn).Post e fun _ e' => e'.io = e.io ∧ e'.document = e.document := by
  unfold processInput
  rw [post_ite]
  split
  · exact ⟨rfl, rfl⟩
  · rw [post_get_bind]
    split
    · exact computed_keeps
    · exact computed_keeps
    · rename_i hmode
      unfold handleCommandMode
      split
      · exact ⟨rfl, rfl⟩
      · rename_i henter
        exact absurd henter (h hmode)
      · exact ⟨rfl, rfl⟩
      · split <;> exact ⟨rfl, rfl⟩
    · exact computed_keeps

theorem types_run {tr} (hrun : machine.Run (fun e call _ => Types e call) e tr e') :
    e'.io = e.io ∧ e'.document = e.document := by
  induction hrun with
  | nil => exact ⟨rfl, rfl⟩
  | @cons e call _ _ _ _ hstep htypes _ ih =>
    unfold Types at htypes
    split at htypes
    · rename_i event drawn
      have hkey : (perform (.processInput (.key event) drawn)).Post e fun _ e' =>
          e'.io = e.io ∧ e'.document = e.document :=
        bind (processInput_keeps drawn htypes) (fun _ _ h => h) fun _ _ h => h
      have hfirst := hkey.of_call hstep
      exact ⟨ih.1.trans hfirst.1, ih.2.trans hfirst.2⟩
    · exact htypes.elim

/-! ## On a storage -/

open StorageEditorIo

section

variable {e e₁ : Editor StorageEditorIo} {io : StorageEditorIo} {path : Text}

/-- What an open that returns `Ok` leaves. For a path that is not there, buffer and handle stay. -/
structure Opened (io : StorageEditorIo) (path : Text) (e e₁ : Editor StorageEditorIo) (io₁ : StorageEditorIo) :
    Prop where
  agrees : io.Agrees io₁
  fresh : io₁.Fresh
  found : ∀ objectId data, io.lookup path = .ok (objectId, data) → ∃ content handle, fromUtf8 data = some content ∧
    handle.objectId = objectId ∧ e₁.document = some handle ∧ e₁.state.buffer = .fromString content
  missing : ∀ error, io.lookup path = .error error →
    error = .notFound ∧ e₁.document = e.document ∧ e₁.state.buffer = e.state.buffer
  io : e₁.io = some io₁

theorem openWith_post (hio : e.io = some io) (hfresh : io.Fresh) :
    (openWith (.withPath path)).Post e fun r e₁ => r = .ok () → ∃ io₁, Opened io path e e₁ io₁ := by
  unfold openWith
  rw [post_get_bind, hio, post_okOr_bind]
  dsimp only
  rw [post_onIo_bind]
  refine mono (open_post hfresh) fun r io₁ ⟨hagrees, hfresh₁, hresult⟩ => ?_
  rcases hlookup : io.lookup path with error | ⟨objectId, data⟩
  · rw [hlookup] at hresult
    subst hresult
    dsimp only
    cases error with
    | notFound =>
      refine fun _ => ⟨io₁, hagrees, hfresh₁, by simp [hlookup], ?_, rfl⟩
      rw [hlookup]
      rintro _ ⟨⟩
      exact ⟨rfl, rfl, rfl⟩
    | _ => exact fun h => by cases h
  · rw [hlookup] at hresult
    dsimp only at hresult
    cases hcontent : fromUtf8 data with
    | none =>
      rw [hcontent] at hresult
      subst hresult
      exact fun h => by cases h
    | some content =>
      rw [hcontent] at hresult
      obtain ⟨handle, rfl, hhandle⟩ := hresult
      refine fun _ => ⟨io₁, hagrees, hfresh₁, ?_, by simp [hlookup], rfl⟩
      rw [hlookup]
      rintro _ _ ⟨⟩
      exact ⟨content, handle, hcontent, hhandle, rfl, rfl⟩

theorem save_post {handle} (hfresh : io.Fresh) (content) :
    (EditorIo.save handle content).Post io fun r io' => ∃ result, r = .ok result ∧
      io'.storage.objects = pushVersion io.storage.objects ⟨handle.objectId, result.newVersionId, asBytes content⟩ ∧
      io'.fsView = io.fsView ∧ io'.root = io.root := by
  change (StorageEditorIo.save handle content).Post io _
  refine bind (writeContent_post hfresh) ?_ ?_
  · rintro _ _ ⟨_, h, -⟩
    cases h
  · rintro versionId io' ⟨_, h, hobjects, hnames⟩
    cases h
    exact ⟨_, rfl, hobjects, hnames⟩

theorem saveDocument_call {handle} (hio : e.io = some io) (hfresh : io.Fresh) (hdocument : e.document = some handle)
    (drawn) : ∃ versionId e', (saveDocument drawn).call e = some (.ok versionId, e') ∧ ∃ io', e'.io = some io' ∧
      io'.storage.objects =
        pushVersion io.storage.objects ⟨handle.objectId, versionId, asBytes e.state.buffer.asString⟩ ∧
      io'.fsView = io.fsView ∧ io'.root = io.root := by
  apply call_ok
  unfold saveDocument
  rw [post_get_bind, hio, hdocument]
  rw [post_onIo_bind]
  refine mono (save_post hfresh _) ?_
  rintro _ io' ⟨result, rfl, hobjects, hnames⟩
  exact ⟨result.newVersionId, rfl, io', rfl, hobjects, hnames⟩

end

/-! ## A note -/

namespace Note

def root : Fs.DirectoryView := (Fs.DirectoryView.new ⟨0⟩).addEntry ⟨"f", ⟨1⟩, .blob⟩

def io : StorageEditorIo where
  storage := { JournaledStorage.new with objects := pushVersion ∅ ⟨⟨1⟩, ⟨0⟩, asBytes ['a']⟩ }
  fsView := some ⟨∅⟩
  root := some root
  ids n := n
  drawn := 0

theorem io_fresh : io.Fresh := fun _ _ => rfl

def editor : Editor StorageEditorIo := Editor.new.setIo io

theorem io_stored : io.stored ['f'] = some (asBytes ['a']) := by decide

end Note

/-! ## The next save -/

section

variable {e e₁ e₂ : Editor StorageEditorIo} {io : StorageEditorIo} {path : Text}

/-- The text in the buffer is the one at the path, or empty where there is none. -/
def Displays (io : StorageEditorIo) (path : Text) (e : Editor StorageEditorIo) : Prop :=
  match io.stored path with
  | some data => fromUtf8 data = some e.state.buffer.asString
  | none => e.state.buffer.asString = []

/-- A plain save puts the text at the path, and nothing else changes. -/
def SavesAt (io : StorageEditorIo) (path : Text) (e : Editor StorageEditorIo) (drawn : Uuid) : Prop :=
  ∃ versionId e' io', (saveDocument drawn).call e = some (.ok versionId, e') ∧ e'.io = some io' ∧
    io'.stored path = some (asBytes e.state.buffer.asString) ∧
    ∀ path', io.resolve path' ≠ io.resolve path → io'.stored path' = io.stored path'

section

variable {handle : DocumentHandle} {io₁ : StorageEditorIo} {drawn : Uuid} (hagrees : io.Agrees io₁) (hfresh : io₁.Fresh)
  (hio : e.io = some io₁) (hdocument : e.document = some handle)

include hagrees hfresh hio hdocument

/-- With a handle, a save stores the text at the object of the handle, whatever the path of the label is. -/
theorem saveDocument_stored (drawn) : ∃ versionId e' io', (saveDocument drawn).call e = some (.ok versionId, e') ∧
    e'.io = some io' ∧ ∀ path', io'.stored path' =
      if io.resolve path' = .ok handle.objectId then some (asBytes e.state.buffer.asString) else io.stored path' := by
  obtain ⟨versionId, e', hcall, io', hio', hobjects, hfs, hroot⟩ := saveDocument_call hio hfresh hdocument drawn
  refine ⟨versionId, e', io', hcall, hio', fun path' => ?_⟩
  have hresolve : io'.resolve path' = io.resolve path' := by
    rw [resolve, resolve, hfs, hroot, hagrees.fsView, hagrees.root]
  have hdata := @dataOf_pushVersion io io' _ (hagrees.objects ▸ hobjects)
  rw [stored, stored, hresolve]
  cases io.resolve path' with
  | error => simp
  | ok objectId => simp [hdata, eq_comm]

theorem savesAt_of_resolve (hresolve : io.resolve path = .ok handle.objectId) : SavesAt io path e drawn := by
  obtain ⟨versionId, e', io', hcall, hio', hstored⟩ := saveDocument_stored hagrees hfresh hio hdocument drawn
  refine ⟨versionId, e', io', hcall, hio', (hstored path).trans (if_pos hresolve), fun path' hne => ?_⟩
  rw [hstored, if_neg (hresolve ▸ hne)]

theorem resolve_of_savesAt (hmissing : io.stored path = none) (h : SavesAt io path e drawn) :
    io.resolve path = .ok handle.objectId := by
  obtain ⟨_, _, _, hcall, hio', hstored⟩ := saveDocument_stored hagrees hfresh hio hdocument drawn
  obtain ⟨_, _, _, hcall', hio'', hsaved, -⟩ := h
  cases hcall.symm.trans hcall'
  cases hio'.symm.trans hio''
  rw [hstored] at hsaved
  by_contra hne
  rw [if_neg hne, hmissing] at hsaved
  cases hsaved

end

/-- What an open shows is the text at the path, exactly if that has no final newline and no carriage return before a
newline, or if nothing is there and the buffer was empty before. After any keys that run no command, a save puts the
text there and changes nothing else, exactly if something is there or the handle from before is that of the path. -/
theorem opened_document_saved_iff (hio : e.io = some io) (hfresh : io.Fresh)
    (hopen : (openWith (.withPath path)).call e = some (.ok (), e₁)) :
    (Displays io path e₁ ↔ match io.stored path with
      | some data => ∀ content, fromUtf8 data = some content → PandaGen.Editor.TextBuffer.KeepsText content
      | none => e.state.buffer.asString = []) ∧
    ∀ tr e₂ drawn, machine.Run (fun e call _ => Types e call) e₁ tr e₂ →
      (SavesAt io path e₂ drawn ↔ (io.stored path).isSome ∨
        ∃ handle, e.document = some handle ∧ io.resolve path = .ok handle.objectId) := by
  obtain ⟨io₁, hopened⟩ := (openWith_post hio hfresh).of_call hopen rfl
  rcases hlookup : io.lookup path with error | ⟨objectId, data⟩
  · obtain ⟨rfl, hdocument, hbuffer⟩ := hopened.missing error hlookup
    have hmissing : io.stored path = none := by rw [stored_eq, hlookup]; rfl
    rw [Displays, hmissing, hbuffer]
    refine ⟨Iff.rfl, fun tr e₂ drawn hrun => ?_⟩
    obtain ⟨hio₂, hdocument₂⟩ := types_run hrun
    rw [hopened.io] at hio₂
    rw [hdocument] at hdocument₂
    simp only [Option.isSome_none, Bool.false_eq_true, false_or]
    constructor
    · intro hsaves
      cases hhandle : e.document with
      | none =>
        obtain ⟨_, _, _, hcall, -⟩ := hsaves
        have hrefused : (saveDocument drawn).Post e₂ fun r _ => ∀ versionId, r ≠ .ok versionId := by
          rw [saveDocument, post_get_bind, hio₂, hdocument₂, hhandle]
          exact fun _ h => by cases h
        exact absurd rfl (hrefused.of_call hcall _)
      | some handle =>
        refine ⟨handle, rfl, ?_⟩
        exact resolve_of_savesAt hopened.agrees hopened.fresh hio₂ (hdocument₂.trans hhandle) hmissing hsaves
    · rintro ⟨handle, hhandle, hresolve⟩
      exact savesAt_of_resolve hopened.agrees hopened.fresh hio₂ (hdocument₂.trans hhandle) hresolve
  · obtain ⟨content, handle, hcontent, rfl, hdocument, hbuffer⟩ := hopened.found objectId data hlookup
    have hstored : io.stored path = some data := by rw [stored_eq, hlookup]; rfl
    rw [Displays, hstored, hbuffer]
    dsimp only
    rw [hcontent]
    constructor
    · simp only [Option.some.injEq, forall_eq']
      rw [eq_comm]
      exact PandaGen.Editor.TextBuffer.asString_fromString
    · intro tr e₂ drawn hrun
      obtain ⟨hio₂, hdocument₂⟩ := types_run hrun
      refine iff_of_true ?_ (.inl rfl)
      exact savesAt_of_resolve hopened.agrees hopened.fresh (hio₂.trans hopened.io) (hdocument₂.trans hdocument)
        (resolve_of_lookup hlookup)

end

theorem opened_document_saved_note : ∃ e, (openWith (.withPath ['f'])).call Note.editor = some (.ok (), e) ∧
    Displays Note.io ['f'] e ∧ SavesAt Note.io ['f'] e 0 := by
  have hopen : (openWith (.withPath ['f'])).call Note.editor = some (.ok (), _) := rfl
  obtain ⟨hshows, hsaves⟩ := opened_document_saved_iff rfl Note.io_fresh hopen
  rw [Note.io_stored] at hshows hsaves
  refine ⟨_, hopen, hshows.mpr fun content hcontent => ?_, (hsaves [] _ 0 .nil).mpr (.inl rfl)⟩
  cases hcontent
  exact ⟨by decide, by decide⟩

/-- There is no `m`: the editor goes on with `f`, and saves to it. -/
theorem missing_document_opened : ∃ e e₁ e₂ io₂ versionId,
    machine.FreeRun Note.editor [(.loadDocument ['a'] ⟨⟨1⟩, ⟨0⟩, some ['f'], true⟩, .ok ())] e ∧
    (openWith (.withPath ['m'])).call e = some (.ok (), e₁) ∧ Note.io.stored ['m'] = none ∧
    e₁.state.buffer.asString = ['a'] ∧ (saveDocument 0).call e₁ = some (.ok versionId, e₂) ∧ e₂.io = some io₂ ∧
    io₂.stored ['m'] = none ∧ io₂.storage.objects[(⟨1⟩ : ObjectId)]?.map List.length = some 2 :=
  ⟨_, _, _, _, _, .cons rfl trivial .nil, rfl, by decide, rfl, rfl, rfl, by decide, by decide⟩

end Editor

end PandaGen.Vi
