import PandaGen.Workspace.Input

/-!
# Key bindings

`services_workspace_manager/src/keybindings.rs`, and `route_input` of `lib.rs` with any of them. The names of profiles
are left out.
-/

namespace PandaGen.Workspace

open Lib Input Vi
open WorkspaceManager (Work executeAction routeToFocused)

structure KeyCombo where
  code : KeyCode
  modifiers : Modifiers
  deriving DecidableEq

/-- The state of the key is not looked at. -/
def KeyCombo.fromEvent (event : KeyEvent) : KeyCombo := ⟨event.code, event.modifiers⟩

structure KeyBindingProfile where
  bindings : KeyCombo → Option Action

/-- A workspace, with the actions that were executed and the events they were executed for. -/
structure Routed (σ L R : Type) where
  manager : WorkspaceManager σ L R
  executed : List (KeyEvent × Action)

namespace KeyBindingProfile

def new : KeyBindingProfile := ⟨fun _ => none⟩

def bind (self : KeyBindingProfile) (combo : KeyCombo) (action : Action) : KeyBindingProfile :=
  ⟨Function.update self.bindings combo (some action)⟩

def getAction (self : KeyBindingProfile) (event : KeyEvent) : Option Action := self.bindings (.fromEvent event)

def defaultProfile : KeyBindingProfile :=
  let profile := new.bind ⟨.tab, .alt⟩ .switchTile
  let profile := profile.bind ⟨.s, .ctrl⟩ .save
  let profile := profile.bind ⟨.q, .ctrl⟩ .quit
  let profile := profile.bind ⟨.num1, .ctrl⟩ .focusTop
  profile.bind ⟨.num2, .ctrl⟩ .focusBottom

variable {σ L R : Type}

def onManager {α : Type} (m : Work σ L R α) : Proc (Routed σ L R) WorkspaceError α :=
  m.zoom Routed.manager fun manager r => { r with manager }

variable [EditorIo σ] (env : Services σ L R)

def execute (event : KeyEvent) (action : Action) : Proc (Routed σ L R) WorkspaceError Bool := do
  modify fun r => { r with executed := r.executed ++ [(event, action)] }
  onManager (executeAction env action)

def consume (self : KeyBindingProfile) (event : KeyEvent) : Proc (Routed σ L R) WorkspaceError Bool :=
  match self.getAction event with
  | some action => execute env event action
  | none => pure false

def routeInput (self : KeyBindingProfile) (event : KeyEvent) :
    Proc (Routed σ L R) WorkspaceError (Option ComponentId) := do
  if ← self.consume env event then return none
  else onManager (routeToFocused env (.key event))

def machine (self : KeyBindingProfile) :
    Machine (Routed σ L R) KeyEvent (Except WorkspaceError (Option ComponentId)) :=
  ⟨fun r event => (self.routeInput env event).call r⟩

end KeyBindingProfile

end PandaGen.Workspace
