import ArrayBridge.Jvm.Binding
import ArrayBridge.Bridge.Lifecycle
import ArrayBridge.Bridge.Refs
import ArrayBridge.Config.Env

/-
  The process hosting the bridge and its exported entry points. The process holds at most one
  installed bridge; initialising reads the configuration from the environment, binds the
  up-calls, in embedded mode with console tracing asks the managed side for the descriptor to
  trace to instead, installs the logger (once per process: later installs keep the first) and
  then replaces any bridge installed before, whose bindings are dropped. A failure after binding
  drops the new bindings first.

  Every other entry point runs against the installed bridge; before one is installed it ends the
  process. An interface pointer handed to an entry point is the one the bridge calls through;
  entry points without one keep using the last. Every fault of the bridge is reported and ends
  the process through the virtual machine.
-/

namespace ArrayBridge.Jvm

open ArrayBridge

/-- The bridge over the virtual machine. -/
abbrev Attached := Bridge Link Ref Ref Nat

/-- An installed bridge apart from the world it runs in. -/
structure Installed where
  bindings : Bindings
  config : Config
  table : Table (Entry Ref Ref Nat)
  calls : CallStack
  refs : Table (RefSlot Ref)

/-- The process. -/
structure Process where
  world : World
  /-- Environment variables. -/
  environ : List (String × String)
  /-- Whether embedded mode was requested before initialisation. -/
  embedded : Bool
  installed : Option Installed

/-- The bridge an installed one makes in a world. -/
def Installed.attach (i : Installed) (w : World) : Attached :=
  ⟨⟨w, i.bindings⟩, i.config, i.table, i.calls, i.refs⟩

/-- The world and the installed part of a bridge. -/
def Installed.detach (b : Attached) : World × Installed :=
  (b.host.world, ⟨b.host.bindings, b.config, b.table, b.calls, b.refs⟩)

/-- The version of the native interface the library asks for. -/
def interfaceVersion : Nat := 0x10006

namespace Process

variable {α : Type}

/-- A process in a world, with nothing installed. -/
def start (w : World) (environ : List (String × String)) : Process := ⟨w, environ, false, none⟩

/-- Run a world operation in the process. -/
def onWorld (m : Op World α) : Op Process α :=
  Op.focus (·.world) (fun w p => { p with world := w }) m

/-- Ask for embedded mode. -/
def setEmbedded : Op Process Unit := modify fun p => { p with embedded := true }

/-- Install the logger a configuration selects, unless one is installed; answers the threshold
in place. -/
def initLogging (c : Config) : Op World Level := do
  let w ← get
  match w.console.logger with
  | some g => pure g.threshold
  | none =>
    let g ← Op.ofExcept (Logger.forConfig isOpenDescriptor c)
    let (level, console) := w.console.install g
    set { w with console }
    pure level

/-- Run a step of installing that comes after binding; its failure drops the bindings. -/
def afterBinding (b : Bindings) (m : Op World α) : Op World α := do
  match ← Op.attempt m with
  | .ok a => pure a
  | .error f =>
    World.unbind b
    Op.fail f

/-- Install a bridge bound on `upcalls`, replacing any installed one. -/
def install (upcalls : Ref) : Op Process Unit := do
  let p ← get
  let config ← Op.ofExcept (Config.ofLookup (fun k => p.environ.lookup k))
  let config := if p.embedded then { config with embedded := true } else config
  let bindings ← onWorld (World.bind upcalls)
  let config ← if config.embedded && config.trace = .console then do
      let fd ← onWorld (afterBinding bindings World.traceDescriptor)
      pure { config with trace := .descriptor fd }
    else pure config
  let level ← onWorld (afterBinding bindings (initLogging config))
  let w := (← get).world
  let bridge : Attached ← onWorld (afterBinding bindings (Op.ofExcept (Bridge.new ⟨w, bindings⟩ config)))
  let (_, installed) := Installed.detach bridge
  onWorld (World.note .info exportsTarget s!"rffi bridge initialized, log level {level.name}")
  let previous := (← get).installed
  modify fun p => { p with installed := some installed }
  match previous with
  | some old => onWorld (World.unbind old.bindings)
  | none => pure ()

/-- The entry point that initialises the bridge; a failure ends the process. The managed side
always calls it with its interface pointer. -/
def initBridge (upcalls : Ref) : Op Process Unit := do
  match ← Op.attempt (install upcalls) with
  | .ok () => pure ()
  | .error f =>
    let never ← onWorld (World.fatal .live f.message)
    nomatch never

/-- Run a bridge operation on the installed bridge; a fault is reported and ends the process. -/
def withBridge (env : Env) (m : Op Attached α) : Op Process α := do
  match (← get).installed with
  | none =>
    let never ← onWorld (World.fatal env notInitialised)
    nomatch never
  | some i =>
    let guarded : Op Attached α := do
      match ← Op.attempt m with
      | .ok a => pure a
      | .error f => Bridge.fatal f
    Op.focus (fun p => i.attach p.world)
      (fun b p => let (w, i') := Installed.detach b; { p with world := w, installed := some i' })
      guarded

/-- Enter a native call with a recovery token. -/
def callEnter (env : Env) (token : Nat) : Op Process Unit :=
  withBridge env (do let _ ← Bridge.enterCall token)

/-- Exit the innermost native call. -/
def callExit (env : Env) : Op Process Unit := withBridge env Bridge.exitCall

/-- The recovery token of the innermost call. -/
def recoveryPoint : Op Process Nat := withBridge .null Bridge.recoveryPoint

/-- The native address of an object's elements, for a kind given by type code. -/
def nativeArray (env : Env) (x : Ref) (code : Int32) : Op Process (Address Nat) :=
  withBridge env (do Bridge.acquire x (← Op.ofExcept (ElemKind.ofCode code)))

/-- Finish every buffer of an object. -/
def invalidate (env : Env) (x : Ref) : Op Process Unit :=
  withBridge env (do let _ ← Bridge.invalidate x)

/-- Refresh every buffer of the current call from the managed side. -/
def updateArrays (env : Env) : Op Process Unit := withBridge env Bridge.refreshAll

/-- Copy every buffer of the current call back to the managed side. -/
def updateObjects (env : Env) : Op Process Unit := withBridge env Bridge.pushBackAll

/-- Copy an object's buffer back to the managed side. -/
def updateObject (env : Env) (x : Ref) : Op Process Unit :=
  withBridge env (do let _ ← Bridge.pushToManaged x)

/-- A long-lived reference to an object; a non-zero `permanent` makes it permanent. -/
def createGlobalRef (env : Env) (x : Ref) (permanent : Int32) : Op Process Ref :=
  withBridge env (Bridge.createRef x (permanent ≠ 0))

/-- Release the transient long-lived references of an object. -/
def releaseGlobalRef (env : Env) (x : Ref) : Op Process Unit :=
  withBridge env (do let _ ← Bridge.releaseRef x)

/-- The long-lived reference of an object, or the object itself. -/
def checkRef (env : Env) (x : Ref) : Op Process Ref := withBridge env (Bridge.checkRef x)

/-- The element width of a kind given by type code; text has none. -/
def typeSize (code : Int32) : Op Process Nat :=
  withBridge .null (do
    match ← Op.ofExcept (ElemKind.ofCode code) with
    | .char => Op.fail (.unexpectedKind "char has no element width")
    | k => pure k.width)

theorem withBridge_uninstalled (env : Env) (m : Op Attached α) (p : Process)
    (h : p.installed = none) :
    ∃ stop p', withBridge env m p = .error stop p' := by
  unfold withBridge
  have hget : (get : Op Process Process) p = .ok p p := rfl
  simp only [bind, EStateM.bind, hget, h]
  cases hf : onWorld (World.fatal env notInitialised) p with
  | ok never _ => exact nomatch never
  | error stop p' => exact ⟨stop, p', rfl⟩

end Process

end ArrayBridge.Jvm
