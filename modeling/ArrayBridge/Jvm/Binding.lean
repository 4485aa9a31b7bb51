import ArrayBridge.Jvm.Host

/-
  Binding the managed up-calls. The class of the up-calls instance must have the four array
  up-calls, the up-calls class the static `setComplete`, and the wrapper class its `contents`
  field; then global references are taken to the instance and the two classes, in that order.
  A failure names what was being bound. Dropping the bindings deletes the three global
  references in the same order.
-/

namespace ArrayBridge.Jvm

open ArrayBridge

/-- The name the up-calls instance is bound under. -/
def upcallsName : String := "<up-calls instance>"

namespace World

variable {α : Type}

/-- Run a checked call, answering its failure as the fault `fault` makes of the error. -/
def checked (fault : CallError → Fault) (c : Checked α) : Op World α := fun w =>
  match c w.vm with
  | .ok a vm => .ok a { w with vm }
  | .error e vm => .error (.fault (fault e)) { w with vm }

/-- Run a checked call of binding `what name`. -/
def bound (what name : String) (c : Checked α) : Op World α :=
  checked (fun e => .binding what name e.message) c

/-- Bind the up-calls on the instance `upcalls`. The class of the instance and the two classes
found by name stay behind as local references; the global references are taken to the instance
and to the two classes. -/
def bind (upcalls : Ref) : Op World Bindings := do
  let cls ← bound "class" upcallsName (Checked.objectClass upcalls)
  bound "instance method" "INTEGER" (Checked.methodId cls "INTEGER" "(Ljava/lang/Object;)[I")
  bound "instance method" "REAL" (Checked.methodId cls "REAL" "(Ljava/lang/Object;)[D")
  bound "instance method" "RAW" (Checked.methodId cls "RAW" "(Ljava/lang/Object;)[B")
  bound "instance method" "LOGICAL" (Checked.methodId cls "LOGICAL" "(Ljava/lang/Object;)[B")
  let impl ← bound "class" upcallsClass (Checked.findClass upcallsClass)
  bound "static method" "setComplete"
    (Checked.staticMethodId impl "setComplete" "(Ljava/lang/Object;Z)V")
  let wrapper ← bound "class" wrapperClass (Checked.findClass wrapperClass)
  bound "field" "contents" (Checked.fieldId wrapper "contents" "Ljava/lang/String;")
  note .debug bindingTarget "bound managed up-calls"
  let u ← bound "global ref" upcallsName (Checked.globalRef upcalls)
  let i ← bound "global ref" upcallsClass (Checked.globalRef impl)
  let w ← bound "global ref" wrapperClass (Checked.globalRef wrapper)
  pure ⟨u, i, w⟩

/-- Delete a global reference held by the bindings; without `DeleteGlobalRef` it is kept. -/
def dropRef (r : Ref) : Op World Unit := do
  if (← get).vm.has "DeleteGlobalRef" then onVm (Machine.deleteGlobalRef r)

/-- Drop the bindings. -/
def unbind (b : Bindings) : Op World Unit := do
  dropRef b.upcalls
  dropRef b.upcallsClass
  dropRef b.wrapperClass

/-- The descriptor the managed side keeps for embedded tracing. -/
def traceDescriptor : Op World Int32 :=
  checked (fun e => .host "jni" e.message) Checked.traceDescriptor

end World

end ArrayBridge.Jvm
