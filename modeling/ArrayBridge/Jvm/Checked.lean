import ArrayBridge.Jvm.Machine

/-
  Checked calls into the virtual machine: each call first makes sure the native interface offers
  the function, and afterwards that no exception is pending, turning either into an error. This
  is how the bridge binds its up-calls, asks for the embedded trace descriptor and names classes
  for trace output. Lookups that find nothing are errors too: a class as a null pointer, a method
  or field as not found. A pending exception is left pending; it is not described.
-/

namespace ArrayBridge.Jvm

open ArrayBridge

/-- Why a checked call failed. -/
inductive CallError where
  /-- An exception is pending after the call. -/
  | javaException
  | methodNotFound (name signature : String)
  | fieldNotFound (name signature : String)
  /-- A null pointer where an object was needed. -/
  | nullPointer (what : String)
  /-- The native interface lacks the function. -/
  | noFunction (name : String)
  /-- The call answered an error code. -/
  | callFailed
  /-- The interface itself is a null pointer. -/
  | nullInterface (what : String)
  deriving DecidableEq, Repr

/-- The text a call error is displayed with. -/
def CallError.message : CallError → String
  | .javaException => "Java exception was thrown"
  | .methodNotFound name signature => s!"Method not found: {name} {signature}"
  | .fieldNotFound name signature => s!"Field not found: {name} {signature}"
  | .nullPointer what => s!"Null pointer in {what}"
  | .noFunction name => s!"JNIEnv null method pointer for {name}"
  | .callFailed => "JNI call failed"
  | .nullInterface what => s!"Null pointer deref in {what}"

/-- A checked call. -/
abbrev Checked := EStateM CallError Machine

/-- Exception of a class lookup that finds nothing. -/
def noClassDef : String := "java/lang/NoClassDefFoundError"
/-- Exception of a method lookup that finds nothing. -/
def noSuchMethod : String := "java/lang/NoSuchMethodError"
/-- Exception of a field lookup that finds nothing. -/
def noSuchField : String := "java/lang/NoSuchFieldError"

namespace Checked

variable {α : Type}

/-- The native interface must offer `function`. -/
def need (function : String) : Checked Unit := do
  if !(← get).has function then throw (.noFunction function)

/-- No exception may be pending. -/
def checkPending : Checked Unit := do
  need "ExceptionCheck"
  if (← get).pending.isSome then throw .javaException

/-- Call `function`, then check that no exception is pending. -/
def call (function : String) (body : Checked α) : Checked α := do
  need function
  let a ← body
  checkPending
  pure a

/-- A lookup that found nothing leaves an exception pending, unless lookups answer null. -/
def missed (cls : String) : Checked Bool := do
  if !(← get).setup.lookupNull then Machine.raise cls
  pure false

/-- Drop a local reference made along the way; without `DeleteLocalRef` it is kept. -/
def dropLocal (r : Ref) : Checked Unit := do
  if (← get).has "DeleteLocalRef" then Machine.deleteLocalRef r

/-- The class of a non-null object, as a new auxiliary reference. The machine's answer is only
checked for null, not for a pending exception. -/
def objectClass (x : Ref) : Checked Ref := do
  if x = .null then throw (.nullPointer "get_object_class")
  need "GetObjectClass"
  let c ← Machine.classRef x
  if c = .null then throw (.nullPointer "GetObjectClass result")
  pure c

/-- Find a class by slash name, as a new auxiliary reference. -/
def findClass (name : String) : Checked Ref := do
  let c ← call "FindClass" (do
    if (← get).findsClass name then Machine.newAux (.cls name) none
    else do
      let _ ← missed noClassDef
      pure .null)
  if c = .null then throw (.nullPointer "FindClass result")
  pure c

/-- Look up a member of the class `cls` by name through `function`. -/
def lookup (function : String) (cls : Ref) (name : String) (exception : String) : Checked Bool :=
  call function (do if (← get).hasMember cls name then pure true else missed exception)

/-- Look up an instance method of a class. -/
def methodId (cls : Ref) (name signature : String) : Checked Unit := do
  if !(← lookup "GetMethodID" cls name noSuchMethod) then
    throw (.methodNotFound name signature)

/-- Look up a static method of a class. -/
def staticMethodId (cls : Ref) (name signature : String) : Checked Unit := do
  if !(← lookup "GetStaticMethodID" cls name noSuchMethod) then
    throw (.methodNotFound name signature)

/-- Look up a field of a class. -/
def fieldId (cls : Ref) (name signature : String) : Checked Unit := do
  if !(← lookup "GetFieldID" cls name noSuchField) then
    throw (.fieldNotFound name signature)

/-- A global reference to `x`, which may come back null; the machine's handle is taken first. -/
def globalRef (x : Ref) : Checked Ref := do
  need "GetJavaVM"
  if (← get).failsOn "GetJavaVM" then throw .callFailed
  need "NewGlobalRef"
  Machine.newGlobalRef x

/-- The descriptor the managed side keeps for embedded tracing: a static call on the utilities
class answering a file descriptor object, then that object's `fd` field. The class and the
descriptor's class are local references dropped after use. -/
def traceDescriptor : Checked Int32 := do
  let utils ← findClass utilsClass
  staticMethodId utils "getTraceFileDescriptor" "()Ljava/io/FileDescriptor;"
  let descriptor ← call "CallStaticObjectMethodA" (do
    Machine.record .traceDescriptor
    if (← get).failsOn "getTraceFileDescriptor" then
      Machine.raise runtimeException
      pure .null
    else
      match (← get).setup.traceFd with
      | some fd => Machine.newAux (.descriptor fd) none
      | none => pure .null)
  dropLocal utils
  let fd := match (← get).auxRef? descriptor with
    | some ⟨.descriptor fd, _, _⟩ => fd
    | _ => 0
  let cls ← objectClass descriptor
  fieldId cls "fd" "I"
  let fd ← call "GetIntField" (pure fd)
  dropLocal cls
  pure fd

/-- The dotted name of the class of a non-null object, asked of the class itself: the class's
own class is looked up for `getName`, and the name comes back as a string that is checked to be
one before its characters are read. -/
def className (x : Ref) : Checked String := do
  let cls ← objectClass x
  let name := match (← get).auxRef? cls with
    | some ⟨.cls c, _, _⟩ => dotted c
    | _ => ""
  let classOfClass ← objectClass cls
  methodId classOfClass "getName" "()Ljava/lang/String;"
  let text ← call "CallObjectMethodA" (do
    Machine.record (.className name)
    if (← get).failsOn "getName" then
      Machine.raise runtimeException
      pure .null
    else Machine.newAux (.name name) none)
  dropLocal classOfClass
  let _ ← findClass stringClass
  let _ ← objectClass text
  call "IsAssignableFrom" (pure ())
  need "GetStringUTFChars"
  if (← get).failsOn "GetStringUTFChars" then throw (.nullPointer "GetStringUTFChars result")
  checkPending
  pure name

theorem need_of_has (function : String) (m : Machine) (h : m.has function = true) :
    need function m = .ok () m := by
  have hget : (get : Checked Machine) m = .ok m m := rfl
  simp [need, h, bind, EStateM.bind, hget, pure, EStateM.pure]

end Checked

end ArrayBridge.Jvm
