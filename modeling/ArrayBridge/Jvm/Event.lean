import ArrayBridge.Jvm.Object
import ArrayBridge.Json.Value

/-
  The calls into the virtual machine that a session reports, in the order they were made.
  Lookups, exception checks, identity and validity tests, lengths, string access and the
  machine's own bookkeeping are not reported. Arrays appear by object number; references as the
  machine shows them when the call is made (`Shown`): by number, or, for an auxiliary
  reference, by the class it names, or as auxiliary when it names something else.
-/

namespace ArrayBridge.Jvm

open ArrayBridge

/-- A reference as a report shows it. -/
inductive Shown where
  | null
  /-- A reference below `auxBase`, by its number. -/
  | number (n : Nat)
  /-- An auxiliary reference to the class with this slash name. -/
  | cls (name : String)
  /-- Any other auxiliary reference. -/
  | aux
  deriving DecidableEq, Repr

/-- What a call answering an object gave back: a reference, possibly null, or an exception. -/
inductive Reply where
  | ref (r : Shown)
  | threw
  deriving DecidableEq, Repr

/-- A reported call. -/
inductive Event where
  /-- An up-call asked for the array of `x`. -/
  | upcall (method : String) (x : Shown) (reply : Reply)
  /-- The conversion outcome of `x` was reported. -/
  | setComplete (x : Shown) (complete : Bool)
  /-- The managed side was asked for its trace descriptor. -/
  | traceDescriptor
  /-- A class was asked for its name; the name is given with dots. -/
  | className (name : String)
  /-- An array was pinned; the pin is absent when pinning failed. -/
  | elements (function : String) (array : Option Nat) (pin : Option Nat)
  /-- A pin was handed back in a mode: 0 copies back and frees, 1 copies back, 2 frees. -/
  | releaseElements (function : String) (array : Option Nat) (pin : Option Nat) (mode : Nat)
  /-- A run of an array was read or written. -/
  | region (function : String) (array : Option Nat) (start len : Nat) (threw : Bool)
  /-- The `contents` field of `x` was read. -/
  | objectField (x : Shown) (reply : Reply)
  | newGlobalRef (x : Shown) (result : Shown)
  | deleteGlobalRef (x : Shown)
  | deleteLocalRef (x : Shown)
  /-- The pending exception, of this class, was described and cleared. -/
  | exceptionDescribe (cls : String)
  /-- The process was ended with a message. -/
  | fatalError (message : String)

/-- The JSON form of a shown reference. -/
def Shown.toJson : Shown → Json
  | .null => .null
  | .number n => Json.ofNat n
  | .cls name => .str ("class:" ++ name)
  | .aux => .str "aux"

/-- The JSON form of a reply. -/
def Reply.toJson : Reply → Json
  | .ref r => r.toJson
  | .threw => .str "throws"

/-- The JSON form of an event: the function's name, then its arguments and result. -/
def Event.toJson : Event → Json
  | .upcall method x reply => .arr [.str method, x.toJson, reply.toJson]
  | .setComplete x complete => .arr [.str "setComplete", x.toJson, .bool complete]
  | .traceDescriptor => .arr [.str "getTraceFileDescriptor"]
  | .className name => .arr [.str "getName", .str name]
  | .elements function array pin =>
    .arr [.str function, Json.ofOption Json.ofNat array, Json.ofOption Json.ofNat pin]
  | .releaseElements function array pin mode =>
    .arr [.str function, Json.ofOption Json.ofNat array, Json.ofOption Json.ofNat pin,
      Json.ofNat mode]
  | .region function array start len threw =>
    .arr ([.str function, Json.ofOption Json.ofNat array, Json.ofNat start, Json.ofNat len] ++
      (if threw then [.str "throws"] else []))
  | .objectField x reply => .arr [.str "GetObjectField", x.toJson, reply.toJson]
  | .newGlobalRef x result => .arr [.str "NewGlobalRef", x.toJson, result.toJson]
  | .deleteGlobalRef x => .arr [.str "DeleteGlobalRef", x.toJson]
  | .deleteLocalRef x => .arr [.str "DeleteLocalRef", x.toJson]
  | .exceptionDescribe cls => .arr [.str "ExceptionDescribe", .str cls]
  | .fatalError message => .arr [.str "FatalError", .str message]

end ArrayBridge.Jvm
