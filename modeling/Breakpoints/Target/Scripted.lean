import Breakpoints.Target.Basic

/-!
A target that is told what it has loaded.  It keeps the requests armed in it and gives the hits
that they would cause.
-/

namespace Breakpoints

structure LoadedClass where
  handle : ClassHandle
  sourcePath : String
  /-- Lines with code, and the index where it begins. -/
  lines : Table Nat Nat
  methods : List MethodInfo
  fields : List FieldHandle

/-- A request as it was armed, and whether it is enabled now. -/
structure ArmedRequest where
  spec : RequestSpec
  enabled : Bool
deriving DecidableEq, Repr

structure ScriptedTarget where
  classes : List LoadedClass
  /-- How many classes were ever loaded. -/
  loaded : Nat
  /-- How many methods and fields were ever added. -/
  members : Nat
  requests : Table Int ArmedRequest
  /-- How many requests were ever armed; their ids count up from one.  Ids of requests are signed
  words of 32 bits, so fewer than 2 ^ 31 requests are meant to be armed. -/
  created : Nat
  cleared : List Int
  current : Option CurrentLocation
  groups : List ThreadGroup
  disconnected : Bool

namespace ScriptedTarget

/-- A connected target with nothing in it. -/
def initial : ScriptedTarget where
  classes := []
  loaded := 0
  members := 0
  requests := ∅
  created := 0
  cleared := []
  current := none
  groups := []
  disconnected := false

instance : Inhabited ScriptedTarget := ⟨initial⟩

/-- The first class with a handle. -/
def classOf? (t : ScriptedTarget) (handle : ClassHandle) : Option LoadedClass :=
  t.classes.find? fun c => c.handle = handle

/-- Applies `f` to the first class with a handle in a list. -/
def updateFirst (handle : ClassHandle) (f : LoadedClass → LoadedClass) :
    List LoadedClass → List LoadedClass
  | [] => []
  | c :: rest => if c.handle = handle then f c :: rest else c :: updateFirst handle f rest

def updateClass (t : ScriptedTarget) (handle : ClassHandle) (f : LoadedClass → LoadedClass) :
    ScriptedTarget :=
  { t with classes := updateFirst handle f t.classes }

/-- Loads a class from a source path, as the last one. -/
def load (t : ScriptedTarget) (name sourcePath : String) : ClassHandle × ScriptedTarget :=
  let handle := ⟨0x100 + (t.loaded + 1), name⟩
  (handle,
    { t with
      loaded := t.loaded + 1
      classes := t.classes ++ [⟨handle, sourcePath, ∅, [], []⟩] })

/-- Unloads the first class with a name. -/
def unload (t : ScriptedTarget) (name : String) : Option ClassHandle × ScriptedTarget :=
  match t.classes.find? fun c => c.handle.name = name with
  | none => (none, t)
  | some c =>
    (some c.handle, { t with classes := t.classes.eraseP fun c => c.handle.name = name })

/-- Gives a line code that begins at `index`. -/
def addLine (t : ScriptedTarget) (owner : ClassHandle) (line index : Nat) : ScriptedTarget :=
  t.updateClass owner fun c => { c with lines := c.lines.insert line index }

def addMethod (t : ScriptedTarget) (owner : ClassHandle) (name : String)
    (parameterTypes : List String) : MethodInfo × ScriptedTarget :=
  let methodId := 0x1000 + (t.members + 1)
  let added : MethodInfo := ⟨methodId, name, parameterTypes, ⟨1, owner.typeId, methodId, 0⟩⟩
  (added,
    { t with members := t.members + 1 }.updateClass owner fun c =>
      { c with methods := c.methods ++ [added] })

def addField (t : ScriptedTarget) (owner : ClassHandle) (name : String) :
    FieldHandle × ScriptedTarget :=
  let added : FieldHandle := ⟨0x1000 + (t.members + 1), name⟩
  (added,
    { t with members := t.members + 1 }.updateClass owner fun c =>
      { c with fields := c.fields ++ [added] })

def setCurrent (t : ScriptedTarget) (current : Option CurrentLocation) : ScriptedTarget :=
  { t with current }

def setGroups (t : ScriptedTarget) (groups : List ThreadGroup) : ScriptedTarget :=
  { t with groups }

/-- From now on every operation on requests fails. -/
def disconnect (t : ScriptedTarget) : ScriptedTarget :=
  { t with disconnected := true }

/-- Whether a request stops at a location. -/
def ArmedRequest.stopsAt (request : ArmedRequest) (location : Location) : Bool :=
  request.enabled &&
    match request.spec.anchor with
    | .location _ place => place = location
    | .method _ member => member.location = location
    | _ => false

/-- The hits that a thread causes by reaching a location. -/
def hitsAt (t : ScriptedTarget) (location : Location) (state : TargetState) :
    List TargetEvent :=
  (t.requests.entries.filter fun e => ArmedRequest.stopsAt e.2 location).map fun e =>
    .hit e.1 { state with location := some location }

def codeAt? (t : ScriptedTarget) (owner : ClassHandle) (line : Nat) : Option Location :=
  (t.classOf? owner).bind fun c =>
    (c.lines.find? line).map fun index =>
      ⟨1, c.handle.typeId, (c.methods.head?.map (·.methodId)).getD 0, index⟩

def arm (t : ScriptedTarget) (spec : RequestSpec) : Except TargetFailure Int × ScriptedTarget :=
  if t.disconnected then (.error .disconnected, t)
  else
    let request : Int := t.created + 1
    (.ok request,
      { t with
        created := t.created + 1
        requests := t.requests.insert request ⟨spec, spec.enabled⟩ })

def setArmed (t : ScriptedTarget) (request : Int) (enabled : Bool) :
    Except TargetFailure Unit × ScriptedTarget :=
  if t.disconnected then (.error .disconnected, t)
  else if t.requests.contains request then
    (.ok (), { t with requests := t.requests.modify request fun r => { r with enabled } })
  else (.error (.invalidRequest request), t)

def clear (t : ScriptedTarget) (request : Int) : Except TargetFailure Unit × ScriptedTarget :=
  if t.disconnected then (.error .disconnected, t)
  else if t.requests.contains request then
    (.ok (), { t with requests := t.requests.erase request, cleared := t.cleared ++ [request] })
  else (.error (.invalidRequest request), t)

instance : Target ScriptedTarget where
  currentLocation t := t.current
  classNamed? t name := (t.classes.find? fun c => c.handle.name = name).map (·.handle)
  classesFrom t fileName :=
    (t.classes.filter fun c => SourceKey.lastSegment c.sourcePath = fileName).map fun c =>
      (c.handle, c.sourcePath)
  codeAt? := codeAt?
  methods t owner := ((t.classOf? owner).map (·.methods)).getD []
  field? t owner name := (t.classOf? owner).bind fun c => c.fields.find? fun x => x.name = name
  threadGroups t := t.groups
  arm := arm
  setArmed := setArmed
  clear := clear

end ScriptedTarget

end Breakpoints
