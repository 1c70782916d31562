import Breakpoints.Registry.Basic

/-!
Binding breakpoints to the target and releasing them: resolution, reaction to events, enabling,
reset and destruction.
-/

namespace Breakpoints.Registry

variable {τ : Type} [Target τ]

/-- Binds a breakpoint and arms its request.  A bound breakpoint stays as it is. -/
def resolve (m : Registry τ) (id : Nat) : Except Failure Resolution × Registry τ :=
  match m.find? id with
  | none => (.error (.unknownBreakpoint id), m)
  | some bp =>
    if bp.destroyed then (.error (.unknownBreakpoint id), m)
    else if bp.resolved then (.ok .alreadyResolved, m)
    else match bp.spec.resolve m.target with
      | .error e => (.error e, m)
      | .ok none => (.ok .pending, m)
      | .ok (some anchor) =>
        match Target.arm m.target (bp.requestFor anchor) with
        | (.error e, target) => (.error (.target e), { m with target })
        | (.ok request, target) =>
          (.ok (.resolved request),
            { m.store { bp with binding := some ⟨request, anchor, false⟩ } id with
              target
              requests := m.requests.insert request id })

/-- Whether a breakpoint is live and not bound. -/
def isUnbound (m : Registry τ) (id : Nat) : Bool :=
  match m.find? id with
  | none => false
  | some bp => !bp.resolved && !bp.destroyed

/-- Tries to bind the unbound ones of the given breakpoints; the first part lists the failures. -/
def resolveEach (m : Registry τ) : List Nat → List (Nat × Failure) × Registry τ
  | [] => ([], m)
  | id :: ids =>
    if m.isUnbound id then
      match m.resolve id with
      | (.ok _, m) => resolveEach m ids
      | (.error e, m) =>
        let (failures, m) := resolveEach m ids
        ((id, e) :: failures, m)
    else resolveEach m ids

/-- Tries to bind every breakpoint that is not bound, disabled and expired ones too. -/
def resolveAll (m : Registry τ) : List (Nat × Failure) × Registry τ :=
  m.resolveEach m.ids

/-- Clears a request in the target; one that is gone already is no failure. -/
def clearRequest (m : Registry τ) (request : Int) : Registry τ :=
  { m with target := (Target.clear m.target request).2 }

/-- Unbinds one breakpoint if its anchor is among those `released`, and clears its request in the
target if asked to. -/
def unbind (m : Registry τ) (released : Anchor → Bool) (clearing : Bool) (id : Nat) :
    Registry τ :=
  match m.find? id with
  | none => m
  | some bp =>
    match bp.binding with
    | none => m
    | some binding =>
      if released binding.anchor then
        let m := m.store { bp with binding := none } id
        let m := { m with requests := m.requests.erase binding.request }
        if clearing then m.clearRequest binding.request else m
      else m

/-- Unbinds every breakpoint whose anchor is among those `released`. -/
def unbindAll (m : Registry τ) (released : Anchor → Bool) (clearing : Bool) : Registry τ :=
  m.ids.foldl (fun m id => m.unbind released clearing id) m

/-- Follows a change in what the target has loaded; the first part lists the breakpoints that
failed to bind.  The requests of a dead target are gone with it and are not cleared. -/
def onStructuralChange (m : Registry τ) : TargetEvent → List (Nat × Failure) × Registry τ
  | .vmStart | .classPrepare _ | .threadStart .. | .threadDeath .. => m.resolveAll
  | .classUnload className =>
    ([], m.unbindAll (fun anchor => anchor.className? = some className) true)
  | .vmDeath => ([], m.unbindAll (fun _ => true) false)
  | .hit .. => ([], m)

/-- Destroys a breakpoint: releases its request and takes it out of its group.  The first part
tells whether there was one. -/
def destroy (m : Registry τ) (id : Nat) : Bool × Registry τ :=
  match m.find? id with
  | none => (false, m)
  | some bp =>
    let m := { m with breakpoints := m.breakpoints.erase id }
    let m := match bp.binding with
      | none => m
      | some binding =>
        { m with requests := m.requests.erase binding.request }.clearRequest binding.request
    (true, { m with groups := (m.groups.removeMember bp.group id).2 })

/-- Binds a new breakpoint if the settings ask for it.  An ambiguous method takes the breakpoint
back; after any other failure it stays unbound. -/
def resolveNew (m : Registry τ) (id : Nat) : Except Failure Nat × Registry τ :=
  if m.settings.resolveOnCreate then
    match m.resolve id with
    | (.error (.ambiguousOverload className methodName candidates), m) =>
      (.error (.ambiguousOverload className methodName candidates), (m.destroy id).2)
    | (_, m) => (.ok id, m)
  else (.ok id, m)

/-- Creates a breakpoint in a group. -/
def createSpec (m : Registry τ) (spec : Spec) (group : Nat) : Except Failure Nat × Registry τ :=
  match m.insert spec group .ok with
  | (.error e, m) => (.error e, m)
  | (.ok id, m) => m.resolveNew id

/-- Creates the breakpoint that a text asks for. -/
def createIn (m : Registry τ) (raw : String) (group : Nat) : Except Failure Nat × Registry τ :=
  match Spec.read raw (Target.currentLocation m.target) with
  | .error e => (.error e, m)
  | .ok spec => m.createSpec spec group

/-- Replaces the request of a breakpoint by one with its present policy and filters. -/
def refresh (m : Registry τ) (bp : Breakpoint) (id : Nat) (old : Binding) :
    Except Failure Unit × Registry τ :=
  let bp := { bp with binding := none }
  let m := { m.store bp id with requests := m.requests.erase old.request }.clearRequest old.request
  match Target.arm m.target (bp.requestFor old.anchor) with
  | (.error e, target) => (.error (.target e), { m with target })
  | (.ok request, target) =>
    (.ok (),
      { m.store { bp with binding := some ⟨request, old.anchor, false⟩ } id with
        target
        requests := m.requests.insert request bp.id })

/-- Sets a breakpoint's own flag and hands it on to its request.  A stale request is replaced when
the breakpoint is enabled; an expired breakpoint's request stays off. -/
def setEnabled (m : Registry τ) (id : Nat) (enabled : Bool) : Except Failure Unit × Registry τ :=
  match m.find? id with
  | none => (.error (.unknownBreakpoint id), m)
  | some bp =>
    if bp.destroyed then (.error (.unknownBreakpoint id), m)
    else
      let bp := { bp with enabled }
      let m := m.store bp id
      match bp.binding with
      | none => (.ok (), m)
      | some binding =>
        if enabled && binding.stale then m.refresh bp id binding
        else
          match Target.setArmed m.target binding.request (enabled && !bp.expired) with
          | (.error e, target) => (.error (.target e), { m with target })
          | (.ok (), target) => (.ok (), { m with target })

/-- Forgets the hits of a breakpoint.  The request of an expired one is armed again, and an
unbound one is tried again. -/
def reset (m : Registry τ) (id : Nat) : Except Failure Unit × Registry τ :=
  match m.find? id with
  | none => (.error (.unknownBreakpoint id), m)
  | some bp =>
    if bp.destroyed then (.error (.unknownBreakpoint id), m)
    else
      let m := m.store bp.reset id
      match bp.binding with
      | none => (.ok (), (m.resolve id).2)
      | some binding =>
        if bp.expired && bp.enabled then
          match Target.setArmed m.target binding.request true with
          | (.error e, target) => (.error (.target e), { m with target })
          | (.ok (), target) => (.ok (), { m with target })
        else (.ok (), m)

/-- Resets every breakpoint; a failure with one does not keep the others from it. -/
def resetAll (m : Registry τ) : Registry τ :=
  m.ids.foldl (fun m id => (m.reset id).2) m

end Breakpoints.Registry
