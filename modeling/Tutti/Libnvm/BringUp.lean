import Mathlib.Tactic.SplitIfs
import Mathlib.Data.List.Basic

/-!
# Bringing up a controller

`nvm_controller_init_common` opens the control node, has the driver create the character device
of the controller, binds the driver, and wraps duplicated descriptors and a mapping of BAR0 into
a handle. Each of its steps succeeds or fails. The file follows what the caller holds and what
becomes of the device.
-/

namespace Tutti.Libnvm

/-- Who created a character device or made a binding. -/
inductive By where
  | thisCall
  | another
  deriving DecidableEq

inductive Held where
  | controlFd
  | deviceFd
  | dupControlFd
  | dupDeviceFd
  | bar0
  | handle
  deriving DecidableEq

structure World where
  /-- What the calling process holds. -/
  held : List Held := []
  chrdev : Option By := none
  driver : Option (String × By) := none
  deriving DecidableEq

namespace World

@[simp] def hold (world : World) (item : Held) : World := { world with held := item :: world.held }

@[simp] def drop (world : World) (item : Held) : World :=
  { world with held := world.held.erase item }

/-- `SNVM_CHRDEV_CREATE`: a device that exists is left as it is. -/
@[simp] def createChrdev (world : World) : World :=
  { world with chrdev := some (world.chrdev.getD .thisCall) }

@[simp] def removeChrdev (world : World) : World := { world with chrdev := none }

/-- `SNVM_DEVICE_UNBIND`, refused for any driver but its own. -/
@[simp] def unbind (world : World) : World :=
  if world.driver.map Prod.fst = some "snvme" then { world with driver := none } else world

/-- `release_device`. -/
@[simp] def releaseDevice (world : World) : World := (world.drop .dupControlFd).drop .dupDeviceFd

end World

/-- Which of the steps succeed. -/
structure Steps where
  openControl : Bool := true
  parseAddress : Bool := true
  create : Bool := true
  openDevice : Bool := true
  setCap : Bool := true
  /-- The driver that the device has if the binding fails. -/
  bindFails : Option (Option String) := none
  allocDevice : Bool := true
  dupControl : Bool := true
  dupDevice : Bool := true
  setFlags : Bool := true
  mmap : Bool := true
  createHandle : Bool := true
  devInfo : Bool := true

inductive Outcome where
  | ok
  | failed
  | crashed
  deriving DecidableEq

/-- `nvm_ctrl_init`. -/
def nvmCtrlInit (steps : Steps) (world : World) : Outcome × World :=
  if !steps.allocDevice || !steps.dupControl then (.failed, world)
  else
    let world := world.hold .dupControlFd
    if !steps.dupDevice then (.failed, world.drop .dupControlFd)
    else
      let world := world.hold .dupDeviceFd
      if !steps.setFlags then (.failed, world.releaseDevice)
      else
        -- A failed `mmap` returns `MAP_FAILED`, which passes the check for `NULL`.
        let world := if steps.mmap then world.hold .bar0 else world
        if !steps.createHandle then (.failed, world.releaseDevice)
        -- The capabilities are read through the mapping.
        else if !steps.mmap then (.crashed, world)
        else (.ok, world.hold .handle)

/-- The label `fail_close_dev`. -/
def failCloseDev (world : World) : Outcome × World :=
  (.failed, ((world.drop .deviceFd).removeChrdev).drop .controlFd)

/-- `nvm_controller_init_common`. -/
def controllerInitCommon (steps : Steps) (world : World) : Outcome × World :=
  if !steps.openControl then (.failed, world)
  else
    let world := world.hold .controlFd
    if !steps.parseAddress || !steps.create then (.failed, world.drop .controlFd)
    else
      let world := world.createChrdev
      if !steps.openDevice then (.failed, world.removeChrdev.drop .controlFd)
      else
        let world := world.hold .deviceFd
        if !steps.setCap then failCloseDev world
        else
          match steps.bindFails with
          | some left => failCloseDev { world with driver := left.map (·, .another) }
          | none =>
            match nvmCtrlInit steps { world with driver := some ("snvme", .thisCall) } with
            | (.crashed, world) => (.crashed, world)
            | (.failed, world) => failCloseDev world.unbind
            | (.ok, world) =>
              if !steps.devInfo then failCloseDev (world.drop .handle).releaseDevice.unbind
              else (.ok, (world.drop .controlFd).drop .deviceFd)

/-- `nvm_ctrl_free`. -/
def nvmCtrlFree (world : World) : World :=
  (world.unbind.removeChrdev.drop .handle).releaseDevice

/-- The world before the call: whether the controller has a character device, and its driver. -/
def prior (exists_ : Bool) (driver : Option String) : World where
  chrdev := if exists_ then some .another else none
  driver := driver.map (·, .another)

/-- What a call that brings up a controller has to leave behind. -/
def Transactional (before : World) : Outcome × World → Prop
  | (.failed, after) => after.held = [] ∧ after.chrdev = before.chrdev ∧
      after.driver.map Prod.snd ≠ some .thisCall
  | (.ok, after) => after.held.Perm [.dupControlFd, .dupDeviceFd, .bar0, .handle] ∧
      (nvmCtrlFree after).held = []
  | (.crashed, _) => False

/-- The steps up to the creation of the character device succeed. -/
def Steps.creates (steps : Steps) : Bool :=
  steps.openControl && steps.parseAddress && steps.create

/-- The steps of `nvm_ctrl_init` before the mapping of BAR0 succeed. -/
def Steps.duplicates (steps : Steps) : Bool :=
  steps.allocDevice && steps.dupControl && steps.dupDevice && steps.setFlags

/-- BAR0 gets mapped, or a handle is made over a mapping that failed. -/
def Steps.maps (steps : Steps) : Bool :=
  steps.creates && steps.openDevice && steps.setCap && steps.bindFails.isNone &&
    steps.duplicates && (steps.mmap || steps.createHandle)

/-- A bring-up is transactional exactly if it creates no character device where there was one
before and gives up without a mapping of BAR0: nothing ever unmaps it. -/
theorem transactional_iff (steps : Steps) (exists_ : Bool) (driver : Option String) :
    Transactional (prior exists_ driver) (controllerInitCommon steps (prior exists_ driver)) ↔
      (exists_ = false ∨ steps.creates = false) ∧ steps.maps = false := by
  obtain ⟨openControl, parseAddress, create, openDevice, setCap, bindFails, allocDevice,
    dupControl, dupDevice, setFlags, mmap, createHandle, devInfo⟩ := steps
  unfold controllerInitCommon Steps.maps Steps.creates Steps.duplicates
  cases openControl
  · simp [Transactional, prior]
  cases parseAddress
  · simp [Transactional, prior]
  cases create
  · simp [Transactional, prior]
  -- From here on the character device is removed by every call that gives up.
  cases openDevice
  · cases exists_ <;> simp [Transactional, prior]
  cases setCap
  · cases exists_ <;> simp [Transactional, prior, failCloseDev]
  cases bindFails with
  | some left => cases exists_ <;> simp [Transactional, prior, failCloseDev]
  | none =>
    unfold nvmCtrlInit
    cases allocDevice
    · cases exists_ <;> simp [Transactional, prior, failCloseDev]
    cases dupControl
    · cases exists_ <;> simp [Transactional, prior, failCloseDev]
    cases dupDevice
    · cases exists_ <;> simp [Transactional, prior, failCloseDev]
    cases setFlags
    · cases exists_ <;> simp [Transactional, prior, failCloseDev]
    cases mmap <;> cases createHandle <;> cases devInfo <;> cases exists_ <;>
      simp [Transactional, prior, failCloseDev, nvmCtrlFree]

/-- A call that cannot open the character device removes the one of another owner, and the
handle of a call that succeeds is freed without its mapping. -/
theorem bringUp_leaves :
    (prior true none).chrdev = some .another ∧
      controllerInitCommon { openDevice := false } (prior true none) = (.failed, {}) ∧
      (controllerInitCommon {} (prior false none)).1 = .ok ∧
      (nvmCtrlFree (controllerInitCommon {} (prior false none)).2).held = [.bar0] := by
  decide

end Tutti.Libnvm
