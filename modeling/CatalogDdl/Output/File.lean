import CatalogDdl.Output.Script
import CatalogDdl.Text.Utf8

/-! # Files

Writing a script to a device that takes bytes in portions of its own choice.

* `Device`: how many bytes it takes in all and in one call, and whether it can be flushed.
* `Writing`: what a device has received so far. `Device.writeAll` offers it bytes until all are taken, or until
  a call takes none.
* `Device.writeOut`: all pieces of a text. `Device.deliver`: these, then one flush; `Device.deliverScript` for the
  script of a run.
-/

namespace CatalogDdl
set_option autoImplicit false

/-! ## Devices -/

/-- A device for bytes. Without a capacity it takes any number; its call `n` takes at most `portion n`. -/
structure Device where
  capacity : Option Nat
  portion : Nat → Nat
  flushes : Bool

/-- The bytes that a device has received, and the calls that it took for them. -/
structure Writing where
  received : Array UInt8
  calls : Nat

def Writing.empty : Writing :=
  ⟨#[], 0⟩

namespace Device

/-- A device that takes everything. -/
def unlimited : Device :=
  ⟨none, fun _ => UInt64.size, true⟩

/-- A device that takes nothing. -/
def full : Device :=
  ⟨some 0, fun _ => UInt64.size, true⟩

/-! ## Writing -/

/-- The most bytes that the next call takes. -/
def allowance (device : Device) (writing : Writing) : Nat :=
  match device.capacity with
  | none => device.portion writing.calls
  | some capacity => min (capacity - writing.received.size) (device.portion writing.calls)

/-- Offers bytes until all are taken, or until a call takes none of them. -/
def writeAll (device : Device) (writing : Writing) (bytes : List UInt8) : Writing × Bool :=
  if bytes.isEmpty then (writing, true)
  else
    let count := device.allowance writing
    if count = 0 then (writing, false)
    else
      let received := writing.received ++ (bytes.take count).toArray
      device.writeAll ⟨received, writing.calls + 1⟩ (bytes.drop count)
termination_by bytes.length
decreasing_by
  have hb : bytes.length ≠ 0 := by simp_all
  simp only [List.length_drop]
  omega

/-- Writes texts one after the other, up to the first that is not taken as a whole. -/
def writeTexts (device : Device) (writing : Writing) : List String → Writing × Bool
  | [] => (writing, true)
  | text :: texts =>
    match device.writeAll writing (Text.encoded text) with
    | (writing, true) => device.writeTexts writing texts
    | (writing, false) => (writing, false)

end Device

/-! ## Delivery -/

/-- What arrived at a device, whether it was flushed, and whether all went well. -/
structure Delivery where
  received : Array UInt8
  flushed : Bool
  complete : Bool

namespace Device

/-- Writes texts, and does not flush the device. -/
def writeOut (device : Device) (texts : List String) : Delivery :=
  let (writing, complete) := device.writeTexts .empty texts
  ⟨writing.received, false, complete⟩

/-- Writes texts and flushes the device once at the end. -/
def deliver (device : Device) (texts : List String) : Delivery :=
  match device.writeTexts .empty texts with
  | (writing, true) => ⟨writing.received, true, device.flushes⟩
  | (writing, false) => ⟨writing.received, false, false⟩

def deliverScript (device : Device) (run : Run) : Delivery × Except Failure Unit :=
  let delivery := device.deliver (Script.pieces run)
  (delivery, if delivery.complete then .ok () else .error (.output .writeScript))

end Device

end CatalogDdl
