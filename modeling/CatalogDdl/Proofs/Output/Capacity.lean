import CatalogDdl.Proofs.Output.Delivery

/-! # Scripts on devices of limited capacity

* `Device.Course.delivery_eq`: devices of the same capacity receive the same, in whatever portions they take it.
* `Device.deliverScript_capacity`: the whole script arrives and is flushed once, or the first bytes of it arrive.
-/

namespace CatalogDdl
set_option autoImplicit false
open Text

namespace Device
variable {device : Device} {calls : List Call} {delivery : Delivery}

/-- The capacity decides, and not the portions. -/
theorem Course.delivery_eq {other : Device} {whole : List UInt8} {otherCalls : List Call} {otherDelivery : Delivery}
    (h : device.Course whole calls delivery) (ho : other.Course whole otherCalls otherDelivery)
    (hc : other.capacity = device.capacity) (hf : other.flushes = device.flushes) : otherDelivery = delivery := by
  have hw : (∀ limit, device.capacity = some limit → whole.length ≤ limit) →
      otherDelivery = delivery := by
    intro hw
    rw [(h.fits hw).1, (ho.fits fun limit hl => hw limit (hc ▸ hl)).1, hf]
  cases hl : device.capacity with
  | none => exact hw fun limit he => nomatch hl.symm.trans he
  | some limit =>
    by_cases hx : limit < whole.length
    · rw [(h.exceeds limit hl hx).1, (ho.exceeds limit (hc.trans hl) hx).1]
    · refine hw fun other he => ?_
      obtain rfl := Option.some.inj (hl.symm.trans he)
      omega

/-! ## Scripts -/

def scriptBytes (run : Run) : List UInt8 :=
  encoded (Script.text run)

theorem course_deliverScript (device : Device) (hp : ∀ call, 0 < device.portion call) (run : Run) :
    ∃ calls, device.Delivers .empty [] (Script.pieces run) calls (device.deliverScript run).1 ∧
      calls.flatMap Call.bytes = (device.deliverScript run).1.received.toList ∧
      device.Course (scriptBytes run) calls (device.deliverScript run).1 := by
  obtain ⟨calls, hd⟩ := device.delivers_deliver (Script.pieces run)
  have hw : Writing.empty.received.toList ++ ([] ++ (Script.pieces run).flatMap encoded) = scriptBytes run := by
    rw [scriptBytes, Script.text, encoded_join]
    rfl
  exact ⟨calls, hd, hd.received_eq.symm, hd.course hp hw fun limit _ => Nat.zero_le limit⟩

theorem result_deliverScript (device : Device) (run : Run) :
    (device.deliverScript run).2 =
      if (device.deliverScript run).1.complete then .ok () else .error (.output .writeScript) := rfl

/-- How a script goes to a device that takes so many bytes in all, as calls and as an outcome. -/
structure Delivered (limit : Nat) (flushes : Bool) (script : List UInt8) (calls : List Call)
    (outcome : Delivery × Except Failure Unit) : Prop where
  whole : script.length ≤ limit →
    outcome.1.received.toList = script ∧
      (∃ taken, calls = taken ++ [.flush flushes] ∧ ∀ call ∈ taken, call.isFlush = false) ∧
      outcome.2 = if flushes then .ok () else .error (.output .writeScript)
  cut : limit < script.length →
    outcome.1.received.toList = script.take limit ∧ (∀ call ∈ calls, call.isFlush = false) ∧
      outcome.2 = .error (.output .writeScript)

/-- **A device receives a prefix of the script, and success means that it has received everything.** It does not matter
in what portions the device takes the bytes. -/
theorem deliverScript_capacity {portion : Nat → Nat} (hp : ∀ call, 0 < portion call) (limit : Nat) (flushes : Bool)
    (run : Run) :
    (∃ calls,
      (Device.mk (some limit) portion flushes).Delivers .empty [] (Script.pieces run) calls
        ((Device.mk (some limit) portion flushes).deliverScript run).1 ∧
      calls.flatMap Call.bytes = ((Device.mk (some limit) portion flushes).deliverScript run).1.received.toList ∧
      Delivered limit flushes (scriptBytes run) calls ((Device.mk (some limit) portion flushes).deliverScript run)) ∧
      (∀ other : Nat → Nat, (∀ call, 0 < other call) →
        (Device.mk (some limit) other flushes).deliverScript run =
          (Device.mk (some limit) portion flushes).deliverScript run) ∧
      ((Device.mk none portion flushes).deliverScript run).1.received.toList = scriptBytes run := by
  obtain ⟨calls, hd, hb, hc⟩ := course_deliverScript ⟨some limit, portion, flushes⟩ hp run
  refine ⟨⟨calls, hd, hb, fun hl => ?_, fun hl => ?_⟩, fun other ho => ?_, ?_⟩
  · obtain ⟨he, ht⟩ := hc.fits fun _ h => Option.some.inj h ▸ hl
    exact ⟨by rw [he], ht, by rw [result_deliverScript, he]⟩
  · obtain ⟨he, ht⟩ := hc.exceeds limit rfl hl
    refine ⟨by rw [he], ht, ?_⟩
    rw [result_deliverScript, he]
    exact if_neg Bool.false_ne_true
  · obtain ⟨_, -, -, ho⟩ := course_deliverScript ⟨some limit, other, flushes⟩ ho run
    have he := hc.delivery_eq ho rfl rfl
    exact Prod.ext he (by rw [result_deliverScript, he, ← result_deliverScript])
  · obtain ⟨_, -, -, hn⟩ := course_deliverScript ⟨none, portion, flushes⟩ hp run
    rw [(hn.fits fun _ h => nomatch h).1]

/-- A run over a table and an index of it. -/
def accented : Run where
  document := ⟨[.createTable "é" "CREATE TABLE IF NOT EXISTS \"é\" (\"x\" TEXT);",
    .createIndex "é" "i" "CREATE INDEX IF NOT EXISTS \"i\" ON \"é\" (\"x\");"]⟩
  report := ⟨"db", 1, [⟨"é", 1, 0, 1, none⟩], []⟩

/-- A device that takes one, two or three bytes in a call, and 570 in all: of the name of the table in the statement of
the index it takes the first byte only. -/
theorem deliverScript_capacity_accented :
    (∀ call, 0 < (fun call => call % 3 + 1) call) ∧ 570 < (scriptBytes accented).length ∧
      ((scriptBytes accented).take 570).drop 534 = encoded "CREATE INDEX IF NOT EXISTS \"i\" ON \"" ++ [0xC3] ∧
      ((Device.mk (some 570) (fun call => call % 3 + 1) true).deliverScript accented).1.received.toList =
        (scriptBytes accented).take 570 ∧
      ((Device.mk (some 570) (fun call => call % 3 + 1) true).deliverScript accented).2 =
        .error (.output .writeScript) := by
  have hp : ∀ call, 0 < (fun call => call % 3 + 1) call := fun call => Nat.succ_pos _
  have hl : 570 < (scriptBytes accented).length := by decide +kernel
  obtain ⟨⟨_, -, -, hd⟩, -, -⟩ := deliverScript_capacity hp 570 true accented
  exact ⟨hp, hl, by decide +kernel, (hd.cut hl).1, (hd.cut hl).2.2⟩

end Device

end CatalogDdl
