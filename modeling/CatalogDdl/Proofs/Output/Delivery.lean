import CatalogDdl.Output.File
import CatalogDdl.Proofs.Text.ByteOrder

/-! # What arrives at a device

Texts go to a device call by call, and a device may take as little as one byte in a call.

* `Device.Call`: a call to a device. `Device.Delivers`: a delivery, call by call.
* `Device.Delivers.course`: what arrives, given the whole of what is to arrive. The capacity decides.
* `Device.received_deliver`: a delivery that goes well brings all bytes of its texts, one text after the other. So do
  texts that are written without a flush, by `Device.received_writeOut`.
-/

namespace CatalogDdl
set_option autoImplicit false
open Text

theorem Text.encoded_append (a b : String) : encoded (a ++ b) = encoded a ++ encoded b := by
  rw [encoded_eq, encoded_eq, encoded_eq, String.toList_append, List.flatMap_append]

theorem Text.encoded_join (texts : List String) : encoded (String.join texts) = texts.flatMap encoded := by
  rw [encoded_eq, String.toList_join, List.flatMap_assoc]
  exact congrArg texts.flatMap (funext fun text => (encoded_eq text).symm)

namespace Device

/-! ## Calls -/

inductive Call
  | take (bytes : List UInt8)
  | flush (ok : Bool)
deriving DecidableEq, Repr

namespace Call

def bytes : Call → List UInt8
  | take bytes => bytes
  | flush _ => []

def isFlush : Call → Bool
  | take _ => false
  | flush _ => true

end Call

/-- The calls of a delivery from here on: `bytes` are left of the text under way, and `texts` are still to come. -/
inductive Delivers (device : Device) : Writing → List UInt8 → List String → List Call → Delivery → Prop
  | flush (writing : Writing) :
    Delivers device writing [] [] [.flush device.flushes] ⟨writing.received, true, device.flushes⟩
  | next {writing : Writing} {text : String} {texts : List String} {calls : List Call} {delivery : Delivery}
    (rest : Delivers device writing (encoded text) texts calls delivery) :
    Delivers device writing [] (text :: texts) calls delivery
  | refuse {writing : Writing} {bytes : List UInt8} {texts : List String} (offered : bytes ≠ [])
    (refused : device.allowance writing = 0) :
    Delivers device writing bytes texts [.take []] ⟨writing.received, false, false⟩
  | take {writing : Writing} {bytes : List UInt8} {texts : List String} {calls : List Call} {delivery : Delivery}
    (offered : bytes ≠ []) (allowed : device.allowance writing ≠ 0)
    (rest : Delivers device
      ⟨writing.received ++ (bytes.take (device.allowance writing)).toArray, writing.calls + 1⟩
      (bytes.drop (device.allowance writing)) texts calls delivery) :
    Delivers device writing bytes texts (.take (bytes.take (device.allowance writing)) :: calls) delivery

variable {device : Device} {writing : Writing} {bytes : List UInt8} {texts : List String} {calls : List Call}
  {delivery : Delivery}

/-- A text that is taken as a whole is followed by the next one, and one that is not ends the delivery. -/
theorem delivers_writeAll (writing : Writing) (bytes : List UInt8) (texts : List String)
    (h : ∀ after, device.writeAll writing bytes = (after, true) →
      ∃ calls, device.Delivers after [] texts calls delivery)
    (hf : ∀ after, device.writeAll writing bytes = (after, false) → delivery = ⟨after.received, false, false⟩) :
    ∃ calls, device.Delivers writing bytes texts calls delivery := by
  fun_induction device.writeAll writing bytes with
  | case1 writing bytes he =>
    obtain rfl := List.isEmpty_iff.1 he
    exact h writing rfl
  | case2 writing bytes he count hc =>
    obtain rfl := hf writing rfl
    exact ⟨_, .refuse (fun e => he (List.isEmpty_iff.2 e)) hc⟩
  | case3 writing bytes he count hc received ih =>
    obtain ⟨calls, hd⟩ := ih h hf
    exact ⟨_, .take (fun e => he (List.isEmpty_iff.2 e)) hc hd⟩

/-- What comes of writing texts. -/
def deliveryOf (device : Device) : Writing × Bool → Delivery
  | (writing, true) => ⟨writing.received, true, device.flushes⟩
  | (writing, false) => ⟨writing.received, false, false⟩

theorem delivers_writeTexts (writing : Writing) (texts : List String) :
    ∃ calls, device.Delivers writing [] texts calls (device.deliveryOf (device.writeTexts writing texts)) := by
  induction texts generalizing writing with
  | nil => exact ⟨_, .flush writing⟩
  | cons text texts ih =>
    rw [writeTexts]
    cases hw : device.writeAll writing (encoded text) with
    | mk next whole =>
      have hn : ∀ after flag, device.writeAll writing (encoded text) = (after, flag) → after = next ∧ flag = whole := by
        intro after flag ha
        obtain ⟨rfl, rfl⟩ := Prod.mk.inj (hw.symm.trans ha)
        exact ⟨rfl, rfl⟩
      cases whole with
      | true =>
        refine (delivers_writeAll writing (encoded text) texts (fun after ha => ?_) fun after ha => ?_).imp fun _ => .next
        · obtain ⟨rfl, -⟩ := hn after true ha
          exact ih after
        · have hf := (hn after false ha).2
          contradiction
      | false =>
        refine (delivers_writeAll writing (encoded text) texts (fun after ha => ?_) fun after ha => ?_).imp fun _ => .next
        · have hf := (hn after true ha).2
          contradiction
        · obtain ⟨rfl, -⟩ := hn after false ha
          rfl

theorem delivers_deliver (device : Device) (texts : List String) :
    ∃ calls, device.Delivers .empty [] texts calls (device.deliver texts) := by
  have hd : device.deliver texts = device.deliveryOf (device.writeTexts .empty texts) := by
    rw [deliver]
    split
    · next h => rw [h, deliveryOf]
    · next h => rw [h, deliveryOf]
  rw [hd]
  exact delivers_writeTexts _ _

/-! ## Courses -/

/-- How a delivery goes, given the whole of its bytes. -/
structure Course (device : Device) (whole : List UInt8) (calls : List Call) (delivery : Delivery) : Prop where
  fits : (∀ limit, device.capacity = some limit → whole.length ≤ limit) →
    delivery = ⟨whole.toArray, true, device.flushes⟩ ∧
      ∃ taken, calls = taken ++ [.flush device.flushes] ∧ ∀ call ∈ taken, call.isFlush = false
  exceeds : ∀ limit, device.capacity = some limit → limit < whole.length →
    delivery = ⟨(whole.take limit).toArray, false, false⟩ ∧ ∀ call ∈ calls, call.isFlush = false

theorem allowance_eq_zero (hp : ∀ call, 0 < device.portion call) (h : device.allowance writing = 0) :
    ∃ limit, device.capacity = some limit ∧ limit ≤ writing.received.size := by
  have hc := hp writing.calls
  rw [allowance] at h
  split at h
  · omega
  · next limit hl => exact ⟨limit, hl, by omega⟩

theorem allowance_le {limit : Nat} (hl : device.capacity = some limit) :
    device.allowance writing ≤ limit - writing.received.size := by
  rw [allowance, hl]
  exact Nat.min_le_left ..

/-- **Nothing is lost or comes twice**: bytes that have arrived, are offered, and are still to come make up the whole. -/
theorem Delivers.course (hp : ∀ call, 0 < device.portion call) {whole : List UInt8}
    (h : device.Delivers writing bytes texts calls delivery)
    (hw : writing.received.toList ++ (bytes ++ texts.flatMap encoded) = whole)
    (hr : ∀ limit, device.capacity = some limit → writing.received.size ≤ limit) :
    device.Course whole calls delivery := by
  -- By induction on the calls: each moves a border within the whole, and the capacity is never passed.
  induction h with
  | flush writing =>
    rw [List.flatMap_nil, List.append_nil, List.append_nil] at hw
    subst hw
    refine ⟨fun _ => ⟨by rw [Array.toArray_toList], [], rfl, fun call hc => absurd hc List.not_mem_nil⟩, fun limit hl hx => ?_⟩
    have hs := hr limit hl
    rw [Array.length_toList] at hx
    omega
  | next _ ih => exact ih hw hr
  | @refuse writing bytes texts offered refused =>
    have ho := List.length_pos_iff.2 offered
    -- A call that may take no byte finds the device full.
    obtain ⟨limit, hl, hs⟩ := allowance_eq_zero hp refused
    have hn := hr limit hl
    have hx : writing.received.toList.length = limit := by rw [Array.length_toList]; omega
    subst hw
    refine ⟨fun hf => ?_, fun other hl' _ => ⟨?_, fun call hc => by rw [List.mem_singleton.1 hc]; rfl⟩⟩
    · have hb := hf limit hl
      rw [List.length_append, List.length_append] at hb
      omega
    · obtain rfl := Option.some.inj (hl.symm.trans hl')
      rw [← hx, List.take_left, Array.toArray_toList]
  | @take writing bytes texts calls delivery offered allowed rest ih =>
    have hn : (writing.received ++ (bytes.take (device.allowance writing)).toArray).toList ++
        (bytes.drop (device.allowance writing) ++ texts.flatMap encoded) = whole := by
      rw [Array.toList_append, ← hw, List.append_assoc, ← List.append_assoc _ _ (texts.flatMap encoded),
        List.take_append_drop]
    have hs : ∀ limit, device.capacity = some limit →
        (writing.received ++ (bytes.take (device.allowance writing)).toArray).size ≤ limit := by
      intro limit hl
      have ha : device.allowance writing ≤ limit - writing.received.size := allowance_le hl
      have hs := hr limit hl
      have ht := List.length_take_le (device.allowance writing) bytes
      have he : (bytes.take (device.allowance writing)).toArray.size = (bytes.take (device.allowance writing)).length := rfl
      rw [Array.size_append]
      omega
    obtain ⟨hf, hx⟩ := ih hn hs
    refine ⟨fun hw => ?_, fun limit hl hw => ?_⟩
    · obtain ⟨hd, taken, rfl, ht⟩ := hf hw
      refine ⟨hd, .take (bytes.take (device.allowance writing)) :: taken, rfl, ?_⟩
      exact List.forall_mem_cons.2 ⟨rfl, ht⟩
    · obtain ⟨hd, hc⟩ := hx limit hl hw
      exact ⟨hd, List.forall_mem_cons.2 ⟨rfl, hc⟩⟩

theorem Delivers.received_eq (h : device.Delivers writing bytes texts calls delivery) :
    delivery.received.toList = writing.received.toList ++ calls.flatMap Call.bytes := by
  induction h with
  | flush writing => exact (List.append_nil _).symm
  | next _ ih => exact ih
  | refuse _ _ => exact (List.append_nil _).symm
  | take _ _ _ ih => rw [ih, Array.toList_append, List.append_assoc, List.flatMap_cons]; rfl

/-! ## Deliveries that go well -/

/-- The flush comes after all bytes. -/
theorem Delivers.received_of_flushed (h : device.Delivers writing bytes texts calls delivery)
    (hf : delivery.flushed = true) :
    delivery.received.toList = writing.received.toList ++ (bytes ++ texts.flatMap encoded) := by
  induction h with
  | flush writing => rw [List.flatMap_nil, List.append_nil, List.append_nil]
  | next _ ih => exact ih hf
  | refuse _ _ => contradiction
  | take _ _ _ ih =>
    rw [ih hf, Array.toList_append, List.append_assoc, ← List.append_assoc (List.take _ _), List.take_append_drop]

theorem Delivers.flushed_of_complete (h : device.Delivers writing bytes texts calls delivery)
    (hc : delivery.complete = true) : delivery.flushed = true := by
  induction h with
  | flush writing => rfl
  | next _ ih => exact ih hc
  | refuse _ _ => contradiction
  | take _ _ _ ih => exact ih hc

/-- Where all goes well, all bytes are received and the device is flushed. -/
theorem received_deliver {texts : List String} (h : (device.deliver texts).complete = true) :
    (device.deliver texts).received.toList = encoded (String.join texts) ∧ (device.deliver texts).flushed = true := by
  obtain ⟨calls, hd⟩ := device.delivers_deliver texts
  have hf := hd.flushed_of_complete h
  rw [encoded_join]
  exact ⟨hd.received_of_flushed hf, hf⟩

/-- What is written is also flushed in a delivery, if it is taken as a whole. -/
theorem deliver_eq_writeOut (device : Device) (texts : List String) :
    (device.deliver texts).received = (device.writeOut texts).received ∧
      (device.deliver texts).flushed = (device.writeOut texts).complete := by
  rw [deliver, writeOut]
  split
  · next hw => rw [hw]; exact ⟨rfl, rfl⟩
  · next hw => rw [hw]; exact ⟨rfl, rfl⟩

theorem received_writeOut {texts : List String} (h : (device.writeOut texts).complete = true) :
    (device.writeOut texts).received.toList = encoded (String.join texts) := by
  obtain ⟨calls, hd⟩ := device.delivers_deliver texts
  obtain ⟨hr, hf⟩ := device.deliver_eq_writeOut texts
  rw [← hr, encoded_join]
  exact hd.received_of_flushed (hf.trans h)

theorem deliver_of_unlimited (hl : device.capacity = none) (hp : ∀ call, 0 < device.portion call) (texts : List String) :
    device.deliver texts = ⟨(texts.flatMap encoded).toArray, true, device.flushes⟩ := by
  obtain ⟨calls, hd⟩ := device.delivers_deliver texts
  have hn : ∀ limit, device.capacity ≠ some limit := fun limit h => nomatch hl.symm.trans h
  have hc := hd.course hp rfl fun limit h => absurd h (hn limit)
  exact (hc.fits fun limit h => absurd h (hn limit)).1

theorem complete_writeOut (hl : device.capacity = none) (hp : ∀ call, 0 < device.portion call) (texts : List String) :
    (device.writeOut texts).complete = true := by
  rw [← (device.deliver_eq_writeOut texts).2, deliver_of_unlimited hl hp]

theorem complete_unlimited (texts : List String) : (unlimited.deliver texts).complete = true := by
  have hs : 0 < UInt64.size := by decide
  rw [deliver_of_unlimited rfl fun _ => hs]
  rfl

end Device

end CatalogDdl
