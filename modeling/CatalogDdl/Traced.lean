import CatalogDdl.Event

/-! # Traced values

`Traced α` is a value together with the events that were reported on the way to it, in order. Traced
computations form a monad whose events follow each other; `Traced.traverse` runs one on every item of a list.
-/

namespace CatalogDdl
set_option autoImplicit false
universe u

/-- A value, and the events reported on the way to it. -/
structure Traced (α : Type u) where
  value : α
  events : List Event

namespace Traced
variable {α : Type u}

@[ext] theorem ext {x y : Traced α} (hv : x.value = y.value) (he : x.events = y.events) : x = y := by
  cases x; cases y; simp_all

instance : Monad Traced where
  pure a := ⟨a, []⟩
  bind x f := ⟨(f x.value).value, x.events ++ (f x.value).events⟩

def report (event : Event) : Traced Unit :=
  ⟨(), [event]⟩

def traverse {β : Type u} (f : β → Traced α) (items : List β) : Traced (List α) :=
  ⟨items.map fun item => (f item).value, items.flatMap fun item => (f item).events⟩

@[simp] theorem value_pure (a : α) : (pure a : Traced α).value = a := rfl
@[simp] theorem events_pure (a : α) : (pure a : Traced α).events = [] := rfl

@[simp] theorem value_bind {β : Type u} (x : Traced α) (f : α → Traced β) :
    (x >>= f).value = (f x.value).value := rfl

@[simp] theorem events_bind {β : Type u} (x : Traced α) (f : α → Traced β) :
    (x >>= f).events = x.events ++ (f x.value).events := rfl

@[simp] theorem value_report (event : Event) : (report event).value = () := rfl
@[simp] theorem events_report (event : Event) : (report event).events = [event] := rfl

instance : LawfulMonad Traced :=
  LawfulMonad.mk' Traced (fun _ => by ext <;> simp [Functor.map]) (fun _ _ => by ext <;> simp)
    (fun _ _ _ => by ext <;> simp)

end Traced

end CatalogDdl
