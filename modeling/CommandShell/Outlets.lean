import CommandShell.Session.Step

/-!
# Outlets

What a session presents goes to a display, and what becomes of its macros goes
to a store, if one is attached.  Both answer at once, and an answer may depend
on all that came before it.
-/

namespace CommandShell

/-- What a display answers to a presentation after earlier ones, of which the
latest comes first. -/
structure Reception where
  answer : (earlier : List Presentation) → Presentation → Delivery

namespace Reception

instance : Coe (Presentation → Delivery) Reception :=
  ⟨fun take => ⟨fun _ => take⟩⟩

variable {σ : Type}

/-- The state after presentations that each change it. -/
def stateAfter (start : σ) (take : Presentation → σ → Delivery × σ) :
    List Presentation → σ
  | [] => start
  | item :: earlier => (take item (stateAfter start take earlier)).2

/-- What a display with a state of its own answers. -/
def ofState (start : σ) (take : Presentation → σ → Delivery × σ) :
    Reception where
  answer earlier item := (take item (stateAfter start take earlier)).1

end Reception

/-- A display: how it takes presentations, and what it has taken so far. -/
structure Display where
  take : Reception := ⟨fun _ _ => .shown⟩
  /-- All that has been presented, the latest first. -/
  seen : List Presentation := []
  /-- What has been shown, the latest first. -/
  shown : List Presentation := []

namespace Display

def present (display : Display) (item : Presentation) : Delivery × Display :=
  let seen := item :: display.seen
  match display.take.answer display.seen item with
  | .shown => (.shown, { display with seen, shown := item :: display.shown })
  | delivery => (delivery, { display with seen })

/-- A display with a state of its own answers from it and changes it. -/
theorem present_ofState {σ : Type} {start : σ}
    {take : Presentation → σ → Delivery × σ} {display : Display}
    (takes : display.take = .ofState start take) (item : Presentation) :
    ((display.present item).1,
        Reception.stateAfter start take (display.present item).2.seen) =
      take item (Reception.stateAfter start take display.seen) := by
  unfold present
  rw [takes]
  cases answer : (Reception.ofState start take).answer display.seen item <;>
    exact Prod.ext answer.symm rfl

end Display

/-- Whether a store refuses a change after earlier ones, of which the latest
comes first, and why. -/
structure Refusals where
  reason? : (earlier : List (String × Option String)) →
    String × Option String → Option String

/-- Refuse all changes of some macros. -/
instance : Coe (String → Bool) Refusals where
  coe refuses := ⟨fun _ (name, _) =>
    if refuses name then some s!"cannot store {name}" else none⟩

/-- A store for macros in memory. -/
structure MacroStore where
  bodies : NameMap String := ∅
  refuses : Refusals := ⟨fun _ _ => none⟩
  /-- The changes that were to be stored, the latest first. -/
  requested : List (String × Option String) := []

namespace MacroStore

/-- Store a change of a macro. -/
def persist (store : MacroStore) (name : String) (body : Option String) :
    Except String Unit × MacroStore :=
  let requested := (name, body) :: store.requested
  match store.refuses.reason? store.requested (name, body) with
  | some reason => (.error reason, { store with requested })
  | none =>
      (.ok (), { store with
        bodies := MacroTable.applyChange store.bodies (name, body)
        requested })

end MacroStore

/-- Where a session presents things and stores macros. -/
structure Outlets where
  display : Display := {}
  store : Option MacroStore := none

namespace Outlets

def present (outlets : Outlets) (item : Presentation) : Delivery × Outlets :=
  let (delivery, display) := outlets.display.present item
  (delivery, { outlets with display })

/-- Store a change of a macro.  Without a store there is nothing to do. -/
def persist (outlets : Outlets) (name : String) (body : Option String) :
    Except String Unit × Outlets :=
  match outlets.store with
  | none => (.ok (), outlets)
  | some store =>
      let (result, store) := store.persist name body
      (result, { outlets with store := some store })

end Outlets

end CommandShell
