import SqlRender.Error
import SqlRender.Log.Notice
import SqlRender.Number.Places

/-!
# Traced computations

A traced computation gives a result or an error together with the events on the way, in order. The
events stay when it fails. Nothing here reads a clock: a stretch of work is marked by its two ends,
and `Event.records` puts clock readings to them afterwards.
-/

namespace SqlRender

/-- A word for a type that is a list has taken in a text. -/
structure WordGrowth where
  typeName : String
  text : String
deriving DecidableEq, Repr

inductive Event where
  | notice (n : Notice)
  /-- The start of a stretch of work. -/
  | started (label : String)
  /-- The end of the stretch of work that was started last. -/
  | finished (label : String)
  | grown (g : WordGrowth)
deriving Repr

/-- A result or an error, and the events on the way. -/
structure Traced (α : Type) where
  result : Except Error α
  events : List Event

namespace Traced

variable {α β : Type}

def bind (x : Traced α) (f : α → Traced β) : Traced β :=
  match x.result with
  | .ok a => ⟨(f a).result, x.events ++ (f a).events⟩
  | .error e => ⟨.error e, x.events⟩

instance : Monad Traced where
  pure a := ⟨.ok a, []⟩
  bind := bind

/-- A computation without events. -/
def ofExcept (x : Except Error α) : Traced α := ⟨x, []⟩

instance : MonadLift (Except Error) Traced := ⟨ofExcept⟩

/-- Says something. -/
def note (n : Notice) : Traced Unit := ⟨.ok (), [.notice n]⟩

/-- Puts on record what a word for a type takes in, if it does. -/
def growth (g? : Option WordGrowth) : Traced Unit := ⟨.ok (), g?.toList.map .grown⟩

/-- Marks a stretch of work, also when it fails. -/
def timed (label : String) (x : Traced α) : Traced α :=
  ⟨x.result, .started label :: x.events ++ [.finished label]⟩

@[simp] theorem result_pure (a : α) : (pure a : Traced α).result = .ok a := rfl

@[simp] theorem events_pure (a : α) : (pure a : Traced α).events = [] := rfl

theorem bind_ok {x : Traced α} {a : α} (f : α → Traced β) (h : x.result = .ok a) :
    (x >>= f).result = (f a).result ∧ (x >>= f).events = x.events ++ (f a).events := by
  simp [Bind.bind, bind, h]

theorem bind_error {x : Traced α} {e : Error} (f : α → Traced β) (h : x.result = .error e) :
    (x >>= f).result = .error e ∧ (x >>= f).events = x.events := by
  simp [Bind.bind, bind, h]

theorem map_id (x : Traced α) : id <$> x = x := by
  obtain ⟨_ | _, _⟩ := x <;> simp [Functor.map, bind]

theorem pure_bind (a : α) (f : α → Traced β) : pure a >>= f = f a := by
  simp [Bind.bind, bind, Pure.pure]

theorem bind_assoc {γ : Type} (x : Traced α) (f : α → Traced β) (g : β → Traced γ) :
    x >>= f >>= g = x >>= fun a => f a >>= g := by
  obtain ⟨_ | a, _⟩ := x
  · simp [Bind.bind, bind]
  · simp only [Bind.bind, bind]
    cases (f a).result <;> simp

instance : LawfulMonad Traced := LawfulMonad.mk' Traced map_id pure_bind bind_assoc

end Traced

/-- The record of a stretch of work between two clock readings, in seconds: grave if it took at
least as many milliseconds as the threshold. -/
def timingRecord (logger label : String) (threshold start stop : Binary64) : Record :=
  let elapsed := (stop.sub start).mul (.ofRatio false 1000 1)
  let level := if threshold.le elapsed then Level.warning else Level.debug
  ⟨level, logger, label ++ " took " ++ elapsed.toFixed 2 ++ "ms"⟩

/-- The threshold that is used where none is given: fifty milliseconds. -/
def defaultThreshold : Binary64 := .ofRatio false 50 1

/-- The records of events. Each end of a stretch takes the next clock reading; a clock without
readings shows zero. `running` holds the starts of the stretches that are not finished. -/
def Event.records (clock running : List Binary64) : List Event → List Record
  | [] => []
  | .notice n :: rest => n.record :: records clock running rest
  | .grown _ :: rest => records clock running rest
  | .started _ :: rest => records clock.tail (clock.headD (.zero false) :: running) rest
  | .finished label :: rest =>
    let start := running.headD (.zero false)
    let stop := clock.headD (.zero false)
    timingRecord (loggerName "query.compiler") label defaultThreshold start stop ::
      records clock.tail running.tail rest

end SqlRender
