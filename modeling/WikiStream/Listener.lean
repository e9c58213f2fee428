import WikiStream.Conversion

namespace WikiStream

structure Listener (σ : Type) where
  hear : σ → Event → σ := fun heard _ ↦ heard
  hearsUnknown : Bool := false

namespace Listener

def recorder (hearsUnknown : Bool) : Listener (Array Event) where
  hear := Array.push
  hearsUnknown := hearsUnknown

def silent : Listener Unit := {}

end Listener

namespace Converter

def heardBy {σ : Type} (c : Converter) (l : Listener σ) : Converter :=
  { c with keepsUnknown := l.hearsUnknown }

def tell {σ : Type} (c : Converter) (l : Listener σ) (before : σ) (tokens : List Token) :
    σ × Report :=
  let told := (c.heardBy l).document tokens
  (told.events.foldl l.hear before, told.report)

end Converter

end WikiStream
