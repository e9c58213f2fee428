import Mathlib.Data.List.Basic
import WikiStream.Attributes

namespace WikiStream.Attributes

open Json

def textsObject (pairs : List (String × String)) : Value :=
  .object (pairs.map fun p ↦ (p.1, .string p.2))

theorem textsObject_injective {pairs pairs' : List (String × String)}
    (h : textsObject pairs = textsObject pairs') : pairs = pairs' := by
  refine List.map_injective_iff.2 ?_ (Value.object.inj h)
  rintro ⟨key, text⟩ ⟨key', text'⟩ hp
  obtain ⟨hkey, htext⟩ := Prod.mk.inj hp
  exact Prod.ext hkey (Value.string.inj htext)

theorem mapM_texts_eq_some {ms : List (String × Value)} {pairs : List (String × String)} :
    ms.mapM (fun p ↦ p.2.string?.map (p.1, ·)) = some pairs ↔
      ms = pairs.map fun p ↦ (p.1, .string p.2) := by
  induction ms generalizing pairs with
  | nil =>
    rw [List.mapM_nil, eq_comm (a := []), List.map_eq_nil_iff, eq_comm]
    exact Option.some_inj
  | cons p ms ih =>
    obtain ⟨key, v⟩ := p
    simp only [List.mapM_cons, Option.bind_eq_bind, Option.pure_def, Option.bind_eq_some_iff, ih,
      Option.map_eq_some_iff, Option.some_inj]
    constructor
    · rintro ⟨_, ⟨text, htext, rfl⟩, rest, rfl, rfl⟩
      cases v with
      | string text' =>
        obtain rfl := Option.some_inj.1 htext
        rfl
      | _ => cases htext
    · intro h
      cases pairs with
      | nil => cases h
      | cons q rest =>
        obtain ⟨hp, hrest⟩ := List.cons.inj h
        obtain ⟨rfl, rfl⟩ := Prod.mk.inj hp
        exact ⟨q, ⟨q.2, rfl, rfl⟩, rest, hrest, rfl⟩

theorem ofValue?_eq_some_iff {v : Value} {a : Attributes} :
    ofValue? v = some a ↔ ∃ pairs, v = textsObject pairs ∧ a = Dict.ofList pairs := by
  cases v with
  | object ms =>
    simp only [ofValue?, Option.map_eq_some_iff, mapM_texts_eq_some, textsObject,
      Value.object.injEq, eq_comm (a := a)]
  | _ => simp [ofValue?, textsObject]

theorem ofValue?_toValue (a : Attributes) : ofValue? a.toValue = some a :=
  ofValue?_eq_some_iff.2 ⟨a.entries, rfl, (Dict.ofList_entries a).symm⟩

end WikiStream.Attributes
