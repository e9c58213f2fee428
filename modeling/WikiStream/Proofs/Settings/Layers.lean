import WikiStream.Settings

namespace WikiStream.Settings

/-- What a layer says about a place, or all the layers together. -/
inductive Saying
  | silent
  | gives (v : Value)
  | nests
  /-- A value without parts stands above the place. -/
  | hides
  /-- A list stands above the place, or one of its items is changed. -/
  | disturbs

namespace Saying

def above : Saying → Saying → Saying
  | silent, w => w
  | w, _ => w

theorem above_assoc (a b c : Saying) : (a.above b).above c = a.above (b.above c) := by
  cases a <;> rfl

@[simp] theorem silent_above (w : Saying) : silent.above w = w := rfl

@[simp] theorem above_silent (w : Saying) : w.above silent = w := by
  cases w <;> rfl

/-- What can be found where the layers say `w`: after a disturbance anything, and what is hidden
may be replaced by a table that does not have it. -/
inductive Allows : Saying → Saying → Prop
  | same (w : Saying) : Allows w w
  | replaced : Allows hides silent
  | disturbed (w : Saying) : Allows disturbs w

theorem Allows.trans {a b c : Saying} (hab : Allows a b) (hbc : Allows b c) : Allows a c := by
  cases hab with
  | same => exact hbc
  | disturbed => exact .disturbed c
  | replaced =>
    cases hbc with
    | same => exact .replaced

theorem Allows.above {a b : Saying} (h : Allows a b) (upper : Saying) :
    Allows (upper.above a) (upper.above b) := by
  cases upper with
  | silent => exact h
  | gives | nests | hides | disturbs => exact .same _

/-- Only what is hidden may be missing where nothing disturbs. -/
theorem Allows.eq {w found : Saying} (h : Allows w found) (hw : w ≠ disturbs)
    (hfound : found ≠ silent) : w = found := by
  cases h with
  | same => rfl
  | replaced => exact absurd rfl hfound
  | disturbed => exact absurd rfl hw

end Saying

open Saying (Allows)

namespace Value

def found : List String → Option Value → Saying
  | _, none => .silent
  | _, some (.table []) => .silent
  | [], some (.table (_ :: _)) => .nests
  | [], some v => .gives v
  | key :: place, some (.table es) => found place (es.lookup key)
  | _ :: _, some (.list _) => .disturbs
  | _ :: _, some _ => .hides

mutual

/-- What a value says that is laid over others. Its keys may be in letters of any case, and of two
that are the same the later one is laid over the other. -/
def saying : Value → List String → Saying
  | .table (e :: es), key :: place => sayingAmong (e :: es) key place
  | v, place => found place (some v)

def sayingAmong : List (String × Value) → String → List String → Saying
  | [], _, _ => .silent
  | (name, v) :: rest, key, place =>
    (sayingAmong rest key place).above (if Text.lower name = key then saying v place else .silent)

end

@[simp] theorem found_none (place : List String) : found place none = .silent := by
  cases place <;> rfl

@[simp] theorem found_empty (place : List String) : found place (some (.table [])) = .silent := by
  cases place <;> rfl

theorem found_table (key : String) (place : List String) (es : List (String × Value)) :
    found (key :: place) (some (.table es)) = found place (es.lookup key) := by
  cases es with
  | nil => simp
  | cons => rfl

theorem found_entries (key : String) (place : List String) (old : Option Value) :
    Allows (found (key :: place) old) (found place (((old.map entries).getD []).lookup key)) := by
  cases old with
  | none => simpa using .same _
  | some v =>
    cases v with
    | table es =>
      rw [found_table]
      exact .same _
    | list => exact .disturbed _
    | null | bool | integer | real | text => simpa [entries] using .replaced

theorem lookup_change (key : String) (f : Option Value → Value) (es : List (String × Value))
    (k : String) :
    (change key f es).lookup k =
      if Text.lower key = k then some (f (es.lookup k)) else es.lookup k := by
  rw [change, Dict.lookup_put]
  by_cases h : Text.lower key = k
  · rw [if_pos h, if_pos h.symm, h]
  · rw [if_neg h, if_neg (Ne.symm h)]

theorem change_ne_nil (key : String) (f : Option Value → Value) (es : List (String × Value)) :
    change key f es ≠ [] := by
  cases es with
  | nil => exact List.cons_ne_nil _ _
  | cons e es =>
    rw [change, Dict.put]
    split <;> exact List.cons_ne_nil _ _

theorem layAll_ne_nil (es : List (String × Value)) {below : List (String × Value)}
    (h : below ≠ []) : layAll es below ≠ [] := by
  induction es generalizing below with
  | nil => rwa [layAll]
  | cons e es ih =>
    rw [layAll]
    exact ih (change_ne_nil _ _ _)

theorem found_nil_table {es : List (String × Value)} (h : es ≠ []) :
    found [] (some (.table es)) = .nests := by
  cases es with
  | nil => exact absurd rfl h
  | cons => rfl

mutual

/-- What is found where a value has been laid over others follows from what the value says and from
what was found before. -/
theorem found_layOver (v : Value) (below : Option Value) (place : List String) :
    Allows ((saying v place).above (found place below)) (found place (some (layOver v below))) := by
  cases v with
  | table es =>
    cases es with
    | nil =>
      have hkept : found place (some (below.getD (.table []))) = found place below := by
        cases below with
        | none => simp
        | some w => rfl
      simp only [saying, layOver, found_empty, Saying.silent_above, hkept]
      exact .same _
    | cons e es =>
      cases place with
      | nil =>
        have hentries : layAll (e :: es) ((below.map entries).getD []) ≠ [] := by
          rw [layAll]
          exact layAll_ne_nil _ (change_ne_nil _ _ _)
        rw [layOver, found_nil_table hentries]
        exact .same _
      | cons key place =>
        rw [layOver, saying, found_table]
        exact ((found_entries key place below).above _).trans
          (found_layAll (e :: es) ((below.map entries).getD []) key place)
  | null | bool | integer | real | text | list =>
    cases place with
    | nil | cons => exact .same _

theorem found_layAll (es below : List (String × Value)) (key : String) (place : List String) :
    Allows ((sayingAmong es key place).above (found place (below.lookup key)))
      (found place ((layAll es below).lookup key)) := by
  cases es with
  | nil => exact .same _
  | cons e es =>
    obtain ⟨name, v⟩ := e
    rw [layAll, sayingAmong, Saying.above_assoc]
    -- The other entries are laid over what this one has made of the entries below.
    have hrest := found_layAll es (change name (layOver v) below) key place
    rw [lookup_change] at hrest
    by_cases hname : Text.lower name = key
    · rw [if_pos hname] at hrest ⊢
      exact ((found_layOver v (below.lookup key) place).above _).trans hrest
    · rw [if_neg hname] at hrest ⊢
      exact hrest

end

def sayingAt (v : Value) : Step → List Step → List String → Saying
  | .item _, _, _ => .disturbs
  | .key _, _, [] => .nests
  | .key name, [], key :: place => if Text.lower name = key then saying v place else .silent
  | .key name, step :: steps, key :: place =>
    if Text.lower name = key then sayingAt v step steps place else .silent

theorem entries_getD_null (old : Option Value) :
    (old.getD .null).entries = (old.map entries).getD [] := by
  cases old <;> rfl

-- The old value is an option, since a path makes the tables that it needs out of nothing.
theorem found_put (v : Value) (step : Step) (steps : List Step) (old : Option Value)
    (place : List String) :
    Allows ((sayingAt v step steps place).above (found place old))
      (found place (some (put v step steps (old.getD .null)))) := by
  induction steps generalizing step old place with
  | nil =>
    cases step with
    | item n => exact .disturbed _
    | key name =>
      cases place with
      | nil =>
        rw [put, found_nil_table (change_ne_nil _ _ _)]
        exact .same _
      | cons key place =>
        rw [put, sayingAt, found_table, lookup_change, entries_getD_null]
        by_cases hname : Text.lower name = key
        · rw [if_pos hname, if_pos hname]
          exact ((found_entries key place old).above _).trans (found_layOver v _ place)
        · rw [if_neg hname, if_neg hname]
          exact found_entries key place old
  | cons next steps ih =>
    cases step with
    | item n => exact .disturbed _
    | key name =>
      cases place with
      | nil =>
        rw [put, found_nil_table (change_ne_nil _ _ _)]
        exact .same _
      | cons key place =>
        rw [put, sayingAt, found_table, lookup_change, entries_getD_null]
        by_cases hname : Text.lower name = key
        · rw [if_pos hname, if_pos hname]
          exact ((found_entries key place old).above _).trans (ih next _ place)
        · rw [if_neg hname, if_neg hname]
          exact found_entries key place old

end Value

abbrev Assignment := Path × Value

def sayingOf : List Assignment → List String → Saying
  | [], _ => .silent
  | a :: rest, place => (sayingOf rest place).above (a.2.sayingAt (.key a.1.root) a.1.steps place)

theorem sayingOf_append (as bs : List Assignment) (place : List String) :
    sayingOf (as ++ bs) place = (sayingOf bs place).above (sayingOf as place) := by
  induction as with
  | nil => simp [sayingOf]
  | cons a as ih => rw [List.cons_append, sayingOf, sayingOf, ih, Saying.above_assoc]

def assign (below : Value) (as : List Assignment) : Value :=
  as.foldl (fun below a ↦ a.2.putAt a.1 below) below

theorem found_assign (as : List Assignment) (below : Value) (place : List String) :
    Allows ((sayingOf as place).above (Value.found place (some below)))
      (Value.found place (some (assign below as))) := by
  induction as generalizing below with
  | nil => exact .same _
  | cons a as ih =>
    rw [sayingOf, Saying.above_assoc]
    have hput := Value.found_put a.2 (.key a.1.root) a.1.steps (some below) place
    exact (hput.above _).trans (ih (a.2.putAt a.1 below))

/-- The entries of a file as assignments. A key that is no path is a name as it stands. -/
def assignments (file : List (String × Value)) : List Assignment :=
  file.map fun e ↦ ((Path.read? e.1).getD ⟨e.1, []⟩, e.2)

theorem layFile_eq (below : Value) (file : List (String × Value)) :
    layFile below file = assign below (assignments file) := by
  rw [layFile, assign, assignments, List.foldl_map]

theorem ofLayers?_eq (files : List (List (String × Value))) (values : List Assignment) :
    ofLayers? files values =
      ofValue? (assign (toValue {}) (files.flatMap assignments ++ values)) := by
  have hfiles : ∀ below, files.foldl layFile below = assign below (files.flatMap assignments) := by
    induction files with
    | nil => intro below; rfl
    | cons file files ih =>
      intro below
      rw [List.foldl_cons, layFile_eq, ih, List.flatMap_cons, assign, assign, assign,
        List.foldl_append]
  rw [ofLayers?, hfiles, assign, assign, List.foldl_append]

/-- No table has two entries for one key, as long as no list comes in between. -/
inductive Distinct : Value → Prop
  | table {es : List (String × Value)} (hkeys : (es.map Prod.fst).Nodup)
    (hvalues : ∀ e ∈ es, Distinct e.2) : Distinct (.table es)
  | plain {v : Value} (h : v.entries = []) : Distinct v

namespace Distinct

open Value

theorem nodup_keys {es : List (String × Value)} (h : Distinct (.table es)) :
    (es.map Prod.fst).Nodup := by
  cases h with
  | table hkeys => exact hkeys
  | plain h =>
    obtain rfl : es = [] := h
    exact List.nodup_nil

theorem of_mem {es : List (String × Value)} (h : Distinct (.table es)) {e : String × Value}
    (he : e ∈ es) : Distinct e.2 := by
  cases h with
  | table _ hvalues => exact hvalues e he
  | plain h =>
    obtain rfl : es = [] := h
    exact absurd he List.not_mem_nil

theorem of_lookup {es : List (String × Value)} (h : Distinct (.table es)) {key : String}
    {v : Value} (hv : es.lookup key = some v) : Distinct v := by
  obtain ⟨before, after, hes, -⟩ := List.lookup_eq_some_iff.1 hv
  exact h.of_mem (e := (key, v)) (by simp [hes])

theorem table_entries {v : Value} (h : Distinct v) : Distinct (.table v.entries) := by
  cases h with
  | table hkeys hvalues => exact .table hkeys hvalues
  | plain h =>
    rw [h]
    exact .plain rfl

theorem change {es : List (String × Value)} (h : Distinct (.table es)) (key : String)
    {f : Option Value → Value}
    (hf : ∀ old : Option Value, (∀ w ∈ old, Distinct w) → Distinct (f old)) :
    Distinct (.table (Value.change key f es)) := by
  have hnew : Distinct (f (es.lookup (Text.lower key))) := hf _ fun w hw ↦ h.of_lookup hw
  refine .table ?_ fun e he ↦ ?_
  · exact (Dict.insert ⟨es, h.nodup_keys⟩ (Text.lower key) _).nodup_keys
  · rcases Dict.mem_put he with rfl | he
    · exact hnew
    · exact h.of_mem he

theorem entries_getD {below : Option Value} (h : ∀ w ∈ below, Distinct w) :
    Distinct (.table ((below.map entries).getD [])) := by
  cases below with
  | none => exact .plain rfl
  | some w => exact (h w rfl).table_entries

mutual

theorem layOver (v : Value) {below : Option Value} (h : ∀ w ∈ below, Distinct w) :
    Distinct (Value.layOver v below) := by
  cases v with
  | table es =>
    cases es with
    | nil =>
      cases below with
      | none => exact .plain rfl
      | some w => exact h w rfl
    | cons e es =>
      rw [Value.layOver]
      exact layAll (e :: es) (entries_getD h)
  | null | bool | integer | real | text | list => exact .plain rfl

theorem layAll (es : List (String × Value)) {below : List (String × Value)}
    (h : Distinct (.table below)) : Distinct (.table (Value.layAll es below)) := by
  cases es with
  | nil => exact h
  | cons e es =>
    obtain ⟨name, v⟩ := e
    exact layAll es (h.change name fun old hold ↦ layOver v hold)

end

theorem put (v : Value) (step : Step) (steps : List Step) {old : Option Value}
    (h : ∀ w ∈ old, Distinct w) : Distinct (Value.put v step steps (old.getD .null)) := by
  induction steps generalizing step old with
  | nil =>
    cases step with
    | item n => exact .plain rfl
    | key name =>
      rw [Value.put, entries_getD_null]
      exact (entries_getD h).change name fun old hold ↦ layOver v hold
  | cons next steps ih =>
    cases step with
    | item n => exact .plain rfl
    | key name =>
      rw [Value.put, entries_getD_null]
      exact (entries_getD h).change name fun old hold ↦ ih next hold

theorem assign (as : List Assignment) {below : Value} (h : Distinct below) :
    Distinct (Settings.assign below as) := by
  induction as generalizing below with
  | nil => exact h
  | cons a as ih =>
    have hbelow : ∀ w ∈ some below, Distinct w := by simpa using h
    have hput : Distinct (a.2.putAt a.1 below) := put a.2 (.key a.1.root) a.1.steps hbelow
    exact ih hput

end Distinct

end WikiStream.Settings
